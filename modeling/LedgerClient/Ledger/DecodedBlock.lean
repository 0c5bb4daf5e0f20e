import LedgerClient.Message.Wire

/-!
# Decoded blocks

A full block with its transactions taken apart: for each entry of the block the channel
header, the verdict, and, for endorser transactions, the actions with their results, events
and endorsements. Either every entry decodes, or the block does not.

The verdict of the entry at position `i` is byte `i` of the block's transactions filter. An
entry that the filter does not reach has not been validated.
-/

namespace LedgerClient

/-- One action of a decoded transaction. -/
structure DecodedAction where
  chaincodeId : Option ChaincodeId
  response : Response
  chaincodeEvent : Option ChaincodeEvent
  endorsements : List Endorsement
  deriving DecidableEq, Repr

/-- A decoded transaction and its position in the block. -/
structure DecodedTransaction where
  index : Nat
  txId : String
  channelId : String
  headerType : Int32
  timestamp : Option Timestamp
  validationCode : Int32
  actions : List DecodedAction
  deriving DecidableEq, Repr

/-- A decoded block. -/
structure DecodedBlock where
  number : BlockNumber
  previousHash : Bytes
  dataHash : Bytes
  transactions : List DecodedTransaction
  deriving DecidableEq, Repr

/-- Decodes one action from its payload. -/
def DecodedAction.decode (raw : Bytes) : Except DecodeError DecodedAction := do
  let payload : ChaincodeActionPayload ← Wire.decode raw
  let response : ProposalResponsePayload ←
    Wire.decode payload.action.proposalResponsePayload
  let action : ChaincodeAction ← Wire.decode response.extension
  let event : Option ChaincodeEvent ←
    if action.events.isEmpty then pure none else some <$> Wire.decode action.events
  return {
    chaincodeId := action.chaincodeId
    response := action.response
    chaincodeEvent := event
    endorsements := payload.action.endorsements }

namespace DecodedTransaction

/-- Whether the transaction invokes chaincode. -/
def isEndorserTransaction (t : DecodedTransaction) : Bool :=
  t.headerType == HeaderType.endorserTransaction.code

/-- The chaincode events of the transaction in action order. -/
def events (t : DecodedTransaction) : List ChaincodeEvent :=
  t.actions.filterMap DecodedAction.chaincodeEvent

/-- Decodes the entry at a position of a block. Only endorser transactions have actions. -/
def decode (index : Nat) (raw : Bytes) (code : Int32) :
    Except DecodeError DecodedTransaction := do
  let envelope : Envelope ← Wire.decode raw
  let payload : Payload ← Wire.decode envelope.payload
  let header : ChannelHeader ← Wire.decode payload.header.channelHeader
  let actions : List DecodedAction ←
    if header.kind? = some .endorserTransaction then do
      let transaction : Transaction ← Wire.decode payload.data
      transaction.actions.mapM fun action => DecodedAction.decode action.payload
    else pure []
  return {
    index
    txId := header.txId
    channelId := header.channelId
    headerType := header.headerType
    timestamp := header.timestamp
    validationCode := code
    actions }

end DecodedTransaction

namespace DecodedBlock

/-- The verdict of the entry at a position: the filter's byte, or `NOT_VALIDATED`. -/
def codeAt (filter : Bytes) (index : Nat) : Int32 :=
  match filter[index]? with
  | some b => Int32.ofNat b.toNat
  | none => ValidationCode.notValidated.code

/-- Decodes the entries from position `index` on; the first that fails decides. -/
def decodeEntries (filter : Bytes) : (index : Nat) → List Bytes →
    Except DecodeError (List DecodedTransaction)
  | _, [] => .ok []
  | index, raw :: rest => do
    let transaction ← DecodedTransaction.decode index raw (codeAt filter index)
    let transactions ← decodeEntries filter (index + 1) rest
    return transaction :: transactions

/-- Decodes a block. -/
def decode (block : Block) : Except DecodeError DecodedBlock := do
  let transactions ← decodeEntries block.transactionsFilter 0 block.data.data
  return {
    number := ⟨block.header.number⟩
    previousHash := block.header.previousHash
    dataHash := block.header.dataHash
    transactions }

/-- Every chaincode event with its transaction, in transaction and action order. -/
def chaincodeEvents (b : DecodedBlock) : List (DecodedTransaction × ChaincodeEvent) :=
  b.transactions.flatMap fun t => t.events.map (t, ·)

end DecodedBlock

end LedgerClient
