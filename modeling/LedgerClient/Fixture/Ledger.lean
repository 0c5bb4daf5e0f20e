import LedgerClient.Message.Wire

/-!
# Sample blocks

Builds blocks from short descriptions of their transactions, in the full and in the
filtered form. Both forms tell the same of every transaction, except that the full form
gives an endorser transaction without events one action without an event.
-/

namespace LedgerClient.Sample

/-- A transaction as a sample block describes it. -/
structure Tx where
  txId : String
  chaincode : String
  headerType : HeaderType := .endorserTransaction
  events : List ChaincodeEvent := []
  code : UInt8 := 0
  deriving DecidableEq, Repr, Inhabited

/-- The channel of all sample blocks. -/
def channel : String := "mychannel"

namespace Tx

/-- The action that raised a given event, or none. -/
def action (tx : Tx) (event : Option ChaincodeEvent) : TransactionAction :=
  let outcome : ChaincodeAction :=
    { events := (event.map Wire.encode).getD []
      response := { status := 200 }
      chaincodeId := some { name := tx.chaincode } }
  let response : ProposalResponsePayload :=
    { proposalHash := List.replicate 32 1, extension := Wire.encode outcome }
  let payload : ChaincodeActionPayload :=
    { action := { proposalResponsePayload := Wire.encode response } }
  { payload := Wire.encode payload }

/-- One action for each event, or a single action without one. -/
def actions (tx : Tx) : List TransactionAction :=
  match tx.events with
  | [] => [tx.action none]
  | events => events.map fun e => tx.action (some e)

/-- The encoded envelope of the transaction. -/
def envelope (tx : Tx) : Bytes :=
  let header : ChannelHeader :=
    { headerType := tx.headerType.code, channelId := channel, txId := tx.txId }
  let data : Bytes :=
    if tx.headerType = .endorserTransaction then
      Wire.encode ({ actions := tx.actions } : Transaction)
    else []
  let payload : Payload :=
    { header :=
        { channelHeader := Wire.encode header
          signatureHeader := Wire.encode ({} : SignatureHeader) }
      data }
  Wire.encode ({ payload := Wire.encode payload, signature := List.replicate 8 0 } : Envelope)

/-- What a filtered block tells of the transaction. -/
def filtered (tx : Tx) : FilteredTransaction :=
  { txid := tx.txId
    headerType := tx.headerType.code
    txValidationCode := Int32.ofNat tx.code.toNat
    transactionActions := some
      { chaincodeActions := tx.events.map fun e => { chaincodeEvent := some e } } }

end Tx

/-- The full block of some transactions. -/
def fullBlock (number : UInt64) (txs : List Tx) : Block :=
  { header :=
      { number, previousHash := List.replicate 32 0, dataHash := List.replicate 32 0 }
    data := { data := txs.map Tx.envelope }
    metadata := { metadata := [[], [], txs.map Tx.code] } }

/-- The filtered block of some transactions. -/
def filteredBlock (number : UInt64) (txs : List Tx) : FilteredBlock :=
  { channelId := channel, number, filteredTransactions := txs.map Tx.filtered }

end LedgerClient.Sample
