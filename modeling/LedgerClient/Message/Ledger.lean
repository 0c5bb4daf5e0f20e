import LedgerClient.Message.Header

/-!
# Blocks

Blocks as the ledger stores them, the filtered form that only tells what became of each
transaction, and the private data that may come with a block.
-/

namespace LedgerClient

/-- Number of a block, and the hashes that chain it to the one before. -/
structure BlockHeader where
  number : UInt64 := 0
  previousHash : Bytes := []
  dataHash : Bytes := []
  deriving DecidableEq, Repr, Inhabited

def BlockHeader.codec : Codec BlockHeader :=
  (Codec.u64.pair <| Codec.bytes.pair Codec.bytes).iso
    (fun (number, previousHash, dataHash) => ⟨number, previousHash, dataHash⟩)
    (fun b => (b.number, b.previousHash, b.dataHash))

/-- The encoded envelopes of a block, one per transaction. -/
structure BlockData where
  data : List Bytes := []
  deriving DecidableEq, Repr, Inhabited

def BlockData.codec : Codec BlockData :=
  (Codec.list Codec.bytes).iso (⟨·⟩) BlockData.data

/-- What the ordering service and the committing peer noted about a block. -/
structure BlockMetadata where
  metadata : List Bytes := []
  deriving DecidableEq, Repr, Inhabited

def BlockMetadata.codec : Codec BlockMetadata :=
  (Codec.list Codec.bytes).iso (⟨·⟩) BlockMetadata.metadata

/-- A full block. -/
structure Block where
  header : BlockHeader := {}
  data : BlockData := {}
  metadata : BlockMetadata := {}
  deriving DecidableEq, Repr, Inhabited

def Block.codec : Codec Block :=
  (BlockHeader.codec.pair <| BlockData.codec.pair BlockMetadata.codec).iso
    (fun (header, data, metadata) => ⟨header, data, metadata⟩)
    (fun b => (b.header, b.data, b.metadata))

/-- The position of the transactions filter among a block's metadata. -/
def Block.transactionsFilterIndex : Nat := 2

/-- One validation code per transaction; empty if the block has no such entry. -/
def Block.transactionsFilter (b : Block) : Bytes :=
  (b.metadata.metadata[transactionsFilterIndex]?).getD []

/-- An event that a chaincode raised in a transaction. -/
structure ChaincodeEvent where
  chaincodeId : String := ""
  txId : String := ""
  eventName : String := ""
  payload : Bytes := []
  deriving DecidableEq, Repr, Inhabited

def ChaincodeEvent.codec : Codec ChaincodeEvent :=
  (Codec.text.pair <| Codec.text.pair <| Codec.text.pair Codec.bytes).iso
    (fun (chaincodeId, txId, eventName, payload) => ⟨chaincodeId, txId, eventName, payload⟩)
    (fun c => (c.chaincodeId, c.txId, c.eventName, c.payload))

/-- What a filtered block tells of one action: its event, without the payload on the network. -/
structure FilteredChaincodeAction where
  chaincodeEvent : Option ChaincodeEvent := none
  deriving DecidableEq, Repr, Inhabited

def FilteredChaincodeAction.codec : Codec FilteredChaincodeAction :=
  (Codec.option ChaincodeEvent.codec).iso (⟨·⟩) FilteredChaincodeAction.chaincodeEvent

/-- The actions of a filtered transaction. -/
structure FilteredTransactionActions where
  chaincodeActions : List FilteredChaincodeAction := []
  deriving DecidableEq, Repr, Inhabited

def FilteredTransactionActions.codec : Codec FilteredTransactionActions :=
  (Codec.list FilteredChaincodeAction.codec).iso (⟨·⟩) FilteredTransactionActions.chaincodeActions

/-- What a filtered block tells of one transaction. -/
structure FilteredTransaction where
  txid : String := ""
  headerType : Int32 := 0
  txValidationCode : Int32 := 0
  transactionActions : Option FilteredTransactionActions := none
  deriving DecidableEq, Repr, Inhabited

def FilteredTransaction.codec : Codec FilteredTransaction :=
  (Codec.text.pair <| Codec.i32.pair <| Codec.i32.pair (Codec.option
    FilteredTransactionActions.codec)).iso
    (fun (txid, headerType, txValidationCode, transactionActions) => ⟨txid, headerType,
      txValidationCode, transactionActions⟩)
    (fun f => (f.txid, f.headerType, f.txValidationCode, f.transactionActions))

/-- A block reduced to the outcomes of its transactions. -/
structure FilteredBlock where
  channelId : String := ""
  number : UInt64 := 0
  filteredTransactions : List FilteredTransaction := []
  deriving DecidableEq, Repr, Inhabited

def FilteredBlock.codec : Codec FilteredBlock :=
  (Codec.text.pair <| Codec.u64.pair (Codec.list FilteredTransaction.codec)).iso
    (fun (channelId, number, filteredTransactions) => ⟨channelId, number, filteredTransactions⟩)
    (fun f => (f.channelId, f.number, f.filteredTransactions))

/-- The private reads and writes of one collection. -/
structure CollectionPvtReadWriteSet where
  collectionName : String := ""
  rwset : Bytes := []
  deriving DecidableEq, Repr, Inhabited

def CollectionPvtReadWriteSet.codec : Codec CollectionPvtReadWriteSet :=
  (Codec.text.pair Codec.bytes).iso
    (fun (collectionName, rwset) => ⟨collectionName, rwset⟩)
    (fun c => (c.collectionName, c.rwset))

/-- The private reads and writes of one chaincode. -/
structure NsPvtReadWriteSet where
  chaincode : String := ""
  collectionPvtRwset : List CollectionPvtReadWriteSet := []
  deriving DecidableEq, Repr, Inhabited

def NsPvtReadWriteSet.codec : Codec NsPvtReadWriteSet :=
  (Codec.text.pair (Codec.list CollectionPvtReadWriteSet.codec)).iso
    (fun (chaincode, collectionPvtRwset) => ⟨chaincode, collectionPvtRwset⟩)
    (fun n => (n.chaincode, n.collectionPvtRwset))

/-- The private reads and writes of one transaction. -/
structure TxPvtReadWriteSet where
  dataModel : Int32 := 0
  nsPvtRwset : List NsPvtReadWriteSet := []
  deriving DecidableEq, Repr, Inhabited

def TxPvtReadWriteSet.codec : Codec TxPvtReadWriteSet :=
  (Codec.i32.pair (Codec.list NsPvtReadWriteSet.codec)).iso
    (fun (dataModel, nsPvtRwset) => ⟨dataModel, nsPvtRwset⟩)
    (fun t => (t.dataModel, t.nsPvtRwset))

/-- Private data by the position of the transaction in its block. -/
abbrev PrivateDataMap := SortedMap UInt64 TxPvtReadWriteSet

def PrivateDataMap.codec : Codec PrivateDataMap :=
  Codec.sortedMap .u64 TxPvtReadWriteSet.codec

end LedgerClient
