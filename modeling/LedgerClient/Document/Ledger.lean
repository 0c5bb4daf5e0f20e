import LedgerClient.Document.Proposal
import LedgerClient.Ledger.DecodedBlock

/-!
# Documents of blocks

Blocks as they travel, and blocks taken apart. Those taken apart are only shown.
-/

namespace LedgerClient

instance : Form BlockNumber where
  document n := shown n.value
  read? d := (Form.read? d).map (⟨·⟩)
  absent? := some ⟨0⟩

instance : Form BlockPosition where
  document
    | .newest => .text "Newest"
    | .oldest => .text "Oldest"
    | .lastSeen => .text "LastSeen"
    | .number n => .object [("Number", shown n)]
  read? d := do
    match ← d.variant? with
    | ("Newest", _) => return .newest
    | ("Oldest", _) => return .oldest
    | ("LastSeen", _) => return .lastSeen
    | ("Number", n) => return .number (← Form.read? n)
    | _ => none
  absent? := none

instance : Form ValidationCode := .words ValidationCode.all (Form.camel ·.label) none

instance : Form BlockHeader := .record <|
  BlockHeader.mk <$> field "number" (·.number) <*> field "previous_hash" (·.previousHash)
    <*> field "data_hash" (·.dataHash)

instance : Form BlockData := .record <|
  BlockData.mk <$> field "data" (·.data)

instance : Form BlockMetadata := .record <|
  BlockMetadata.mk <$> field "metadata" (·.metadata)

instance : Form Block := .record <|
  Block.mk <$> field "header" (·.header) <*> field "data" (·.data)
    <*> field "metadata" (·.metadata)

instance : Form ChaincodeEvent := .record <|
  ChaincodeEvent.mk <$> field "chaincode_id" (·.chaincodeId) <*> field "tx_id" (·.txId)
    <*> field "event_name" (·.eventName) <*> field "payload" (·.payload)

instance : Form FilteredChaincodeAction := .record <|
  FilteredChaincodeAction.mk <$> field "chaincode_event" (·.chaincodeEvent)

instance : Form FilteredTransactionActions := .record <|
  FilteredTransactionActions.mk <$> field "chaincode_actions" (·.chaincodeActions)

instance : Form FilteredTransaction := .record <|
  FilteredTransaction.mk <$> field "txid" (·.txid) <*> field "header_type" (·.headerType)
    <*> field "tx_validation_code" (·.txValidationCode)
    <*> field "transaction_actions" (·.transactionActions)

instance : Form FilteredBlock := .record <|
  FilteredBlock.mk <$> field "channel_id" (·.channelId) <*> field "number" (·.number)
    <*> field "filtered_transactions" (·.filteredTransactions)

instance : Form CollectionPvtReadWriteSet := .record <|
  CollectionPvtReadWriteSet.mk <$> field "collection_name" (·.collectionName)
    <*> field "rwset" (·.rwset)

instance : Form NsPvtReadWriteSet := .record <|
  NsPvtReadWriteSet.mk <$> field "namespace" (·.chaincode)
    <*> field "collection_pvt_rwset" (·.collectionPvtRwset)

instance : Form TxPvtReadWriteSet := .record <|
  TxPvtReadWriteSet.mk <$> field "data_model" (·.dataModel)
    <*> field "ns_pvt_rwset" (·.nsPvtRwset)

/-! ### Blocks taken apart -/

instance : Shown DecodedAction where
  document a := .object [("chaincode_id", shown a.chaincodeId), ("response", shown a.response),
    ("event", shown a.chaincodeEvent), ("endorsements", shown a.endorsements)]

instance : Shown DecodedTransaction where
  document t := .object [("index", .ofNat t.index), ("tx_id", shown t.txId),
    ("channel_id", shown t.channelId), ("header_type", shown t.headerType),
    ("timestamp", shown t.timestamp), ("validation_code", shown t.validationCode),
    ("label", shown (ValidationCode.labelOf t.validationCode)),
    ("endorser", shown t.isEndorserTransaction), ("actions", shown t.actions)]

instance : Shown DecodedBlock where
  document b := .object [("number", shown b.number), ("previous_hash", shown b.previousHash),
    ("data_hash", shown b.dataHash), ("transactions", shown b.transactions),
    ("events", .list (b.chaincodeEvents.map fun (t, e) => .list [.ofNat t.index, shown e]))]

end LedgerClient
