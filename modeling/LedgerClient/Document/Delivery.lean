import LedgerClient.Document.Ledger
import LedgerClient.Message.Delivery

/-!
# Documents of delivery

What is asked of ordering and delivery services, and what they answer.
-/

namespace LedgerClient

instance : Form BlockType := .words BlockType.all BlockType.label (some .filtered)

instance : Form SeekPosition where
  document
    | .newest => .text "Newest"
    | .oldest => .text "Oldest"
    | .specified n => .object [("Specified", shown n)]
  read? d := do
    match ← d.variant? with
    | ("Newest", _) => return .newest
    | ("Oldest", _) => return .oldest
    | ("Specified", n) => return .specified (← Form.read? n)
    | _ => none
  absent? := none

instance : Form SeekBehavior :=
  .words SeekBehavior.all
    (fun | .blockUntilReady => "BlockUntilReady" | .failIfNotReady => "FailIfNotReady") none

instance : Form SeekInfo := .record <|
  SeekInfo.mk <$> field "start" (·.start) <*> field "stop" (·.stop)
    <*> field "behavior" (·.behavior)

instance : Form BroadcastResponse := .record <|
  BroadcastResponse.mk <$> field "status" (·.status) <*> field "info" (·.info)

instance : Form DeliverResponse where
  document
    | .status s => .object [("Status", shown s)]
    | .block b => .object [("Block", shown b)]
    | .filteredBlock b => .object [("FilteredBlock", shown b)]
    | .blockAndPrivateData b data =>
      .object [("BlockAndPrivateData", .object [("block", shown b), ("private_data_map", shown data)])]
  read? d := do
    match ← d.variant? with
    | ("Status", s) => return .status (← Form.read? s)
    | ("Block", b) => return .block (← Form.read? b)
    | ("FilteredBlock", b) => return .filteredBlock (← Form.read? b)
    | ("BlockAndPrivateData", b) =>
      return .blockAndPrivateData (← b.get? "block") (← b.get? "private_data_map")
    | _ => none
  absent? := none

end LedgerClient
