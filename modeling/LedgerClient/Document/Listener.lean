import LedgerClient.Document.Ledger
import LedgerClient.Event.Listener

/-!
# Descriptions of listeners

How a document says which blocks are asked for and what a listener listens to. A
description can be understood and still be at fault, as a pattern can that is malformed.
-/

namespace LedgerClient

/-- Reads the position of a block that a field spells. -/
def BlockPosition.readField? (d : Document) (key : String) :
    Option (Except BlockNumberError (Option BlockPosition)) := do
  let s : Option String ← d.get? key
  match s with
  | none => return .ok none
  | some s => return (BlockPosition.parse s).map some

namespace ListenerFilter

/-- Reads a filter. An unnamed chaincode is let through if nobody checks. -/
def readWith? (checked : Bool) (d : Document) : Option (Except EventHubError ListenerFilter) := do
  let kind : String ← d.get? "kind"
  match kind with
  | "block" => return .ok .block
  | "tx" => return ListenerFilter.ofTx (← d.get? "id")
  | "chaincode" => do
    let chaincode : String ← d.get? "chaincode"
    let pattern : Option String ← d.get? "pattern"
    let exact : String ← d.get? "exact"
    let name := match pattern with
      | some source => EventNameMatch.ofPattern source
      | none => .ok (.exact exact)
    return do
      if checked then ListenerFilter.ofChaincode chaincode (← name)
      else return .chaincode chaincode (← name)
  | _ => none

/-- Reads a filter; one of the kind `other` holds any filter, which nobody checks. -/
def read? (d : Document) : Option (Except EventHubError ListenerFilter) := do
  let kind : String ← d.get? "kind"
  if kind = "other" then readWith? false (← d.field? "any") else readWith? true d

end ListenerFilter

/-- Reads the options of a listener, if any are given. -/
def ListenerOptions.readField? (d : Document) : Option ListenerOptions :=
  match d.field? "options" with
  | none => some {}
  | some o => do
    return { startBlock := ← o.get? "start_block", endBlock := ← o.get? "end_block"
             unregister := ← o.get? "unregister" }

/-- Reads a listener: its filter and its options. -/
def EventListener.read? (d : Document) : Option (Except EventHubError EventListener) := do
  let filter ← ListenerFilter.read? (← d.field? "filter")
  let options ← ListenerOptions.readField? d
  return do EventListener.new (← filter) options

end LedgerClient
