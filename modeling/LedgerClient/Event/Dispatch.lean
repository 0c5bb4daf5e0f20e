import LedgerClient.Event.Delivery
import LedgerClient.Event.Registry
import LedgerClient.Message.Delivery

/-!
# Dispatching blocks

Which listeners are told what about a block, and which of them are done. Four passes over
the registry follow each other: block listeners, transaction listeners, chaincode
listeners, and then every listener whose window ends with the block. A listener that is
done after its first notification leaves the registry at the end of its pass and is not
seen by later ones.

Full and filtered blocks are dispatched alike, except that chaincode events of a filtered
block come without their payload.
-/

namespace LedgerClient

/-- A block as it is dispatched: decoded in full, or filtered. -/
structure DeliveredBlock where
  number : BlockNumber
  full : Option DecodedBlock := none
  filtered : Option FilteredBlock := none
  privateData : Option PrivateDataMap := none
  deriving DecidableEq, Repr

namespace DeliveredBlock

/-- Decodes a full block for dispatch. -/
def ofBlock (hub : String) (block : Block) (privateData : Option PrivateDataMap) :
    Except Termination DeliveredBlock :=
  let number : BlockNumber := ⟨block.header.number⟩
  match DecodedBlock.decode block with
  | .ok full => .ok { number, full := some full, privateData }
  | .error e => .error (.undecodable hub number e)

/-- The block that a message of the stream carries. -/
def ofResponse (hub : String) : DeliverResponse → Except Termination (Option DeliveredBlock)
  | .status _ => .ok none
  | .filteredBlock b => .ok (some { number := ⟨b.number⟩, filtered := some b })
  | .block b => (ofBlock hub b none).map some
  | .blockAndPrivateData b data => (ofBlock hub b (some data)).map some

/-- The event about the block as such. -/
def event (b : DeliveredBlock) (hub : String) : BlockEvent :=
  { hub
    blockNumber := b.number
    block := b.full
    filteredBlock := b.filtered
    privateData := b.privateData }

/-- The id and validation code of every transaction in order. -/
def transactions (b : DeliveredBlock) : List (String × Int32) :=
  match b.filtered with
  | some f => f.filteredTransactions.map fun t => (t.txid, t.txValidationCode)
  | none =>
    match b.full with
    | some d => d.transactions.map fun t => (t.txId, t.validationCode)
    | none => []

/-- The chaincode events of a filtered transaction, without their payloads. -/
def filteredEvents (t : FilteredTransaction) : List ChaincodeEvent :=
  if t.headerType = HeaderType.endorserTransaction.code then
    match t.transactionActions with
    | some actions => actions.chaincodeActions.filterMap fun a =>
        a.chaincodeEvent.map fun e => { e with payload := [] }
    | none => []
  else []

/-- The chaincode events of the endorser transactions in order. -/
def chaincodeEvents (b : DeliveredBlock) : List ChaincodeEvent :=
  match b.filtered with
  | some f => f.filteredTransactions.flatMap filteredEvents
  | none =>
    match b.full with
    | some d => d.transactions.flatMap fun t => if t.isEndorserTransaction then t.events else []
    | none => []

end DeliveredBlock

namespace Dispatch

/-- The registry and what has been found to deliver so far. -/
structure Progress where
  registry : Registry
  deliveries : List Delivery := []

/-- Adds what a pass found and removes the listeners it is done with. -/
def Progress.add (p : Progress) (found : List (ListenerHandle × BlockEvent))
    (done : List ListenerHandle) : Progress :=
  { registry := p.registry.removeAll done
    deliveries := p.deliveries ++ found.map fun (h, e) => ⟨h, .event e⟩ }

/-- Those of some notified listeners that are done after their first notification. -/
def doneAmong (entries : List (ListenerHandle × EventListener)) : List ListenerHandle :=
  (entries.filter fun e => e.2.unregister).map Prod.fst

/-- Tells the block listeners in whose window the block lies. -/
def blockPass (hub : String) (block : DeliveredBlock) (p : Progress) : Progress :=
  if p.registry.hasBlock then
    let told := (p.registry.ofKind .block).filter fun e => e.2.inRange block.number
    p.add (told.map fun e => (e.1, block.event hub)) (doneAmong told)
  else p

/-- Tells the listeners that wait for one transaction; `done` have had theirs. -/
def toldOfTransaction (block : DeliveredBlock) (entries : List (ListenerHandle × EventListener))
    (done : List ListenerHandle) (txId : String) : List (ListenerHandle × EventListener) :=
  entries.filter fun e =>
    !done.contains e.1 && e.2.filter.matchesTransaction txId && e.2.inRange block.number

/-- Goes through the transactions of a block in order; answers with the events and the
listeners that are done. -/
def transactionEvents (hub : String) (block : DeliveredBlock)
    (entries : List (ListenerHandle × EventListener)) :
    (done : List ListenerHandle) → List (String × Int32) →
    List (ListenerHandle × BlockEvent) × List ListenerHandle
  | done, [] => ([], done)
  | done, (txId, code) :: rest =>
    let told := toldOfTransaction block entries done txId
    let event : BlockEvent :=
      { block.event hub with
        transactionId := some txId
        transactionStatus := some (ValidationCode.labelOf code) }
    let (later, done) := transactionEvents hub block entries (done ++ doneAmong told) rest
    (told.map (fun e => (e.1, event)) ++ later, done)

/-- Tells the transaction listeners. -/
def txPass (hub : String) (block : DeliveredBlock) (p : Progress) : Progress :=
  if p.registry.hasTx then
    let (found, done) :=
      transactionEvents hub block (p.registry.ofKind .tx) [] block.transactions
    p.add found done
  else p

/-- Tells the chaincode listeners in whose window the block lies, each once of all the
events it waits for. -/
def chaincodePass (hub : String) (block : DeliveredBlock) (p : Progress) : Progress :=
  if p.registry.hasChaincode then
    let events := block.chaincodeEvents
    let wanted (l : EventListener) : List ChaincodeEvent :=
      events.filter l.filter.matchesChaincodeEvent
    let told := (p.registry.ofKind .chaincode).filter fun e =>
      e.2.inRange block.number && !(wanted e.2).isEmpty
    p.add (told.map fun e => (e.1, { block.event hub with chaincodeEvents := wanted e.2 }))
      (doneAmong told)
  else p

/-- Tells every listener whose window ends with the block; they are all done. -/
def endBlockPass (hub : String) (number : BlockNumber) (p : Progress) : Progress :=
  let told := p.registry.entries.filter fun e => e.2.isEndBlock number
  p.add (told.map fun e => (e.1, BlockEvent.endBlock hub number)) (told.map Prod.fst)

end Dispatch

/-- What listeners are told about a block, in order, and the registry afterwards. -/
def dispatch (hub : String) (registry : Registry) (block : DeliveredBlock) :
    Registry × List Delivery :=
  let p := Dispatch.endBlockPass hub block.number <| Dispatch.chaincodePass hub block <|
    Dispatch.txPass hub block <| Dispatch.blockPass hub block { registry }
  (p.registry, p.deliveries)

end LedgerClient
