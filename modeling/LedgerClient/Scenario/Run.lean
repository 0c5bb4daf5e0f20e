import LedgerClient.Scenario.Hubs
import LedgerClient.Scenario.Nodes
import LedgerClient.Scenario.Sending

/-!
# Running scenarios

Runs the steps of a scenario one after another. After each step hubs read until there is
nothing left to read, and what listeners have heard is told with the answer of the step.
-/

namespace LedgerClient.Scenario

open Work

/-- All steps by name. -/
def allSteps : List (String × Step) :=
  serviceSteps ++ nodeSteps ++ requestSteps ++ sendingSteps ++ hubSteps

/-- The work that a document asks for. -/
def perform : Step := fun d => do
  let step ← allSteps.lookup (← text d "do")
  step d

/-- An answer with what listeners have heard. -/
def withDeliveries (heard : List Heard) : Document → Document
  | .object fields =>
    .object (fields ++ if heard.isEmpty then [] else [("deliveries", shown heard)])
  | d => d

/-- A step and what follows from it. -/
def step (d : Document) (desk : Desk) : Document × Desk :=
  let (reply, desk) := ((perform d).run desk).getD (.badInput, desk)
  let session := desk.session.settle.getD desk.session
  let (heard, session) := session.collect
  (withDeliveries heard reply, { desk with session })

/-- Steps one after another. -/
def run : List Document → Desk → List Document
  | [], _ => []
  | d :: rest, desk =>
    let (reply, desk) := step d desk
    reply :: run rest desk

/-- Reads the people of a scenario; `me` is always among them. -/
def readPeople? (d : Document) : Option (Except CryptoError (SortedMap String Person)) := do
  let described : SortedMap String Document ← d.get? "identities"
  let people ← described.entries.mapM fun e => return (e.1, ← Person.read? e.2)
  return do
    let people ← people.mapM fun e => e.2.map (e.1, ·)
    let people := SortedMap.ofList people
    if people.contains "me" then return people else return people.insert "me" (← Person.usual)

/-- Runs a scenario: the configuration of its client, its people, and its steps. -/
def play (d : Document) : Option Document := do
  let source : Option String ← d.get? "config"
  let people ← readPeople? d
  let steps : List Document ← d.get? "steps"
  return match (source.map ClientConfig.parse).getD (.ok {}) with
    | .error e => shownFault e
    | .ok config =>
      .answer (people.map fun people =>
        .list (run steps { session := { client := { config } }, people }))

end LedgerClient.Scenario
