import LedgerClient.Scenario.Requests

/-!
# Steps about event hubs

Registers listeners with the scripts of their callbacks, or with a queue of their own,
unregisters them, and closes hubs.
-/

namespace LedgerClient.Scenario

open Work

/-! ### Scripts -/

/-- Reads which notices a step of a script is meant for. -/
def readCue? (d : Document) : Option Cue := do
  let on : Option String ← d.get? "when"
  let once : Bool ← d.get? "once"
  match on with
  | none => return { once }
  | some "event" => return { onTermination := false, once }
  | some "terminated" => return { onEvent := false, once }
  | some _ => none

/-- Reads a script, which may hold scripts of listeners to be registered, nested no deeper
than `depth`. -/
def readScript? : (depth : Nat) → List Document → Option Script
  | 0, _ => none
  | depth + 1, actions =>
    let rec steps : List Document → Option Script
      | [] => some .nil
      | d :: rest => do
        let cue ← readCue? d
        let next ← steps rest
        match ← (d.get? "do" : Option String) with
        | "close" => return .close cue next
        | "unregister" => return .unregister cue (← d.get? "id") next
        | "panic" => return .panic cue next
        | "register" => do
          let spec ← d.field? "listener"
          let nested ← readScript? depth (← spec.get? "actions")
          return .register cue (← spec.get? "id") (← EventListener.read? spec) nested next
        | _ => none
    steps actions

/-! ### Listeners -/

/-- Registers a listener under a name. -/
def register (ear : Ear) : Step := fun d => do
  let id ← hubNamed (← text d "hub")
  let name ← text d "id"
  orFault (← EventListener.read? d) fun listener => do
    let handle ← onSession? fun s => s.register id name listener ear
    report [("handle", shown handle.label), ("id", shown (toString handle.id)),
      ("state", shown (← hub id))]

/-- Registers a listener with a callback. -/
def registerCallback : Step := fun d => do
  let actions : List Document ← d.get? "actions"
  register (.callback (← readScript? 64 actions)) d

/-- Registers a listener with a queue, which may be left unread. -/
def subscribe : Step := fun d => do
  let unread : Bool ← d.get? "drop"
  register (.queue (!unread) []) d

/-- Removes the listener that was registered last under a name. -/
def unregister : Step := fun d => do
  let id ← hubNamed (← text d "hub")
  let handle ← (← session).stage.audience.handle? (← text d "id")
  let removed ← onSession? fun s => s.unregister id handle
  report [("removed", shown removed), ("state", shown (← hub id))]

/-! ### Hubs -/

/-- Shows a hub. -/
def hubState : Step := fun d => do
  answer (← hub (← hubNamed (← text d "hub")))

/-- Closes a hub or a discovery. -/
def close : Step := fun d => do
  match ← request (← text d "id") with
  | .hub id => do
    setSession (← (← session).closeHub id)
    answer (← hub id)
  | .discovery id => do
    setWorld ((← discovery id).close (← world))
    answer true
  | _ => unclear

/-- The steps about event hubs. -/
def hubSteps : List (String × Step) := [
  ("register", registerCallback), ("subscribe", subscribe), ("unregister", unregister),
  ("hub_state", hubState), ("close", close)]

end LedgerClient.Scenario
