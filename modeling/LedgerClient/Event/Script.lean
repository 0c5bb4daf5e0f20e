import LedgerClient.Event.Hub

/-!
# Scripted listeners

Listeners whose callbacks follow a script: on a notice they close the hub, register and
unregister listeners, or panic, in the order of the script. Steps that are meant for one
notice only are struck off when it comes, before any step is taken.

An audience knows the listeners that were registered by name, writes down what the
callbacks hear and do, and keeps what listeners with a queue of their own have received.
-/

namespace LedgerClient

/-- The notices that a step of a script is meant for. -/
structure Cue where
  onEvent : Bool := true
  onTermination : Bool := true
  once : Bool := false
  deriving DecidableEq, Repr, Inhabited

/-- Whether a step is meant for a notice. -/
def Cue.admits (c : Cue) : Notice → Bool
  | .event _ => c.onEvent
  | .terminated _ => c.onTermination

/-- What a callback does. -/
inductive Script where
  | nil
  | close (cue : Cue) (next : Script)
  | unregister (cue : Cue) (name : String) (next : Script)
  | panic (cue : Cue) (next : Script)
  /-- Registers a listener with a script of its own. -/
  | register (cue : Cue) (name : String) (listener : Except EventHubError EventListener)
      (script : Script) (next : Script)

namespace Script

/-- The script without the steps that a notice uses up. -/
def struck (n : Notice) : Script → Script
  | nil => nil
  | close c next => if c.once && c.admits n then next.struck n else close c (next.struck n)
  | unregister c name next =>
    if c.once && c.admits n then next.struck n else unregister c name (next.struck n)
  | panic c next => if c.once && c.admits n then next.struck n else panic c (next.struck n)
  | register c name listener script next =>
    if c.once && c.admits n then next.struck n
    else register c name listener script (next.struck n)

end Script

/-- A hub of a session. -/
structure HubId where
  index : Nat
  deriving DecidableEq, Repr, Inhabited

/-- How a listener receives its notices. -/
inductive Ear where
  | callback (script : Script)
  /-- A queue, which takes in nothing when nobody reads it. -/
  | queue (isRead : Bool) (received : List Notice)

/-- A listener that was registered by name. -/
structure Attendee where
  name : String
  hub : HubId
  handle : ListenerHandle
  ear : Ear

/-- What a callback heard or did. -/
inductive Heard where
  | told (listener : String) (notice : Notice)
  /-- The outcome of unregistering; none if nothing was ever registered under the name. -/
  | unregistered (listener : String) (removed : Option Bool)
  | registered (listener : String) (outcome : Except EventHubError ListenerHandle)

/-- The listeners that were registered by name, in order, and what their callbacks heard and
did. -/
structure Audience where
  attendees : List Attendee := []
  heard : List Heard := []

namespace Audience

/-- The latest handle that was registered under a name. -/
def handle? (name : String) (a : Audience) : Option ListenerHandle :=
  (a.attendees.reverse.find? fun t => t.name == name).map Attendee.handle

/-- The listener under a handle of a hub. -/
def attendee? (hub : HubId) (h : ListenerHandle) (a : Audience) : Option Attendee :=
  a.attendees.find? fun t => t.hub == hub && t.handle == h

/-- Adds a listener. -/
def enrol (t : Attendee) (a : Audience) : Audience :=
  { a with attendees := a.attendees ++ [t] }

/-- Writes down what a callback heard or did. -/
def note (h : Heard) (a : Audience) : Audience :=
  { a with heard := a.heard ++ [h] }

/-- Replaces how a listener receives its notices. -/
def setEar (hub : HubId) (h : ListenerHandle) (ear : Ear) (a : Audience) : Audience :=
  { a with attendees := a.attendees.map fun t =>
      if t.hub == hub && t.handle == h then { t with ear } else t }

/-- What has been received since the last time this was asked for: what the callbacks heard
and did in order, then what came in each queue. -/
def collect (a : Audience) : List Heard × Audience :=
  let queued := a.attendees.flatMap fun t =>
    match t.ear with
    | .queue _ received => received.map (.told t.name ·)
    | .callback _ => []
  (a.heard ++ queued,
    { heard := []
      attendees := a.attendees.map fun t =>
        match t.ear with
        | .queue isRead _ => { t with ear := .queue isRead [] }
        | .callback _ => t })

end Audience

section Callbacks

variable {ε : Type}

/-- Follows a script on a notice, as the callback of the named listener of a hub. The
audience is part of the state `ε`. -/
def Script.perform (modify : (Audience → Audience) → ε → ε) (audience : ε → Audience)
    (hub : HubId) (name : String) (n : Notice) : Script → ε → Reaction ε
  | nil, e => .done e
  | close c next, e =>
    if c.admits n then .close e (next.perform modify audience hub name n)
    else next.perform modify audience hub name n e
  | unregister c target next, e =>
    if c.admits n then
      match (audience e).handle? target with
      | none =>
        next.perform modify audience hub name n (modify (·.note (.unregistered name none)) e)
      | some h =>
        .unregister h fun removed =>
          next.perform modify audience hub name n
            (modify (·.note (.unregistered name (some removed))) e)
    else next.perform modify audience hub name n e
  | panic c next, e =>
    if c.admits n then .done e else next.perform modify audience hub name n e
  | register c newcomer listener script next, e =>
    if c.admits n then
      match listener with
      | .error error =>
        next.perform modify audience hub name n
          (modify (·.note (.registered name (.error error))) e)
      | .ok l =>
        .register l fun handle =>
          next.perform modify audience hub name n
            (modify (fun a =>
              (a.enrol ⟨newcomer, hub, handle, .callback script⟩).note
                (.registered name (.ok handle))) e)
    else next.perform modify audience hub name n e

/-- Hands a notice of a hub over to its listener. -/
def Audience.handOver (modify : (Audience → Audience) → ε → ε) (audience : ε → Audience)
    (hub : HubId) (d : Delivery) (e : ε) : Reaction ε :=
  match (audience e).attendee? hub d.handle with
  | none => .done e
  | some t =>
    match t.ear with
    | .queue isRead received =>
      if isRead then
        .done (modify (·.setEar hub d.handle (.queue isRead (received ++ [d.notice]))) e)
      else .done e
    | .callback script =>
      let e := modify (fun a =>
        (a.note (.told t.name d.notice)).setEar hub d.handle
          (.callback (script.struck d.notice))) e
      script.perform modify audience hub t.name d.notice e

end Callbacks

end LedgerClient
