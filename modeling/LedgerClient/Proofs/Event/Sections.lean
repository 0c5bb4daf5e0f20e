import LedgerClient.Event.HubState
import LedgerClient.Proofs.Event.Dispatch

/-!
# The atomic sections of a hub

What each section of a hub's operations does to the hub, said once: when it does anything
at all, and what the hub is like afterwards.
-/

namespace LedgerClient

namespace HubState

variable {ι : Type} {s s' : HubState ι}

/-- Nobody is handing over notices or shutting the hub down, and no notice waits. -/
structure AtRest (s : HubState ι) : Prop where
  draining : s.draining = false
  closing : s.closing = false
  queue : s.queue = []

/-! ### Shutting down -/

/-- The notice of a shutdown as the listeners see it: with the last block, and with the
source of the stream if it names no other connection. -/
def farewell (connectionInfo : ι → ConnectionInfo) (t : Termination) (s : HubState ι) :
    Termination :=
  { t with
    connection := t.connection <|> s.stream.map fun a => connectionInfo a.source
    lastBlockNumber := s.lastBlock }

/-- The hub once a shutdown is under way. -/
def closed (connectionInfo : ι → ConnectionInfo) (t : Termination) (s : HubState ι) :
    HubState ι :=
  { s with
    closing := true
    stream := none
    registry := s.registry.drain.2
    queue := s.queue ++
      s.registry.handles.map (⟨·, .terminated (s.farewell connectionInfo t)⟩) }

/-- A shutdown begins unless one is under way. -/
theorem beginClose_eq (connectionInfo : ι → ConnectionInfo) (t : Termination)
    (s : HubState ι) :
    s.beginClose connectionInfo t =
      if s.closing then none else some (s.closed connectionInfo t, s.stream) := by
  rfl

/-- A shutdown that begins finds no other one under way. -/
theorem of_beginClose_eq_some {connectionInfo : ι → ConnectionInfo} {t : Termination}
    {stream : Option (ActiveStream ι)} (h : s.beginClose connectionInfo t = some (s', stream)) :
    s.closing = false ∧ s' = s.closed connectionInfo t ∧ stream = s.stream := by
  rw [beginClose_eq] at h
  split at h
  · exact absurd h (by simp)
  · next hc =>
    rw [Option.some.injEq, Prod.mk.injEq] at h
    exact ⟨by simpa using hc, h.1.symm, h.2.symm⟩

/-! ### Handing over notices -/

/-- Handing over is left to whoever is at it. -/
theorem draining_of_beginDrain_eq_none (h : s.beginDrain = none) : s.draining = true := by
  unfold beginDrain at h
  split at h
  · assumption
  · exact absurd h (by simp)

/-- Handing over begins when nobody is at it. -/
theorem of_beginDrain_eq_some (h : s.beginDrain = some s') :
    s.draining = false ∧ s' = { s with draining := true } := by
  unfold beginDrain at h
  split at h
  · exact absurd h (by simp)
  · next hd =>
    rw [Option.some.injEq] at h
    exact ⟨by simpa using hd, h.symm⟩

/-- Handing over ends when the queue is empty. -/
theorem of_nextNotice_eq_none (h : s.nextNotice = (none, s')) :
    s.queue = [] ∧ s' = { s with draining := false } := by
  unfold nextNotice at h
  split at h
  · next hq =>
    rw [Prod.mk.injEq] at h
    exact ⟨hq, h.2.symm⟩
  · exact absurd h (by simp)

/-- The next notice is the oldest one. -/
theorem of_nextNotice_eq_some {d : Delivery} (h : s.nextNotice = (some d, s')) :
    ∃ rest, s.queue = d :: rest ∧ s' = { s with queue := rest } := by
  unfold nextNotice at h
  split at h
  · exact absurd h (by simp)
  · next d' rest hq =>
    rw [Prod.mk.injEq, Option.some.injEq] at h
    obtain ⟨rfl, rfl⟩ := h
    exact ⟨rest, hq, rfl⟩

/-! ### Taking in a block -/

/-- The hub after taking in a block. -/
theorem receive_snd (hub : String) (block : DeliveredBlock) (s : HubState ι) :
    (s.receive hub block).2 =
      { s with
        registry := (dispatch hub s.registry block).1
        lastBlock := some block.number
        stopSeen := s.stopSeen || s.reaches block.number
        queue := s.queue ++ (dispatch hub s.registry block).2 } := rfl

end HubState

end LedgerClient
