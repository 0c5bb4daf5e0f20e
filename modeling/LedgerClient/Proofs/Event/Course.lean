import LedgerClient.Event.Hub
import LedgerClient.Proofs.Event.Sections
import Mathlib.Logic.Relation

/-!
# The course of a hub's operations

An operation of a hub may hand over notices for ever, so the functions that carry it out
only speak of operations that return. Here an operation is taken apart into its atomic
sections. A `Moment` lies between two of them: besides the hub and the outside world it
holds what is left to do, innermost first, and the marks that were made so far.

`Moment.Step` goes from one section to the next, and `Reachable` collects the moments of
all runs: any operations in any order, each begun when nothing is left to do, with any
changes of the outside world in between.

## Main results

* `HubState.onEvent_eq`: what a stream brings is a block to take in or a reason to shut
  down.
* `Moment.Step.history_prefix`: marks are only ever added.
* `Reachable.nested`: while notices are being handed over, exactly one of the things left
  to do is to go on with it, and nobody forgets a queued notice.
-/

namespace LedgerClient

/-! ### What a stream brings -/

/-- What something that a stream brings means for the hub. -/
inductive Reading where
  | block (block : DeliveredBlock)
  | finish (t : Termination)

/-- Reads a block that may fail to decode. -/
def Reading.ofDecoded : Except Termination DeliveredBlock → Reading
  | .ok b => .block b
  | .error t => .finish t

/-- Reads what the current stream brings. -/
def StreamEvent.reading {ι : Type} (hub : String) (s : HubState ι) : StreamEvent → Reading
  | .data (.status status) => .finish (s.statusTermination hub status)
  | .data (.filteredBlock b) => .block { number := ⟨b.number⟩, filtered := some b }
  | .data (.block b) => .ofDecoded (DeliveredBlock.ofBlock hub b none)
  | .data (.blockAndPrivateData b p) => .ofDecoded (DeliveredBlock.ofBlock hub b (some p))
  | .ended => .finish (.streamEnded hub)
  | .failed reason => .finish (.streamError hub reason)

namespace HubState

variable {ε ι : Type}

/-- A message is handled by what it means: a block is taken in, anything else shuts the
hub down. -/
theorem onEvent_eq (w : Surroundings ε ι) (hub : String) (generation : Nat)
    (event : StreamEvent) (s : HubState ι) (e : ε) :
    onEvent w hub generation event s e =
      match event.reading hub s with
      | .block block => onBlock w hub generation block s e
      | .finish t => closeFor w hub generation t s e := by
  cases event with
  | ended => rfl
  | failed reason => rfl
  | data message =>
      cases message with
      | status status => rfl
      | filteredBlock b => rfl
      | block b =>
          simp only [onEvent, onMessage, DeliveredBlock.ofResponse, StreamEvent.reading]
          cases DeliveredBlock.ofBlock hub b none <;> rfl
      | blockAndPrivateData b data =>
          simp only [onEvent, onMessage, DeliveredBlock.ofResponse, StreamEvent.reading]
          cases DeliveredBlock.ofBlock hub b (some data) <;> rfl

/-- A block of the current stream is taken in, notices are handed over, and if the block is
the end of the stream the hub shuts down. -/
theorem onBlock_eq (w : Surroundings ε ι) (hub : String) {generation : Nat}
    (block : DeliveredBlock) {s : HubState ι} (hcur : s.isCurrent generation = true) (e : ε) :
    onBlock w hub generation block s e =
      (flush w hub (s.receive hub block).2 e).bind fun r =>
        if s.reaches block.number then closeWith w hub (.endBlock hub block.number) r.1 r.2
        else some r := by
  simp only [onBlock, if_pos hcur]
  rfl

end HubState

/-! ### Moments -/

/-- Something that is left to do before the operation under way returns. -/
inductive HubTask (ε ι : Type) where
  /-- Shut the hub down. -/
  | close (t : Termination)
  /-- End the shutdown and release the stream that it took out. -/
  | endClose (stream : Option (ActiveStream ι))
  /-- Hand over the queued notices, unless somebody is at it. -/
  | flush
  /-- Go on handing over notices. -/
  | drain
  /-- Let a callback act. -/
  | react (r : Reaction ε)
  /-- Go on with a callback whose shutdown has returned. -/
  | resume (next : ε → Reaction ε)

/-- What is remembered of a run. -/
inductive HubMark where
  | registered (h : ListenerHandle)
  /-- A shutdown found listeners and took them out. -/
  | found (handles : List ListenerHandle)
  /-- A shutdown was dropped since another one was under way. -/
  | dropped
  /-- A notice was handed to its listener. -/
  | handed (d : Delivery)

/-- A hub between two atomic sections, and the outside world. -/
structure Moment (ε ι : Type) where
  state : HubState ι
  world : ε
  /-- What is left to do, innermost first. -/
  tasks : List (HubTask ε ι)
  history : List HubMark

/-- An operation on a hub, as far as it leaves the outside world alone before it begins. -/
inductive HubCall (ι : Type) where
  | register (listener : EventListener)
  | unregister (handle : ListenerHandle)
  | close (t : Termination)
  /-- Take the current stream out without telling anybody. -/
  | stopStream
  | install (source : ι) (stop : Option BlockPosition)
  /-- Handle what a stream brings. -/
  | read (generation : Nat) (event : StreamEvent)

section Course

variable {ε ι : Type}

/-- The section that takes in what the current stream brings, and what it leaves to do. -/
def HubState.takeIn (hub : String) (event : StreamEvent) (s : HubState ι) :
    HubState ι × List (HubTask ε ι) :=
  match event.reading hub s with
  | .block block =>
    let (reached, s) := s.receive hub block
    (s, if reached then [.flush, .close (.endBlock hub block.number)] else [.flush])
  | .finish t => (s, [.close t])

/-- Taking in a block dispatches it. -/
theorem HubState.takeIn_of_block {hub : String} {event : StreamEvent} {s : HubState ι}
    {block : DeliveredBlock} (h : event.reading hub s = .block block) :
    (s.takeIn hub event : HubState ι × List (HubTask ε ι)) =
      ((s.receive hub block).2,
        if s.reaches block.number then [.flush, .close (.endBlock hub block.number)]
        else [.flush]) := by
  rw [takeIn, h]
  rfl

/-- Anything else leaves it to a shutdown. -/
theorem HubState.takeIn_of_finish {hub : String} {event : StreamEvent} {s : HubState ι}
    {t : Termination} (h : event.reading hub s = .finish t) :
    (s.takeIn hub event : HubState ι × List (HubTask ε ι)) = (s, [.close t]) := by
  rw [takeIn, h]

/-- Begins an operation when nothing is left to do. -/
def HubCall.begin (w : Surroundings ε ι) (hub : String) (c : HubCall ι) (s : HubState ι)
    (e : ε) (history : List HubMark) : Moment ε ι :=
  match c with
  | .register listener =>
    let (handle, registry) := s.registry.insert listener
    ⟨{ s with registry }, e, [], history ++ [.registered handle]⟩
  | .unregister handle => ⟨{ s with registry := (s.registry.remove handle).2 }, e, [], history⟩
  | .close t => ⟨s, e, [.close t], history⟩
  | .stopStream => ⟨(s.stopStream w e).1, (s.stopStream w e).2, [], history⟩
  | .install source stop => ⟨s.install source stop, e, [], history⟩
  | .read generation event =>
    if s.isCurrent generation then
      let (s, tasks) := s.takeIn hub event
      ⟨s, e, tasks, history⟩
    else ⟨s, e, [], history⟩

variable (w : Surroundings ε ι) (hub : String)

/-- One atomic section of what is left to do. -/
inductive Moment.Step : Moment ε ι → Moment ε ι → Prop where
  | closeDropped {s e t tasks history}
      (h : s.beginClose (w.connectionInfo · e) t = none) :
      Step ⟨s, e, .close t :: tasks, history⟩ ⟨s, e, tasks, history ++ [.dropped]⟩
  | closeBegun {s e t tasks history s' stream}
      (h : s.beginClose (w.connectionInfo · e) t = some (s', stream)) :
      Step ⟨s, e, .close t :: tasks, history⟩
        ⟨s', e, .flush :: .endClose stream :: tasks, history ++ [.found s.registry.handles]⟩
  | closeEnded {s e stream tasks history} :
      Step ⟨s, e, .endClose stream :: tasks, history⟩
        ⟨s.endClose, HubState.releaseStream w stream e, tasks, history⟩
  | flushSkipped {s e tasks history} (h : s.beginDrain = none) :
      Step ⟨s, e, .flush :: tasks, history⟩ ⟨s, e, tasks, history⟩
  | flushBegun {s e tasks history s'} (h : s.beginDrain = some s') :
      Step ⟨s, e, .flush :: tasks, history⟩ ⟨s', e, .drain :: tasks, history⟩
  | drainEnded {s e tasks history s'} (h : s.nextNotice = (none, s')) :
      Step ⟨s, e, .drain :: tasks, history⟩ ⟨s', e, tasks, history⟩
  | handedOver {s e tasks history d s'} (h : s.nextNotice = (some d, s')) :
      Step ⟨s, e, .drain :: tasks, history⟩
        ⟨s', e, .react (w.handOver d e) :: .drain :: tasks, history ++ [.handed d]⟩
  | returned {s e e' tasks history} :
      Step ⟨s, e, .react (.done e') :: tasks, history⟩ ⟨s, e', tasks, history⟩
  | registered {s e listener next tasks history} :
      Step ⟨s, e, .react (.register listener next) :: tasks, history⟩
        ⟨{ s with registry := (s.registry.insert listener).2 }, e,
          .react (next (s.registry.insert listener).1) :: tasks,
          history ++ [.registered (s.registry.insert listener).1]⟩
  | unregistered {s e handle next tasks history} :
      Step ⟨s, e, .react (.unregister handle next) :: tasks, history⟩
        ⟨{ s with registry := (s.registry.remove handle).2 }, e,
          .react (next (s.registry.remove handle).1) :: tasks, history⟩
  | closeAsked {s e e' next tasks history} :
      Step ⟨s, e, .react (.close e' next) :: tasks, history⟩
        ⟨s, e', .close (.closed hub) :: .resume next :: tasks, history⟩
  | resumed {s e next tasks history} :
      Step ⟨s, e, .resume next :: tasks, history⟩ ⟨s, e, .react (next e) :: tasks, history⟩

/-- The moments of all runs of a hub, from the one in which it is fresh. -/
inductive Reachable : Moment ε ι → Prop where
  | fresh (e : ε) : Reachable ⟨{}, e, [], []⟩
  /-- The outside world changes between two operations. -/
  | elapse {s e history} (h : Reachable ⟨s, e, [], history⟩) (e' : ε) :
      Reachable ⟨s, e', [], history⟩
  | call {s e history} (h : Reachable ⟨s, e, [], history⟩) (c : HubCall ι) :
      Reachable (c.begin w hub s e history)
  | step {m m'} (h : Reachable m) (hs : m.Step w hub m') : Reachable m'

/-- Begun operations only add marks. -/
theorem HubCall.begin_history (c : HubCall ι) (s : HubState ι) (e : ε)
    (history : List HubMark) : history <+: (c.begin w hub s e history).history := by
  cases c with
  | register listener => exact List.prefix_append _ _
  | read generation event =>
      rw [HubCall.begin]
      split <;> exact List.prefix_rfl
  | unregister | close | stopStream | install => exact List.prefix_rfl

variable {w hub}
variable {m m' : Moment ε ι}

/-- Marks are only ever added. -/
theorem Moment.Step.history_prefix (hs : m.Step w hub m') : m.history <+: m'.history := by
  cases hs with
  | closeDropped | closeBegun | handedOver | registered => exact List.prefix_append _ _
  | _ => exact List.prefix_rfl

/-! ### How operations nest -/

/-- Whether a task goes on handing over notices. -/
def HubTask.isDrain : HubTask ε ι → Bool
  | .drain => true
  | _ => false

/-- Whether a task ends a shutdown. -/
def HubTask.isEndClose : HubTask ε ι → Bool
  | .endClose _ => true
  | _ => false

/-- Whether a task sees to it that notices are handed over. -/
def HubTask.handsOver : HubTask ε ι → Bool
  | .flush | .drain => true
  | _ => false

/-- Whether a task is part of a callback. -/
def HubTask.isCallback : HubTask ε ι → Bool
  | .react _ | .resume _ => true
  | _ => false

/-- Callbacks only run while notices are being handed over: going on with that is left to
do after them. -/
def CallbacksInside : List (HubTask ε ι) → Prop
  | [] => True
  | t :: rest => (t.isCallback = true → 0 < rest.countP HubTask.isDrain) ∧ CallbacksInside rest

/-- The flags of a hub tell what is left to do: one of the tasks hands over notices exactly
if the hub says so, one of them ends a shutdown exactly if one is under way, and no notice
stays behind in the queue. -/
structure Moment.Nested (m : Moment ε ι) : Prop where
  drains : m.tasks.countP HubTask.isDrain = if m.state.draining then 1 else 0
  closes : m.tasks.countP HubTask.isEndClose = if m.state.closing then 1 else 0
  queued : m.state.queue ≠ [] → 0 < m.tasks.countP HubTask.handsOver

/-- When nothing is left to do, the hub is at rest. -/
theorem Moment.Nested.atRest (hm : m.Nested) (ht : m.tasks = []) : m.state.AtRest := by
  obtain ⟨hd, hc, hq⟩ := hm
  rw [ht, List.countP_nil] at hd hc hq
  refine ⟨?_, ?_, ?_⟩
  · cases hdr : m.state.draining with
    | false => rfl
    | true => simp [hdr] at hd
  · cases hcl : m.state.closing with
    | false => rfl
    | true => simp [hcl] at hc
  · by_contra hne
    exact absurd (hq hne) (Nat.lt_irrefl 0)

/-- A task that goes on handing over notices sees to it that they are handed over. -/
theorem countP_isDrain_le (tasks : List (HubTask ε ι)) :
    tasks.countP HubTask.isDrain ≤ tasks.countP HubTask.handsOver := by
  refine List.countP_mono_left ?_
  intro t _ ht
  cases t <;> simp_all [HubTask.isDrain, HubTask.handsOver]

/-- What leaves the flags, the queue and the tasks that matter to them alone keeps them in
step. -/
theorem Moment.Nested.congr (hm : m.Nested) (hdr : m'.state.draining = m.state.draining)
    (hcl : m'.state.closing = m.state.closing) (hqu : m'.state.queue = m.state.queue)
    (hd : m'.tasks.countP HubTask.isDrain = m.tasks.countP HubTask.isDrain)
    (hc : m'.tasks.countP HubTask.isEndClose = m.tasks.countP HubTask.isEndClose)
    (hh : m'.tasks.countP HubTask.handsOver = m.tasks.countP HubTask.handsOver) :
    m'.Nested where
  drains := by rw [hd, hdr, hm.drains]
  closes := by rw [hc, hcl, hm.closes]
  queued := by rw [hqu, hh]; exact hm.queued

/-- Each section keeps the flags in step with what is left to do. -/
theorem Moment.Step.nested (hs : m.Step w hub m') (hm : m.Nested) : m'.Nested := by
  cases hs with
  | closeDropped | returned | registered | unregistered | closeAsked | resumed =>
      exact hm.congr rfl rfl rfl rfl rfl rfl
  | closeBegun h =>
      obtain ⟨hcl, rfl, rfl⟩ := HubState.of_beginClose_eq_some h
      have hc := hm.closes
      simp only [List.countP_cons, HubTask.isEndClose, hcl] at hc
      refine ⟨hm.drains, ?_, ?_⟩
      · simpa [HubTask.isEndClose, HubState.closed, List.countP_cons] using hc
      · intro _
        simp [HubTask.handsOver, List.countP_cons]
  | @closeEnded s e stream tasks history =>
      have hc := hm.closes
      simp only [List.countP_cons, HubTask.isEndClose] at hc
      refine ⟨hm.drains, ?_, hm.queued⟩
      simp only [HubState.endClose]
      cases hcl : s.closing <;> simp_all
  | @flushSkipped s e tasks history h =>
      have hdr := HubState.draining_of_beginDrain_eq_none h
      have hd : tasks.countP HubTask.isDrain = if s.draining then 1 else 0 := hm.drains
      refine ⟨hd, hm.closes, ?_⟩
      intro _
      have hle := countP_isDrain_le tasks
      rw [hdr, if_pos rfl] at hd
      simp only
      omega
  | @flushBegun s e tasks history s' h =>
      obtain ⟨hdr, rfl⟩ := HubState.of_beginDrain_eq_some h
      have hd : tasks.countP HubTask.isDrain = if s.draining then 1 else 0 := hm.drains
      refine ⟨?_, hm.closes, ?_⟩
      · rw [hdr, if_neg Bool.false_ne_true] at hd
        rw [List.countP_cons_of_pos rfl, hd]
        rfl
      · intro _
        simp [HubTask.handsOver]
  | @drainEnded s e tasks history s' h =>
      obtain ⟨hq, rfl⟩ := HubState.of_nextNotice_eq_none h
      have hd := hm.drains
      rw [List.countP_cons_of_pos rfl] at hd
      refine ⟨?_, hm.closes, ?_⟩
      · simp only at hd ⊢
        split at hd
        · simpa using hd
        · omega
      · intro hne
        exact absurd hq hne
  | @handedOver s e tasks history d s' h =>
      obtain ⟨rest, hq, rfl⟩ := HubState.of_nextNotice_eq_some h
      refine ⟨hm.drains, hm.closes, ?_⟩
      intro _
      simp [HubTask.handsOver]

/-- Each section keeps callbacks inside the handing over of notices. -/
theorem Moment.Step.callbacksInside (hs : m.Step w hub m') (hm : CallbacksInside m.tasks) :
    CallbacksInside m'.tasks := by
  cases hs with
  | closeDropped | closeEnded | flushSkipped | drainEnded | returned => exact hm.2
  | closeBegun => exact ⟨nofun, nofun, hm.2⟩
  | flushBegun => exact ⟨nofun, hm.2⟩
  | handedOver =>
      refine ⟨?_, hm⟩
      intro _
      rw [List.countP_cons_of_pos rfl]
      exact Nat.succ_pos _
  | registered | unregistered | resumed => exact hm
  | closeAsked => exact ⟨nofun, hm⟩

/-- An operation begins with the flags in step if nothing is left to do before. -/
theorem HubCall.begin_nested (c : HubCall ι) {s : HubState ι} {e : ε}
    {history : List HubMark} (hm : (⟨s, e, [], history⟩ : Moment ε ι).Nested) :
    (c.begin w hub s e history).Nested := by
  obtain ⟨hdr, hcl, -⟩ := hm.atRest rfl
  simp only at hdr hcl
  cases c with
  | register | unregister | close | stopStream | install =>
      exact hm.congr rfl rfl rfl rfl rfl rfl
  | read generation event =>
      rw [HubCall.begin]
      split
      · cases hr : event.reading hub s with
        | block block =>
            rw [HubState.takeIn_of_block hr]
            refine ⟨?_, ?_, ?_⟩
            · simp only [HubState.receive_snd, hdr]
              split <;> rfl
            · simp only [HubState.receive_snd, hcl]
              split <;> rfl
            · intro _
              simp only
              split <;> exact Nat.one_pos
        | finish t =>
            rw [HubState.takeIn_of_finish hr]
            exact hm.congr rfl rfl rfl rfl rfl rfl
      · exact hm

/-- At every moment of every run the flags are in step with what is left to do. -/
theorem Reachable.nested (h : Reachable w hub m) : m.Nested := by
  induction h with
  | fresh e => exact ⟨rfl, rfl, fun hne => absurd rfl hne⟩
  | elapse _ e' ih => exact ih.congr rfl rfl rfl rfl rfl rfl
  | call _ c ih => exact c.begin_nested ih
  | step _ hs ih => exact hs.nested ih

/-- An operation begins with the handing over of notices not under way, let alone a
callback. -/
theorem HubCall.begin_outside (c : HubCall ι) (s : HubState ι) (e : ε)
    (history : List HubMark) :
    ∀ t ∈ (c.begin w hub s e history).tasks, t.isCallback = false ∧ t.isDrain = false := by
  cases c with
  | register | unregister | stopStream | install => exact List.forall_mem_nil _
  | close t => exact List.forall_mem_singleton.mpr ⟨rfl, rfl⟩
  | read generation event =>
      rw [HubCall.begin]
      split
      · cases hr : event.reading hub s with
        | block block =>
            rw [HubState.takeIn_of_block hr]
            simp only
            split
            · exact List.forall_mem_cons.mpr
                ⟨⟨rfl, rfl⟩, List.forall_mem_singleton.mpr ⟨rfl, rfl⟩⟩
            · exact List.forall_mem_singleton.mpr ⟨rfl, rfl⟩
        | finish t =>
            rw [HubState.takeIn_of_finish hr]
            exact List.forall_mem_singleton.mpr ⟨rfl, rfl⟩
      · exact List.forall_mem_nil _

/-- Without callbacks there is none outside of the handing over. -/
theorem callbacksInside_of_forall {tasks : List (HubTask ε ι)}
    (h : ∀ t ∈ tasks, t.isCallback = false) : CallbacksInside tasks := by
  induction tasks with
  | nil => trivial
  | cons t rest ih =>
      obtain ⟨ht, hrest⟩ := List.forall_mem_cons.mp h
      refine ⟨?_, ih hrest⟩
      intro hcall
      exact absurd (ht.symm.trans hcall) Bool.false_ne_true

/-- At every moment of every run callbacks only run while notices are being handed over. -/
theorem Reachable.callbacksInside (h : Reachable w hub m) : CallbacksInside m.tasks := by
  induction h with
  | fresh | elapse => trivial
  | call _ c _ => exact callbacksInside_of_forall fun t ht => (c.begin_outside _ _ _ t ht).1
  | step _ hs ih => exact hs.callbacksInside ih

end Course

/-- Surroundings that write down every notice and leave the hub alone. -/
def Surroundings.recording : Surroundings (List Delivery) Unit where
  handOver d heard := .done (heard ++ [d])
  release _ heard := heard
  connectionInfo _ _ := default

end LedgerClient
