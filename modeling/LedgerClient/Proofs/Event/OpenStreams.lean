import LedgerClient.Proofs.Event.InFlight
import Mathlib.Algebra.Order.Group.Multiset
import Mathlib.Tactic.Abel

/-!
# Streams that are left open

A stream is opened when a send makes it the current one, and it is to be released once: by the
send that takes it out, or by the shutdown that does. Here the streams of all sends of a hub are
counted, with any number of sends waiting at a time. A send makes its stream the current one
without a look at what is there by then. So the stream of another send, which has become current
while it waited, is dropped and never released.

## Main results

* `Moment.Step.held_eq`: a section releases a stream that was taken out, or keeps what there is.
* `Traffic.Reached.accounted`: every stream is released, held, or dropped for another one, and
  this once.
* `Traffic.open_streams`: the open streams are the current one and those that were dropped, and
  these are streams of sends that overlapped with others.
-/

namespace LedgerClient

open Relation (ReflTransGen)

variable {ε ι : Type}

/-! ### What a hub holds -/

/-- The streams that a hub holds: the current one, and those that were taken out and are still to
be released. -/
def Moment.held (m : Moment ε ι) : Multiset (ActiveStream ι) :=
  m.state.stream.toList + m.tasks.flatMap HubTask.takenOut

/-- When nothing is left to do, a hub holds its current stream. -/
theorem Moment.held_of_rest {m : Moment ε ι} (h : m.tasks = []) :
    m.held = m.state.stream.toList := by
  rw [Moment.held, h]
  exact add_zero _

/-- A section releases streams that were taken out before, and holds on to all others. -/
theorem Moment.Step.held_eq {w : Surroundings ε ι} {hub : String} {m m' : Moment ε ι}
    (hs : m.Step w hub m') : m.held = m.releases + m'.held := by
  cases hs with
  | closeBegun h =>
      obtain ⟨-, rfl, rfl⟩ := HubState.of_beginClose_eq_some h
      simp [Moment.held, Moment.releases, HubTask.takenOut, HubState.closed]
  | @closeEnded s e stream tasks history =>
      have hflat : ((.endClose stream :: tasks : List (HubTask ε ι)).flatMap HubTask.takenOut) =
          stream.toList ++ tasks.flatMap HubTask.takenOut := List.flatMap_cons
      simp only [Moment.held, hflat, ← Multiset.coe_add]
      exact add_left_comm _ _ _
  | flushBegun h =>
      obtain ⟨-, rfl⟩ := HubState.of_beginDrain_eq_some h
      rfl
  | drainEnded h =>
      obtain ⟨-, rfl⟩ := HubState.of_nextNotice_eq_none h
      rfl
  | handedOver h =>
      obtain ⟨_, -, rfl⟩ := HubState.of_nextNotice_eq_some h
      rfl
  | closeDropped | flushSkipped | returned | registered | unregistered | closeAsked | resumed =>
      simp [Moment.held, Moment.releases, HubTask.takenOut]

/-- An operation that is no part of a send takes no stream out at its beginning. -/
theorem HubCall.begin_takenOut {w : Surroundings ε ι} {hub : String} {c : HubCall ι}
    (hc : c.NoSend hub) (s : HubState ι) (e : ε) (history : List HubMark) :
    (c.begin w hub s e history).tasks.flatMap HubTask.takenOut = [] := by
  cases c with
  | register | unregister | close => rfl
  | stopStream | install => exact hc.elim
  | read generation event =>
      rw [HubCall.begin]
      split
      · cases hr : event.reading hub s with
        | block block =>
            rw [HubState.takeIn_of_block hr]
            simp only
            split <;> rfl
        | finish t =>
            rw [HubState.takeIn_of_finish hr]
            rfl
      · rfl

/-- So the hub holds what it held. -/
theorem HubCall.begin_held {w : Surroundings ε ι} {hub : String} {c : HubCall ι}
    (hc : c.NoSend hub) (s : HubState ι) (e : ε) (history : List HubMark) :
    (c.begin w hub s e history).held = s.stream.toList := by
  rw [Moment.held, HubCall.begin_takenOut hc, HubCall.begin_stream hc]
  exact add_zero _

/-! ### What has become of streams -/

namespace TrafficMark

/-- The stream that became the current one. -/
def installed? : TrafficMark ι → Option (ActiveStream ι)
  | installed _ a _ => some a
  | begun _ | failed _ | released _ => none

/-- The stream that was dropped for it. -/
def dropped? : TrafficMark ι → Option (ActiveStream ι)
  | installed _ _ replaced => replaced
  | begun _ | failed _ | released _ => none

/-- The stream that was released. -/
def released? : TrafficMark ι → Option (ActiveStream ι)
  | released a => some a
  | begun _ | failed _ | installed _ _ _ => none

/-- Releases tell of the streams that are released, and of nothing else. -/
theorem filterMap_released (as : List (ActiveStream ι)) :
    (as.map released).filterMap installed? = [] ∧ (as.map released).filterMap dropped? = [] ∧
      (as.map released).filterMap released? = as := by
  induction as with
  | nil => exact ⟨rfl, rfl, rfl⟩
  | cons a rest ih =>
      obtain ⟨hinstalled, hdropped, hreleased⟩ := ih
      refine ⟨?_, ?_, ?_⟩
      · rw [List.map_cons, List.filterMap_cons_none rfl, hinstalled]
      · rw [List.map_cons, List.filterMap_cons_none rfl, hdropped]
      · exact congrArg (a :: ·) hreleased

end TrafficMark

namespace Traffic

open TrafficMark

/-- The streams that have been the current one. -/
def installedStreams (T : Traffic ε ι) : Multiset (ActiveStream ι) := T.log.filterMap installed?

/-- The streams that were dropped when another one became the current one. -/
def droppedStreams (T : Traffic ε ι) : Multiset (ActiveStream ι) := T.log.filterMap dropped?

/-- The streams that have been released. -/
def releasedStreams (T : Traffic ε ι) : Multiset (ActiveStream ι) := T.log.filterMap released?

/-- A stream has been the current one and has not been released. -/
def IsOpen (T : Traffic ε ι) (a : ActiveStream ι) : Prop :=
  a ∈ T.installedStreams ∧ a ∉ T.releasedStreams

/-- A stream was dropped if that of a send took its place. -/
theorem mem_droppedStreams {T : Traffic ε ι} {a : ActiveStream ι} :
    a ∈ T.droppedStreams ↔ ∃ k b, .installed k b (some a) ∈ T.log := by
  rw [droppedStreams, Multiset.mem_coe, List.mem_filterMap]
  constructor
  · rintro ⟨m, hm, hma⟩
    cases m with
    | installed k b replaced =>
        obtain rfl : replaced = some a := hma
        exact ⟨k, b, hm⟩
    | begun | failed | released => cases hma
  · rintro ⟨k, b, hm⟩
    exact ⟨_, hm, rfl⟩

/-- The stream `a` of another send became the current one while send `k` was waiting, and then the
stream `b` of this send took its place. -/
def Overtaken (T : Traffic ε ι) (k : Nat) (a b : ActiveStream ι) : Prop :=
  ∃ earlier since later j replaced, j ≠ k ∧ .installed j a replaced ∈ since ∧
    T.log = earlier ++ .begun k :: (since ++ .installed k b (some a) :: later)

/-- A send has been waiting since a place in the log. The current stream, if there is one, is that
of another send and became so after it. -/
def WaitsSince (T : Traffic ε ι) (f : WaitingSend) : Prop :=
  ∃ earlier since, T.log = earlier ++ .begun f.number :: since ∧
    ∀ a, T.moment.state.stream = some a →
      ∃ j replaced, j ≠ f.number ∧ .installed j a replaced ∈ since

variable {w : Surroundings ε ι} {hub : String} {T T' : Traffic ε ι}

/-! ### What a section does -/

/-- No send begins or comes to the end of its waiting, and the streams `released` are released. -/
structure Quiet (T T' : Traffic ε ι) (released : List (ActiveStream ι)) : Prop where
  log : T'.log = T.log ++ released.map .released
  begun : T'.begun = T.begun
  waiting : T'.waiting = T.waiting
  held : T.moment.held = released + T'.moment.held
  generation : T.moment.state.generation ≤ T'.moment.state.generation
  stream : T'.moment.state.stream = T.moment.state.stream ∨ T'.moment.state.stream = none

/-- What a section does: nothing to sends, or a send begins, or one that waits makes its stream the
current one or gives up. -/
theorem Next.cases (h : Next w hub T T') :
    (∃ released, T.Quiet T' released) ∨
    (T.moment.tasks = [] ∧ ∃ stop, T' = T.beginSend w hub stop) ∨
    (T.moment.tasks = [] ∧ ∃ f ∈ T.waiting,
      (∃ source first e, T' = T.startStream w hub f source first e) ∨
      (∃ error e, T' = T.giveUp w hub f error e)) := by
  cases h with
  | elapse h e =>
      exact .inl ⟨[], (List.append_nil _).symm, rfl, rfl, (zero_add _).symm, Nat.le_refl _,
        .inl rfl⟩
  | call h hc =>
      refine .inl ⟨[], (List.append_nil _).symm, rfl, rfl, ?_, ?_, ?_⟩
      · rw [Moment.held_of_rest h, Traffic.call, HubCall.begin_held hc]
        exact (zero_add _).symm
      · exact (HubCall.begin_advances _ _ _ _).generation_le
      · exact .inl (HubCall.begin_stream hc _ _ _)
  | step h =>
      refine .inl ⟨_, rfl, rfl, rfl, h.held_eq, h.advances.generation_le, ?_⟩
      obtain ⟨marks, hmarks⟩ := h.marks
      rw [hmarks.stream]
      split
      · exact .inr rfl
      · exact .inl rfl
  | begun h stop => exact .inr (.inl ⟨h, stop, rfl⟩)
  | started h hf source first e => exact .inr (.inr ⟨h, _, hf, .inl ⟨source, first, e, rfl⟩⟩)
  | failed h hf error e => exact .inr (.inr ⟨h, _, hf, .inr ⟨error, e, rfl⟩⟩)

/-! ### The account of streams -/

/-- Every stream that has been the current one is released, held, or dropped for another one. -/
def Counted (T : Traffic ε ι) : Prop :=
  T.installedStreams = T.releasedStreams + T.moment.held + T.droppedStreams

/-- Each section keeps the account. -/
theorem Next.counted (h : Next w hub T T') (hT : T.Counted) : T'.Counted := by
  rw [Counted, installedStreams, releasedStreams, droppedStreams] at hT ⊢
  rcases h.cases with ⟨released, hquiet⟩ | ⟨hrest, stop, rfl⟩ |
    ⟨hrest, f, -, ⟨source, first, e, rfl⟩ | ⟨error, e, rfl⟩⟩
  · obtain ⟨hinstalled, hdropped, hreleased⟩ := filterMap_released released
    simp only [hquiet.log, List.filterMap_append, hinstalled, hdropped, hreleased, List.append_nil,
      ← Multiset.coe_add, hT, hquiet.held]
    abel
  · obtain ⟨hinstalled, hdropped, hreleased⟩ := filterMap_released T.moment.state.stream.toList
    have hheld : (T.beginSend w hub stop).moment.held = 0 := rfl
    rw [Moment.held_of_rest hrest] at hT
    rw [hheld]
    simp only [beginSend, List.filterMap_append, hinstalled, hdropped, hreleased,
      List.filterMap_cons, installed?, dropped?, released?, List.filterMap_nil, List.append_nil,
      ← Multiset.coe_add, hT, add_zero]
  · have hheld : (T.startStream w hub f source first e).moment.held =
        ([⟨T.moment.state.generation + 1, source⟩] : List (ActiveStream ι)) := by
      have hread : (HubCall.read (T.moment.state.generation + 1) (.data first) :
        HubCall ι).NoSend hub := trivial
      exact HubCall.begin_held (w := w) hread _ _ _
    rw [Moment.held_of_rest hrest] at hT
    rw [hheld]
    have hdropped : [TrafficMark.installed f.number ⟨T.moment.state.generation + 1, source⟩
        T.moment.state.stream].filterMap dropped? = T.moment.state.stream.toList := by
      cases hstream : T.moment.state.stream <;> rfl
    simp only [startStream, HubState.install, List.filterMap_append, hdropped, List.filterMap_cons,
      installed?, released?, List.filterMap_nil, List.append_nil, ← Multiset.coe_add, hT]
    abel
  · have hheld : (T.giveUp w hub f error e).moment.held = T.moment.held := by
      rw [Moment.held_of_rest hrest]
      exact add_zero _
    rw [hheld]
    simp only [giveUp, List.filterMap_append, List.filterMap_cons, installed?, dropped?, released?,
      List.filterMap_nil, List.append_nil, hT]

/-- Streams become the current one under ever higher generations. -/
structure Ascending (T : Traffic ε ι) : Prop where
  increasing : (T.log.filterMap installed?).Pairwise (·.generation < ·.generation)
  bounded : ∀ a ∈ T.log.filterMap installed?, a.generation ≤ T.moment.state.generation

/-- Generations go on to ascend while no stream becomes the current one. -/
theorem Ascending.aside {added : List (TrafficMark ι)} (hT : T.Ascending)
    (hlog : T'.log = T.log ++ added) (hadded : added.filterMap installed? = [])
    (hgeneration : T.moment.state.generation ≤ T'.moment.state.generation) : T'.Ascending := by
  have hsame : T'.log.filterMap installed? = T.log.filterMap installed? := by
    rw [hlog, List.filterMap_append, hadded, List.append_nil]
  refine ⟨hsame ▸ hT.increasing, ?_⟩
  intro a ha
  exact Nat.le_trans (hT.bounded a (hsame ▸ ha)) hgeneration

/-- Each section keeps generations ascending. -/
theorem Next.ascending (h : Next w hub T T') (hT : T.Ascending) : T'.Ascending := by
  rcases h.cases with ⟨released, hquiet⟩ | ⟨hrest, stop, rfl⟩ |
    ⟨hrest, f, -, ⟨source, first, e, rfl⟩ | ⟨error, e, rfl⟩⟩
  · exact hT.aside hquiet.log (filterMap_released released).1 hquiet.generation
  · refine hT.aside (List.append_assoc _ _ _) ?_ (Nat.le_refl _)
    rw [List.filterMap_append, (filterMap_released _).1]
    rfl
  · have hlog : (T.startStream w hub f source first e).log.filterMap installed? =
        T.log.filterMap installed? ++ [⟨T.moment.state.generation + 1, source⟩] :=
      List.filterMap_append
    have hle : T.moment.state.generation + 1 ≤
        (T.startStream w hub f source first e).moment.state.generation :=
      (HubCall.begin_advances (w := w) (.read _ (.data first))
        (T.moment.state.install source f.stop) e T.moment.history).generation_le
    refine ⟨?_, ?_⟩
    · rw [hlog, List.pairwise_append]
      refine ⟨hT.increasing, List.pairwise_singleton _ _, ?_⟩
      intro a ha b hb
      obtain rfl := List.mem_singleton.mp hb
      exact Nat.lt_succ_of_le (hT.bounded a ha)
    · intro a ha
      rw [hlog] at ha
      rcases List.mem_append.mp ha with ha | ha
      · exact Nat.le_trans (Nat.le_succ_of_le (hT.bounded a ha)) hle
      · obtain rfl := List.mem_singleton.mp ha
        exact hle
  · exact hT.aside rfl rfl (Nat.le_refl _)

/-! ### The account of sends -/

/-- The sends that wait have different numbers. -/
theorem Next.numbers (h : Next w hub T T') (hle : ∀ f ∈ T.waiting, f.number ≤ T.begun)
    (hT : (T.waiting.map WaitingSend.number).Nodup) :
    (T'.waiting.map WaitingSend.number).Nodup := by
  rcases h.cases with ⟨released, hquiet⟩ | ⟨hrest, stop, rfl⟩ |
    ⟨hrest, f, -, ⟨source, first, e, rfl⟩ | ⟨error, e, rfl⟩⟩
  · rw [hquiet.waiting]
    exact hT
  · rw [beginSend, List.map_append]
    refine hT.append (List.nodup_singleton _) ?_
    intro k hk hnew
    obtain ⟨f, hf, rfl⟩ := List.mem_map.mp hk
    have hnumber : f.number = T.begun + 1 := List.mem_singleton.mp hnew
    exact absurd (hnumber ▸ hle f hf) (Nat.not_succ_le_self _)
  · exact hT.sublist (List.erase_sublist.map _)
  · exact hT.sublist (List.erase_sublist.map _)

theorem Reached.numbers (hT : Reached w hub T) : (T.waiting.map WaitingSend.number).Nodup := by
  obtain ⟨e, he⟩ := hT
  induction he with
  | refl => exact List.nodup_nil
  | tail hlater h ih => exact h.numbers (Reached.number_le ⟨e, hlater⟩) ih

/-- Two sends that wait have different numbers. -/
theorem Reached.number_ne {f g : WaitingSend} (hT : Reached w hub T) (hf : f ∈ T.waiting)
    (hg : g ∈ T.waiting.erase f) : g.number ≠ f.number := by
  intro hnumber
  obtain ⟨hne, hmem⟩ := (hT.numbers.of_map _).mem_erase_iff.mp hg
  exact hne (List.inj_on_of_nodup_map hT.numbers hmem hf hnumber)

/-- What was overtaken stays so. -/
theorem Overtaken.append {added : List (TrafficMark ι)} {k : Nat} {a b : ActiveStream ι}
    (h : T.Overtaken k a b) (hlog : T'.log = T.log ++ added) : T'.Overtaken k a b := by
  obtain ⟨earlier, since, later, j, replaced, hjk, hmem, heq⟩ := h
  refine ⟨earlier, since, later ++ added, j, replaced, hjk, hmem, ?_⟩
  simp only [hlog, heq, List.append_assoc, List.cons_append]

/-- A send that waits goes on to do so while the stream stays or is taken out. -/
theorem WaitsSince.append {added : List (TrafficMark ι)} {f : WaitingSend} (h : T.WaitsSince f)
    (hlog : T'.log = T.log ++ added)
    (hstream : T'.moment.state.stream = T.moment.state.stream ∨ T'.moment.state.stream = none) :
    T'.WaitsSince f := by
  obtain ⟨earlier, since, heq, hcurrent⟩ := h
  refine ⟨earlier, since ++ added, ?_, ?_⟩
  · rw [hlog, heq, List.append_assoc, List.cons_append]
  · intro a ha
    rcases hstream with hkept | hnone
    · obtain ⟨j, replaced, hj, hmem⟩ := hcurrent a (hkept.symm.trans ha)
      exact ⟨j, replaced, hj, List.mem_append_left _ hmem⟩
    · exact nomatch hnone.symm.trans ha

/-- Who waits has done so since its beginning, and a stream is only dropped for that of a send that
was waiting when it became the current one. -/
structure Queued (T : Traffic ε ι) : Prop where
  waits : ∀ f ∈ T.waiting, T.WaitsSince f
  overtaken : ∀ k a b, .installed k b (some a) ∈ T.log → T.Overtaken k a b

/-- While no stream becomes the current one, what was overtaken is what has been. -/
theorem Queued.overtaken_aside {added : List (TrafficMark ι)} (hT : T.Queued)
    (hlog : T'.log = T.log ++ added) (hadded : added.filterMap dropped? = []) :
    ∀ k a b, .installed k b (some a) ∈ T'.log → T'.Overtaken k a b := by
  intro k a b hm
  rw [hlog] at hm
  rcases List.mem_append.mp hm with hm | hm
  · exact (hT.overtaken k a b hm).append hlog
  · have hmem : a ∈ added.filterMap dropped? := List.mem_filterMap.mpr ⟨_, hm, rfl⟩
    rw [hadded] at hmem
    exact absurd hmem List.not_mem_nil

/-- Each section keeps the account of sends. -/
theorem Next.queued (h : Next w hub T T') (hreached : Reached w hub T) (hT : T.Queued) :
    T'.Queued := by
  rcases h.cases with ⟨released, hquiet⟩ | ⟨hrest, stop, rfl⟩ |
    ⟨hrest, f, hf, ⟨source, first, e, rfl⟩ | ⟨error, e, rfl⟩⟩
  · refine ⟨?_, hT.overtaken_aside hquiet.log (filterMap_released released).2.1⟩
    intro f hf
    exact (hT.waits f (hquiet.waiting ▸ hf)).append hquiet.log hquiet.stream
  · have hlog : (T.beginSend w hub stop).log = T.log ++
        (T.moment.state.stream.toList.map .released ++ [.begun (T.begun + 1)]) :=
      List.append_assoc _ _ _
    refine ⟨?_, hT.overtaken_aside hlog ?_⟩
    · intro f hf
      rcases List.mem_append.mp hf with hf | hf
      · exact (hT.waits f hf).append hlog (.inr rfl)
      · obtain rfl := List.mem_singleton.mp hf
        exact ⟨_, [], rfl, fun a ha => nomatch ha⟩
    · rw [List.filterMap_append, (filterMap_released _).2.1]
      rfl
  · refine ⟨?_, ?_⟩
    · intro g hg
      obtain ⟨earlier, since, heq, -⟩ := hT.waits g (List.mem_of_mem_erase hg)
      refine ⟨earlier, since ++ [.installed f.number ⟨T.moment.state.generation + 1, source⟩
        T.moment.state.stream], ?_, ?_⟩
      · simp only [startStream, HubState.install, heq, List.append_assoc, List.cons_append]
      · intro a ha
        obtain rfl := Option.some.inj (ha.symm.trans stream_startStream)
        exact ⟨_, _, (hreached.number_ne hf hg).symm, List.mem_append_right _ List.mem_cons_self⟩
    · intro k a b hm
      rcases List.mem_append.mp hm with hm | hm
      · exact (hT.overtaken k a b hm).append rfl
      · obtain ⟨earlier, since, heq, hcurrent⟩ := hT.waits f hf
        obtain ⟨rfl, rfl, hreplaced⟩ := TrafficMark.installed.inj (List.mem_singleton.mp hm)
        obtain ⟨j, replaced, hj, hmem⟩ := hcurrent a hreplaced.symm
        refine ⟨earlier, since, [], j, replaced, hj, hmem, ?_⟩
        simp only [startStream, heq, ← hreplaced, List.append_assoc, List.cons_append]
  · refine ⟨?_, hT.overtaken_aside rfl rfl⟩
    intro g hg
    exact (hT.waits g (List.mem_of_mem_erase hg)).append rfl (.inl rfl)

/-! ### Open streams -/

/-- In all runs the account of streams is kept, generations ascend, and so is the account of
sends. -/
theorem Reached.accounted (hT : Reached w hub T) : T.Counted ∧ T.Ascending ∧ T.Queued := by
  obtain ⟨e, he⟩ := hT
  induction he with
  | refl =>
      refine ⟨rfl, ⟨List.Pairwise.nil, List.forall_mem_nil _⟩, List.forall_mem_nil _, ?_⟩
      exact fun _ _ _ hm => absurd hm List.not_mem_nil
  | tail hlater h ih =>
      obtain ⟨hcounted, hascending, hqueued⟩ := ih
      exact ⟨h.counted hcounted, h.ascending hascending, h.queued ⟨e, hlater⟩ hqueued⟩

/-- The streams of a hub that has nothing left to do, whatever sends wait, whatever streams have
brought and whoever has closed the hub. A stream that was the current one once is open, that is to
say it has not been released, exactly if it still is the current one or was dropped for another
one. A stream is only dropped for that of a send that overlapped with the one it belongs to: it
became the current one while this other send was waiting. No stream is released twice. So if no
two sends overlap, the current stream is the only open one. -/
theorem open_streams (hT : Reached w hub T) (hrest : T.moment.tasks = []) :
    (∀ a, T.IsOpen a ↔
      T.moment.state.stream = some a ∨ ∃ k b, .installed k b (some a) ∈ T.log) ∧
    (∀ k a b, .installed k b (some a) ∈ T.log → ∃ earlier since later j replaced, j ≠ k ∧
      .installed j a replaced ∈ since ∧
      T.log = earlier ++ .begun k :: (since ++ .installed k b (some a) :: later)) ∧
    T.releasedStreams.Nodup := by
  obtain ⟨hcounted, hascending, hqueued⟩ := hT.accounted
  rw [Counted, Moment.held_of_rest hrest] at hcounted
  have hnodup : T.installedStreams.Nodup := by
    refine Multiset.coe_nodup.mpr (hascending.increasing.imp ?_)
    rintro a b hlt rfl
    exact Nat.lt_irrefl _ hlt
  rw [hcounted, add_assoc, Multiset.nodup_add] at hnodup
  obtain ⟨hreleased, -, hdisjoint⟩ := hnodup
  refine ⟨?_, hqueued.overtaken, hreleased⟩
  intro a
  have hheld : a ∈ (T.moment.state.stream.toList : Multiset (ActiveStream ι)) + T.droppedStreams ↔
      T.moment.state.stream = some a ∨ ∃ k b, .installed k b (some a) ∈ T.log := by
    rw [Multiset.mem_add, Multiset.mem_coe, Option.mem_toList, mem_droppedStreams]
  rw [← hheld, IsOpen, hcounted, add_assoc, Multiset.mem_add]
  constructor
  · rintro ⟨hmem, hnot⟩
    exact hmem.resolve_left hnot
  · intro hmem
    exact ⟨.inr hmem, fun hrel => Multiset.disjoint_left.mp hdisjoint hrel hmem⟩

end Traffic

/-- Surroundings that write down the sources of released streams. -/
def Surroundings.releasing : Surroundings (List Nat) Nat where
  handOver _ released := .done released
  release source released := released ++ [source]
  connectionInfo _ _ := default

namespace Traffic

/-- One send comes after another. The stream of the first one is released, and only that of the
second one is open. -/
theorem open_streams_one_by_one :
    ∃ T, Reached .releasing "hub" T ∧ T.moment.tasks = [] ∧ T.waiting = [] ∧
      T.moment.world = [10] ∧ ∀ a, T.IsOpen a ↔ a = ⟨2, 20⟩ := by
  have hbegun : Next .releasing "hub" (fresh []) _ := .begun rfl none
  have hfirst := ((ReflTransGen.single hbegun).tail (.started rfl List.mem_cons_self 10
    (.filteredBlock { number := 1 }) [])).tail (.step (.flushBegun rfl))
  have hagain := (hfirst.tail (.step (.drainEnded rfl))).tail (.begun rfl none)
  have hsecond := (hagain.tail (.started rfl List.mem_cons_self 20
    (.filteredBlock { number := 2 }) [10])).tail (.step (.flushBegun rfl))
  have hreached : Reached .releasing "hub" _ := ⟨[], hsecond.tail (.step (.drainEnded rfl))⟩
  obtain ⟨hopen, -, -⟩ := open_streams hreached rfl
  refine ⟨_, hreached, rfl, rfl, rfl, ?_⟩
  intro a
  rw [hopen]
  constructor
  · rintro (hcurrent | ⟨k, b, hdropped⟩)
    · exact (Option.some.inj hcurrent).symm
    · exact absurd (mem_droppedStreams.mpr ⟨k, b, hdropped⟩) List.not_mem_nil
  · rintro rfl
    exact .inl rfl

/-- Two sends wait at the same time. The stream of the first one becomes the current one and is
dropped when that of the second one does. No send is in progress then, and both streams are open.
When the hub is closed, only the source of the second one is released. -/
theorem open_streams_left_behind :
    ∃ T T', Reached .releasing "hub" T ∧ T.moment.tasks = [] ∧ T.waiting = [] ∧
      T.moment.state.stream = some ⟨2, 20⟩ ∧ T.IsOpen ⟨1, 10⟩ ∧ T.IsOpen ⟨2, 20⟩ ∧
      Later .releasing "hub" (T.call .releasing "hub" (.close (.closed "hub"))) T' ∧
      T'.moment.tasks = [] ∧ T'.waiting = [] ∧ T'.moment.state.stream = none ∧
      T'.moment.world = [20] ∧ T'.IsOpen ⟨1, 10⟩ := by
  have hbegun : Next .releasing "hub" (fresh []) _ := .begun rfl none
  have hwaiting := (ReflTransGen.single hbegun).tail (.begun rfl none)
  have hfirst := (hwaiting.tail (.started rfl List.mem_cons_self 10
    (.filteredBlock { number := 1 }) [])).tail (.step (.flushBegun rfl))
  have hsecond := ((hfirst.tail (.step (.drainEnded rfl))).tail (.started rfl List.mem_cons_self 20
    (.filteredBlock { number := 2 }) [])).tail (.step (.flushBegun rfl))
  refine ⟨_, _, ⟨[], hsecond.tail (.step (.drainEnded rfl))⟩, rfl, rfl, rfl, ?_, ?_,
    .head (.step (.closeBegun rfl)) (.head (.step (.flushBegun rfl))
      (.head (.step (.drainEnded rfl)) (.single (.step .closeEnded)))), rfl, rfl, rfl, rfl, ?_⟩
  · exact ⟨List.mem_cons_self, List.not_mem_nil⟩
  · exact ⟨List.mem_cons_of_mem _ List.mem_cons_self, List.not_mem_nil⟩
  · refine ⟨List.mem_cons_self, ?_⟩
    intro hreleased
    cases List.mem_singleton.mp hreleased

end Traffic

end LedgerClient
