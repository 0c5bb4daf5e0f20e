import LedgerClient.Proofs.Event.Operations

/-!
# Shutdowns that a stream brings about

A message of the current stream may mean that the hub is to shut down. If it is a block that
reaches the end of the stream, listeners hear of the block first, and what they do then may
close the hub before it comes to that. Here the moment is looked at in which the shutdown is
all that is left to do.

## Main results

* `Moment.Step.getLast_close`: no section makes a shutdown the last thing to do.
* `Moment.Step.marks`: only a shutdown takes the stream out, and it leaves a mark.
* `read_shutdown`: the shutdown that a message brings about, what it is for, and when the
  stream is still the current one at its beginning.
* `read_shutdown_late`: the listeners of a hub that was closed and used again meanwhile are
  told of the end of a stream that was never theirs.
-/

namespace LedgerClient

open Relation (ReflTransGen)

variable {ε ι : Type} {w : Surroundings ε ι} {hub : String} {m m' : Moment ε ι}

/-! ### What is left to do -/

/-- A section does the innermost task, and what was left to do after it stays so. -/
theorem Moment.Step.tasks_eq (hs : m.Step w hub m') :
    ∃ task added rest, m.tasks = task :: rest ∧ m'.tasks = added ++ rest := by
  cases hs with
  | closeDropped | closeEnded | flushSkipped | drainEnded | returned =>
      exact ⟨_, [], _, rfl, rfl⟩
  | flushBegun | registered | unregistered | resumed => exact ⟨_, [_], _, rfl, rfl⟩
  | closeBegun | handedOver | closeAsked => exact ⟨_, [_, _], _, rfl, rfl⟩

/-- The last thing to do stays so until it is all that is left. -/
theorem Moment.Step.getLast_eq (hs : m.Step w hub m') :
    (∃ task, m.tasks = [task]) ∨ m'.tasks.getLast? = m.tasks.getLast? := by
  obtain ⟨task, added, rest, hm, hm'⟩ := hs.tasks_eq
  cases rest with
  | nil => exact .inl ⟨task, hm⟩
  | cons next rest =>
      right
      rw [hm, hm', List.getLast?_cons_cons, List.getLast?_append_of_ne_nil _ (by simp)]

/-- No section makes a shutdown the last thing to do. -/
theorem Moment.Step.getLast_close {t : Termination} (hs : m.Step w hub m')
    (h : m'.tasks.getLast? = some (.close t)) : m.tasks.getLast? = some (.close t) := by
  rcases hs.getLast_eq with ⟨task, hm⟩ | hlast
  · cases hs with
    | _ =>
        obtain ⟨-, rfl⟩ := List.cons.inj hm
        cases h
  · rwa [← hlast]

/-- A shutdown that is the last thing to do was so from the beginning. -/
theorem getLast_close_of_steps {t : Termination} (hs : ReflTransGen (Moment.Step w hub) m m')
    (h : m'.tasks.getLast? = some (.close t)) : m.tasks.getLast? = some (.close t) := by
  induction hs with
  | refl => exact h
  | tail _ hstep ih => exact ih (hstep.getLast_close h)

/-- If a shutdown is all that is left to do, it is not so again after it has begun. -/
theorem eq_of_steps_close {t t' : Termination} (hs : ReflTransGen (Moment.Step w hub) m m')
    (hm : m.tasks = [.close t]) (hm' : m'.tasks = [.close t']) : m = m' := by
  rcases ReflTransGen.cases_head hs with rfl | ⟨m₁, hfirst, hrest⟩
  · rfl
  · have hlast := getLast_close_of_steps hrest (by rw [hm']; rfl)
    cases hfirst with
    | _ =>
        obtain ⟨-, rfl⟩ := List.cons.inj hm
        cases hlast

/-! ### What becomes of the stream -/

/-- Whether a mark is that of a shutdown that has begun. -/
def HubMark.isFound : HubMark → Bool
  | .found _ => true
  | .registered _ | .dropped | .handed _ => false

/-- Marks are added to the history. If one of them is that of a shutdown, the stream is gone,
and otherwise it is what it was. -/
structure Moment.Since (m m' : Moment ε ι) (more : List HubMark) : Prop where
  history : m'.history = m.history ++ more
  stream : m'.state.stream = if more.any HubMark.isFound then none else m.state.stream

/-- Nothing has happened between a moment and itself. -/
theorem Moment.Since.refl (m : Moment ε ι) : m.Since m [] where
  history := (List.append_nil _).symm
  stream := rfl

theorem Moment.Since.trans {m m₁ m' : Moment ε ι} {more more' : List HubMark}
    (h : m.Since m₁ more) (h' : m₁.Since m' more') : m.Since m' (more ++ more') where
  history := by rw [h'.history, h.history, List.append_assoc]
  stream := by
    rw [h'.stream, h.stream, List.any_append]
    cases more.any HubMark.isFound <;> cases more'.any HubMark.isFound <;> rfl

/-- What leaves the stream alone makes no mark or one that is not of a shutdown. -/
theorem Moment.Since.of_stream_eq {more : List HubMark}
    (hhistory : m'.history = m.history ++ more) (hstream : m'.state.stream = m.state.stream)
    (hmore : more.any HubMark.isFound = false) : m.Since m' more where
  history := hhistory
  stream := by rw [hmore, hstream]; rfl

/-- Only a shutdown takes the stream out, and it leaves a mark. -/
theorem Moment.Step.marks (hs : m.Step w hub m') : ∃ more, m.Since m' more := by
  cases hs with
  | closeBegun h =>
      obtain ⟨-, rfl, rfl⟩ := HubState.of_beginClose_eq_some h
      exact ⟨_, rfl, rfl⟩
  | flushBegun h =>
      obtain ⟨-, rfl⟩ := HubState.of_beginDrain_eq_some h
      exact ⟨[], .of_stream_eq (List.append_nil _).symm rfl rfl⟩
  | drainEnded h =>
      obtain ⟨-, rfl⟩ := HubState.of_nextNotice_eq_none h
      exact ⟨[], .of_stream_eq (List.append_nil _).symm rfl rfl⟩
  | handedOver h =>
      obtain ⟨_, -, rfl⟩ := HubState.of_nextNotice_eq_some h
      exact ⟨_, .of_stream_eq rfl rfl rfl⟩
  | closeDropped | registered => exact ⟨_, .of_stream_eq rfl rfl rfl⟩
  | closeEnded | flushSkipped | returned | unregistered | closeAsked | resumed =>
      exact ⟨[], .of_stream_eq (List.append_nil _).symm rfl rfl⟩

/-- The marks of several sections. -/
theorem marks_of_steps (hs : ReflTransGen (Moment.Step w hub) m m') :
    ∃ more, m.Since m' more := by
  induction hs with
  | refl => exact ⟨[], .refl m⟩
  | tail _ hstep ih =>
      obtain ⟨more, hmore⟩ := ih
      obtain ⟨more', hmore'⟩ := hstep.marks
      exact ⟨more ++ more', hmore.trans hmore'⟩

/-- A stream that was current is so later exactly if no shutdown has begun since. -/
theorem Moment.Since.isCurrent_iff {more : List HubMark} (h : m.Since m' more) {g : Nat}
    (hg : m.state.isCurrent g = true) :
    m'.state.isCurrent g = true ↔ ∀ handles, HubMark.found handles ∉ more := by
  have hany : more.any HubMark.isFound = true ↔ ∃ handles, HubMark.found handles ∈ more := by
    rw [List.any_eq_true]
    constructor
    · rintro ⟨mark, hmem, hfound⟩
      cases mark with
      | found handles => exact ⟨handles, hmem⟩
      | registered | dropped | handed => cases hfound
    · rintro ⟨handles, hmem⟩
      exact ⟨_, hmem, rfl⟩
  rw [← not_exists, ← hany, HubState.isCurrent, h.stream]
  cases more.any HubMark.isFound with
  | true => simp
  | false => simpa [HubState.isCurrent] using hg

/-! ### The shutdown after a message -/

/-- Where the shutdown comes from that a message leaves to be done last: from a message that
ends the stream, or from a block that reaches the end. -/
theorem HubCall.begin_read_close {s : HubState ι} {e : ε} {history : List HubMark} {g : Nat}
    {event : StreamEvent} {t : Termination}
    (h : (HubCall.begin w hub (.read g event) s e history).tasks.getLast? = some (.close t)) :
    s.isCurrent g = true ∧
      (event.reading hub s = .finish t ∧
          HubCall.begin w hub (.read g event) s e history = ⟨s, e, [.close t], history⟩ ∨
        ∃ block, event.reading hub s = .block block ∧ s.reaches block.number = true ∧
          t = .endBlock hub block.number ∧
          HubCall.begin w hub (.read g event) s e history =
            ⟨(s.receive hub block).2, e, [.flush, .close t], history⟩) := by
  rw [HubCall.begin] at h ⊢
  by_cases hcur : s.isCurrent g = true
  · refine ⟨hcur, ?_⟩
    rw [if_pos hcur] at h ⊢
    cases hr : event.reading hub s with
    | finish t' =>
        rw [HubState.takeIn_of_finish hr] at h ⊢
        obtain rfl : t' = t := by simpa using h
        exact .inl ⟨rfl, rfl⟩
    | block block =>
        rw [HubState.takeIn_of_block hr] at h ⊢
        by_cases hreach : s.reaches block.number = true
        · rw [if_pos hreach] at h ⊢
          obtain rfl : Termination.endBlock hub block.number = t := by simpa using h
          exact .inr ⟨block, rfl, hreach, rfl, rfl⟩
        · rw [if_neg hreach] at h
          cases h
  · rw [if_neg hcur] at h
    cases h

/-- The shutdown that a message of a stream brings about, when it is all that is left to do.
The stream was the current one when the message was taken in. If the message ends the stream,
nothing has happened since. If it is a block that reaches the end, then the stream is still
the current one exactly if no other shutdown has begun since, which a callback may have asked
for. The shutdown takes place in either case, and finds all who are registered by then. -/
theorem read_shutdown {s : HubState ι} {e : ε} {history : List HubMark} {g : Nat}
    {event : StreamEvent} {t : Termination} (hm : Reachable w hub ⟨s, e, [], history⟩)
    (hs : ReflTransGen (Moment.Step w hub) (HubCall.begin w hub (.read g event) s e history) m')
    (ht : m'.tasks = [.close t]) :
    s.isCurrent g = true ∧
      (event.reading hub s = .finish t ∧ m' = ⟨s, e, [.close t], history⟩ ∨
        ∃ block more, event.reading hub s = .block block ∧ s.reaches block.number = true ∧
          t = .endBlock hub block.number ∧ m'.history = history ++ more ∧
          (m'.state.isCurrent g = true ↔ ∀ handles, HubMark.found handles ∉ more)) ∧
      m'.Step w hub
        ⟨m'.state.closed (w.connectionInfo · m'.world) t, m'.world,
          [.flush, .endClose m'.state.stream],
          m'.history ++ [.found m'.state.registry.handles]⟩ := by
  have hlast := getLast_close_of_steps hs (by rw [ht]; rfl)
  obtain ⟨hcur, hbegin⟩ := HubCall.begin_read_close hlast
  refine ⟨hcur, ?_, ?_⟩
  · rcases hbegin with ⟨hr, hbegin⟩ | ⟨block, hr, hreach, rfl, hbegin⟩
    · rw [hbegin] at hs
      exact .inl ⟨hr, (eq_of_steps_close hs rfl ht).symm⟩
    · rw [hbegin] at hs
      obtain ⟨more, hmore⟩ := marks_of_steps hs
      exact .inr ⟨block, more, hr, hreach, rfl, hmore.history, hmore.isCurrent_iff hcur⟩
  · -- Nothing else is left to do, so no other shutdown is under way.
    have hreachable := ((hm.call (.read g event)).steps hs).1
    have hcloses := hreachable.nested.closes
    obtain ⟨s', e', tasks, history'⟩ := m'
    obtain rfl : tasks = [.close t] := ht
    have hclosing : s'.closing = false := by
      cases hc : s'.closing with
      | false => rfl
      | true => simp [hc, HubTask.isEndClose] at hcloses
    refine .closeBegun ?_
    rw [HubState.beginClose_eq, hclosing]
    rfl

/-- A hub with one block listener, of a stream that ends with block 1. -/
def HubState.untilOne : HubState Unit :=
  HubState.install () (some (.number ⟨1⟩))
    { registry := (Registry.insert {} ⟨.block, none, none, false⟩).2 }

/-- A fresh hub comes to be one with a listener and a stream. -/
theorem Reachable.untilOne (w : Surroundings ε Unit) (hub : String) (e : ε) :
    Reachable w hub ⟨.untilOne, e, [], [.registered ⟨1⟩]⟩ :=
  ((Reachable.fresh e).call (.register ⟨.block, none, none, false⟩)).call
    (.install () (some (.number ⟨1⟩)))

/-- The block with which the stream ends. -/
def StreamEvent.blockOne : StreamEvent := .data (.filteredBlock { number := 1 })

/-- The hub shuts down after the block with which its stream ends. -/
theorem read_shutdown_end_block :
    ∃ m' : Moment (List Delivery) Unit, Reachable .recording "hub" m' ∧
      m'.state.isCurrent 1 = true ∧
      m'.Step .recording "hub"
        ⟨m'.state.closed (fun _ => default) (.endBlock "hub" ⟨1⟩), m'.world,
          [.flush, .endClose m'.state.stream], m'.history ++ [.found [⟨1⟩]]⟩ := by
  have hlistens := Reachable.untilOne .recording "hub" []
  have hflush : (HubCall.begin .recording "hub" (.read 1 .blockOne) .untilOne []
      [.registered ⟨1⟩]).Step .recording "hub" _ := .flushBegun rfl
  have hdrained := (((ReflTransGen.single hflush).tail (.handedOver rfl)).tail .returned).tail
    (.drainEnded rfl)
  obtain ⟨-, hbegin, hstep⟩ := read_shutdown hlistens hdrained rfl
  refine ⟨_, ((hlistens.call (.read 1 .blockOne)).steps hdrained).1, ?_, hstep⟩
  rcases hbegin with ⟨hr, -⟩ | ⟨block, more, -, -, -, hhistory, hcurrent⟩
  · cases hr
  · obtain rfl := List.append_cancel_left hhistory
    exact hcurrent.mpr (by simp)

/-- Surroundings in which a listener that hears of a block closes the hub and registers
another listener. -/
def Surroundings.rejoining : Surroundings (List Delivery) Unit where
  handOver d heard :=
    match d.notice with
    | .event _ =>
      .close (heard ++ [d]) fun heard =>
        .register ⟨.block, none, none, false⟩ fun _ => .done heard
    | .terminated _ => .done (heard ++ [d])
  release _ heard := heard
  connectionInfo _ _ := default

/-- The listener of the hub hears of the block with which the stream ends, closes the hub and
registers another listener. When the hub gets to the shutdown after the block, the stream that
the block came from is not the current one, and yet the new listener is taken out and told of
the end of this stream. -/
theorem read_shutdown_late :
    ∃ (m' : Moment (List Delivery) Unit) (event last : Delivery),
      Reachable .rejoining "hub" ⟨.untilOne, [], [], [.registered ⟨1⟩]⟩ ∧
      HubState.untilOne.isCurrent 1 = true ∧
      ReflTransGen (Moment.Step .rejoining "hub")
        (HubCall.begin .rejoining "hub" (.read 1 .blockOne) .untilOne [] [.registered ⟨1⟩]) m' ∧
      m'.history = [.registered ⟨1⟩, .handed event, .found [⟨1⟩], .registered ⟨2⟩,
        .handed last] ∧
      m'.tasks = [.close (.endBlock "hub" ⟨1⟩)] ∧ m'.state.isCurrent 1 = false ∧
      ∃ m'', ReflTransGen (Moment.Step .rejoining "hub") m' m'' ∧ m''.tasks = [] ∧
        m''.state.registry.handles = [] ∧
        m''.history = m'.history ++ [.found [⟨2⟩],
          .handed ⟨⟨2⟩, .terminated
            { Termination.endBlock "hub" ⟨1⟩ with lastBlockNumber := some ⟨1⟩ }⟩] := by
  have hflush : (HubCall.begin .rejoining "hub" (.read 1 .blockOne) .untilOne []
      [.registered ⟨1⟩]).Step .rejoining "hub" _ := .flushBegun rfl
  have hcloses := ((((ReflTransGen.single hflush).tail (.handedOver rfl)).tail .closeAsked).tail
    (.closeBegun rfl)).tail (.flushSkipped rfl)
  have hrejoins := ((hcloses.tail .closeEnded).tail .resumed).tail .registered
  have hends := ((hrejoins.tail .returned).tail (.handedOver rfl)).tail .returned
  have hdrained := hends.tail (.drainEnded rfl)
  refine ⟨_, _, _, .untilOne _ _ _, rfl, hdrained, rfl, rfl, rfl, ?_⟩
  exact ⟨_, .head (.closeBegun rfl) (.head (.flushBegun rfl) (.head (.handedOver rfl)
    (.head .returned (.head (.drainEnded rfl) (.single .closeEnded))))), rfl, rfl, rfl⟩

end LedgerClient
