import LedgerClient.Proofs.Event.Notices

/-!
# Operations run their course

The functions that carry out a hub's operations, against the course of these operations
section by section. `Performs` says that tasks, whatever is left to do after them, are
carried out to the end and leave a hub and a world behind. Each function that returns is
the outcome of its tasks. In turn no section changes the outcome of what is left to do, so
a course that comes to its end does so with what the function returns.

## Main results

* `HubCall.run_eq_some_iff`: an operation returns exactly if its course comes to an end,
  and with the same hub and world.
-/

namespace LedgerClient

open Relation (ReflTransGen)

variable {ε ι : Type} (w : Surroundings ε ι) (hub : String)

/-- Whatever is left to do after them, the tasks are carried out to the end and turn `r`
into `r'`. -/
def Performs (tasks : List (HubTask ε ι)) (r r' : HubState ι × ε) : Prop :=
  ∀ rest history, ∃ history',
    ReflTransGen (Moment.Step w hub) ⟨r.1, r.2, tasks ++ rest, history⟩
      ⟨r'.1, r'.2, rest, history'⟩

variable {w hub}
variable {r r₁ r' : HubState ι × ε} {s s' : HubState ι} {e : ε}

/-- No tasks change nothing. -/
theorem Performs.nil (r : HubState ι × ε) : Performs w hub [] r r :=
  fun _ history => ⟨history, .refl⟩

/-- Tasks are carried out one after the other. -/
theorem Performs.append {tasks tasks' : List (HubTask ε ι)} (h : Performs w hub tasks r r₁)
    (h' : Performs w hub tasks' r₁ r') : Performs w hub (tasks ++ tasks') r r' := by
  intro rest history
  obtain ⟨history₁, hsteps⟩ := h (tasks' ++ rest) history
  obtain ⟨history', hsteps'⟩ := h' rest history₁
  refine ⟨history', ?_⟩
  rw [List.append_assoc]
  exact hsteps.trans hsteps'

/-- A task is carried out by a first section and then the tasks that it leaves. -/
theorem Performs.after {task : HubTask ε ι} {tasks : List (HubTask ε ι)}
    (h : Performs w hub tasks r₁ r')
    (hstep : ∀ rest history, ∃ history₁, Moment.Step w hub
      ⟨r.1, r.2, task :: rest, history⟩ ⟨r₁.1, r₁.2, tasks ++ rest, history₁⟩) :
    Performs w hub [task] r r' := by
  intro rest history
  obtain ⟨history₁, hs⟩ := hstep rest history
  obtain ⟨history', hsteps⟩ := h rest history₁
  exact ⟨history', .head hs hsteps⟩

/-- A task may consist of a single section. -/
theorem Performs.single {task : HubTask ε ι}
    (hstep : ∀ rest history, ∃ history₁, Moment.Step w hub
      ⟨r.1, r.2, task :: rest, history⟩ ⟨r'.1, r'.2, rest, history₁⟩) :
    Performs w hub [task] r r' :=
  (Performs.nil r').after hstep

/-! ### Callbacks -/

namespace HubState

/-- A shutdown within a callback leaves the handing over as it is. -/
theorem draining_closeQueued (w : Surroundings ε ι) (t : Termination) (s : HubState ι) (e : ε) :
    (s.closeQueued w t e).1.draining = s.draining := by
  rw [closeQueued, beginClose_eq]
  cases s.closing <;> rfl

/-- While notices are being handed over, a shutdown only queues its own. -/
theorem closeQueued_performs (t : Termination) (hs : s.draining = true) (e : ε) :
    Performs w hub [.close t] (s, e) (s.closeQueued w t e) := by
  rw [closeQueued]
  cases hb : s.beginClose (w.connectionInfo · e) t with
  | none => exact .single fun _ _ => ⟨_, .closeDropped hb⟩
  | some b =>
      obtain ⟨s', stream⟩ := b
      obtain ⟨-, rfl, -⟩ := of_beginClose_eq_some hb
      have hskip : (s.closed (w.connectionInfo · e) t).beginDrain = none := if_pos hs
      have hflush : Performs w hub [.flush] (s.closed (w.connectionInfo · e) t, e)
          (s.closed (w.connectionInfo · e) t, e) :=
        .single fun _ _ => ⟨_, .flushSkipped hskip⟩
      exact (hflush.append (.single fun _ _ => ⟨_, .closeEnded⟩)).after
        fun _ _ => ⟨_, .closeBegun hb⟩

/-- A callback leaves the handing over as it is. -/
theorem draining_react (w : Surroundings ε ι) (hub : String) (reaction : Reaction ε)
    (s : HubState ι) : (react w hub reaction s).1.draining = s.draining := by
  induction reaction generalizing s with
  | done e => rfl
  | register listener next ih => exact ih _ _
  | unregister handle next ih => exact ih _ _
  | close e next ih => exact (ih _ _).trans (draining_closeQueued w _ s e)

/-- A callback acts on the hub while notices are being handed over. -/
theorem react_performs (reaction : Reaction ε) (hs : s.draining = true) (e : ε) :
    Performs w hub [.react reaction] (s, e) (react w hub reaction s) := by
  induction reaction generalizing s e with
  | done e' => exact .single fun _ _ => ⟨_, .returned⟩
  | register listener next ih =>
      have hnext := ih (s.registry.insert listener).1
        (s := { s with registry := (s.registry.insert listener).2 }) hs e
      exact hnext.after fun _ _ => ⟨_, .registered⟩
  | unregister handle next ih =>
      have hnext := ih (s.registry.remove handle).1
        (s := { s with registry := (s.registry.remove handle).2 }) hs e
      exact hnext.after fun _ _ => ⟨_, .unregistered⟩
  | close e' next ih =>
      have hclose : Performs w hub [.close (.closed hub)] (s, e')
          (s.closeQueued w (.closed hub) e') := closeQueued_performs (.closed hub) hs e'
      have hdr : (s.closeQueued w (.closed hub) e').1.draining = true := by
        rw [draining_closeQueued, hs]
      have hnext := (ih (s.closeQueued w (.closed hub) e').2 hdr
        (s.closeQueued w (.closed hub) e').2).after fun _ _ => ⟨_, .resumed⟩
      exact (hclose.append hnext).after fun _ _ => ⟨_, .closeAsked⟩

/-! ### Handing over and shutting down -/

/-- A handing over that comes to an end is carried out by its tasks. -/
theorem drain_performs (h : drain w hub s e = some r) (hs : s.draining = true) :
    Performs w hub [.drain] (s, e) r := by
  revert hs
  refine drain.partial_correctness w hub
    (fun s e r => s.draining = true → Performs w hub [.drain] (s, e) r) ?_ s e r h
  intro go ih s e r hr hs
  cases hn : s.nextNotice with
  | mk next s' =>
      rw [hn] at hr
      cases next with
      | none =>
          obtain rfl : (s', e) = r := Option.some.inj hr
          exact .single fun _ _ => ⟨_, .drainEnded hn⟩
      | some d =>
          have hs' : s'.draining = true := by
            obtain ⟨rest, -, rfl⟩ := of_nextNotice_eq_some hn
            exact hs
          have hgo := ih _ _ _ hr ((draining_react w hub _ s').trans hs')
          exact ((react_performs (w.handOver d e) hs' e).append hgo).after
            fun _ _ => ⟨_, .handedOver hn⟩

/-- A flush that comes to an end is carried out by its tasks. -/
theorem flush_performs (h : flush w hub s e = some r) : Performs w hub [.flush] (s, e) r := by
  rw [flush] at h
  cases hb : s.beginDrain with
  | none =>
      rw [hb] at h
      obtain rfl : (s, e) = r := Option.some.inj h
      exact .single fun _ _ => ⟨_, .flushSkipped hb⟩
  | some s' =>
      rw [hb] at h
      have hs' : s'.draining = true := by
        obtain ⟨-, rfl⟩ := of_beginDrain_eq_some hb
        rfl
      exact (drain_performs h hs').after fun _ _ => ⟨_, .flushBegun hb⟩

/-- A shutdown that comes to an end is carried out by its tasks. -/
theorem closeWith_performs {t : Termination} (h : closeWith w hub t s e = some r) :
    Performs w hub [.close t] (s, e) r := by
  rw [closeWith] at h
  cases hb : s.beginClose (w.connectionInfo · e) t with
  | none =>
      rw [hb] at h
      obtain rfl : (s, e) = r := Option.some.inj h
      exact .single fun _ _ => ⟨_, .closeDropped hb⟩
  | some b =>
      obtain ⟨s', stream⟩ := b
      rw [hb] at h
      obtain ⟨⟨s₁, e₁⟩, hflush, hr⟩ := Option.bind_eq_some_iff.mp h
      obtain rfl := Option.some.inj hr
      exact ((flush_performs hflush).append (.single fun _ _ => ⟨_, .closeEnded⟩)).after
        fun _ _ => ⟨_, .closeBegun hb⟩

/-- While notices are being handed over, any shutdown only queues its own. -/
theorem closeWith_eq_closeQueued (t : Termination) (hs : s.draining = true) :
    closeWith w hub t s e = some (s.closeQueued w t e) := by
  rw [closeWith, closeQueued]
  cases hb : s.beginClose (w.connectionInfo · e) t with
  | none => rfl
  | some b =>
      obtain ⟨s', stream⟩ := b
      obtain ⟨-, rfl, -⟩ := of_beginClose_eq_some hb
      have hskip : (s.closed (w.connectionInfo · e) t).beginDrain = none := if_pos hs
      simp only [flush, hskip]
      rfl

end HubState

/-! ### The outcome of what is left to do -/

/-- What a task makes of a hub and a world, if it comes to an end. -/
def HubTask.outcome (w : Surroundings ε ι) (hub : String) (task : HubTask ε ι)
    (r : HubState ι × ε) : Option (HubState ι × ε) :=
  match task with
  | .close t => r.1.closeWith w hub t r.2
  | .endClose stream => some (r.1.endClose, HubState.releaseStream w stream r.2)
  | .flush => r.1.flush w hub r.2
  | .drain => r.1.drain w hub r.2
  | .react reaction => some (HubState.react w hub reaction r.1)
  | .resume next => some (HubState.react w hub (next r.2) r.1)

/-- What comes out of a moment when all that is left to do is done. -/
def Moment.outcome (w : Surroundings ε ι) (hub : String) (m : Moment ε ι) :
    Option (HubState ι × ε) :=
  m.tasks.foldlM (fun r task => task.outcome w hub r) (m.state, m.world)

/-- When nothing is left to do, what comes out is there. -/
theorem Moment.outcome_idle (s : HubState ι) (e : ε) (history : List HubMark) :
    (⟨s, e, [], history⟩ : Moment ε ι).outcome w hub = some (s, e) := rfl

/-- When a single task is left, what comes out is its outcome. -/
theorem Moment.outcome_single (s : HubState ι) (e : ε) (task : HubTask ε ι)
    (history : List HubMark) :
    (⟨s, e, [task], history⟩ : Moment ε ι).outcome w hub = task.outcome w hub (s, e) := by
  simp only [Moment.outcome, List.foldlM_cons, List.foldlM_nil]
  exact bind_pure _

/-- No section changes what comes out. -/
theorem Moment.Step.outcome_eq {m m' : Moment ε ι} (hs : m.Step w hub m') (hn : m.Nested)
    (hc : CallbacksInside m.tasks) : m'.outcome w hub = m.outcome w hub := by
  cases hs with
  | closeEnded | returned | registered | unregistered | resumed => rfl
  | closeDropped h =>
      simp only [Moment.outcome, List.foldlM_cons, HubTask.outcome]
      rw [HubState.closeWith, h]
      rfl
  | closeBegun h =>
      simp only [Moment.outcome, List.foldlM_cons, HubTask.outcome]
      rw [HubState.closeWith, h]
      simp only [Option.bind_eq_bind, Option.bind_assoc]
      rfl
  | flushSkipped h =>
      simp only [Moment.outcome, List.foldlM_cons, HubTask.outcome]
      rw [HubState.flush, h]
      rfl
  | flushBegun h =>
      simp only [Moment.outcome, List.foldlM_cons, HubTask.outcome]
      rw [HubState.flush, h]
  | drainEnded h =>
      simp only [Moment.outcome, List.foldlM_cons, HubTask.outcome]
      rw [HubState.drain, h]
      rfl
  | handedOver h =>
      simp only [Moment.outcome, List.foldlM_cons, HubTask.outcome]
      rw [HubState.drain.eq_1 _ _ _ _, h]
      rfl
  | @closeAsked s e e' next tasks history =>
      have hdr : s.draining = true := by
        have hd : tasks.countP HubTask.isDrain = if s.draining then 1 else 0 := hn.drains
        have hpos : 0 < tasks.countP HubTask.isDrain := hc.1 rfl
        by_contra hne
        rw [if_neg hne] at hd
        omega
      simp only [Moment.outcome, List.foldlM_cons, HubTask.outcome]
      rw [HubState.closeWith_eq_closeQueued _ hdr]
      rfl

/-- What comes out of a moment of a run is what has come out once nothing is left to do. -/
theorem outcome_eq_of_steps {m m' : Moment ε ι} (hm : Reachable w hub m)
    (h : ReflTransGen (Moment.Step w hub) m m') : m'.outcome w hub = m.outcome w hub := by
  induction h using ReflTransGen.head_induction_on with
  | refl => rfl
  | head hs _ ih => exact (ih (hm.step hs)).trans (hs.outcome_eq hm.nested hm.callbacksInside)

/-! ### Operations -/

/-- What an operation makes of a hub and a world, if it returns. -/
def HubCall.run (w : Surroundings ε ι) (hub : String) (c : HubCall ι) (s : HubState ι) (e : ε) :
    Option (HubState ι × ε) :=
  match c with
  | .register listener => some ({ s with registry := (s.registry.insert listener).2 }, e)
  | .unregister handle => some ({ s with registry := (s.registry.remove handle).2 }, e)
  | .close t => s.closeWith w hub t e
  | .stopStream => some (s.stopStream w e)
  | .install source stop => some (s.install source stop, e)
  | .read generation event => s.onEvent w hub generation event e

/-- What comes out of the beginning of an operation is what the operation returns. -/
theorem HubCall.outcome_begin (c : HubCall ι) (s : HubState ι) (e : ε)
    (history : List HubMark) : (c.begin w hub s e history).outcome w hub = c.run w hub s e := by
  cases c with
  | register | unregister | stopStream | install => rfl
  | close t => exact Moment.outcome_single _ _ _ _
  | read generation event =>
      rw [HubCall.begin, HubCall.run, HubState.onEvent_eq]
      by_cases hcur : s.isCurrent generation
      · rw [if_pos hcur]
        cases hr : event.reading hub s with
        | block block =>
            rw [HubState.takeIn_of_block hr]
            simp only [HubState.onBlock_eq _ _ _ hcur]
            by_cases hreach : s.reaches block.number
            · simp only [if_pos hreach, Moment.outcome, List.foldlM_cons, List.foldlM_nil]
              exact congrArg _ (funext fun _ => bind_pure _)
            · simp only [if_neg hreach]
              exact (Moment.outcome_single _ _ _ _).trans (bind_pure _).symm
        | finish t =>
            rw [HubState.takeIn_of_finish hr]
            simp only [HubState.closeFor, if_pos hcur]
            exact Moment.outcome_single _ _ _ _
      · rw [if_neg hcur, Moment.outcome_idle]
        cases event.reading hub s with
        | block block => simp only [HubState.onBlock, if_neg hcur]
        | finish t => simp only [HubState.closeFor, if_neg hcur]

/-- Tasks outside of the handing over of notices are carried out if something comes out of
them. -/
theorem performs_of_outcome {tasks : List (HubTask ε ι)}
    (hout : ∀ t ∈ tasks, t.isCallback = false ∧ t.isDrain = false)
    (h : tasks.foldlM (fun r task => task.outcome w hub r) r = some r') :
    Performs w hub tasks r r' := by
  induction tasks generalizing r with
  | nil =>
      obtain rfl := Option.some.inj h
      exact .nil r
  | cons t rest ih =>
      obtain ⟨ht, hrest⟩ := List.forall_mem_cons.mp hout
      rw [List.foldlM_cons] at h
      obtain ⟨r₁, hr₁, hr'⟩ := Option.bind_eq_some_iff.mp h
      have hhead : Performs w hub [t] r r₁ := by
        cases t with
        | close t => exact HubState.closeWith_performs hr₁
        | flush => exact HubState.flush_performs hr₁
        | endClose stream =>
            obtain rfl := Option.some.inj hr₁
            exact .single fun _ _ => ⟨_, .closeEnded⟩
        | drain => exact absurd ht.2 nofun
        | react | resume => exact absurd ht.1 nofun
      exact hhead.append (ih hrest hr')

/-- An operation that begins at a moment of a run returns exactly if its course comes to an
end, and with the hub and the world that it comes to. -/
theorem HubCall.run_eq_some_iff {history : List HubMark} (c : HubCall ι)
    (hm : Reachable w hub ⟨s, e, [], history⟩) :
    c.run w hub s e = some r ↔
      ∃ history', ReflTransGen (Moment.Step w hub) (c.begin w hub s e history)
        ⟨r.1, r.2, [], history'⟩ := by
  constructor
  · intro h
    rw [← c.outcome_begin s e history] at h
    obtain ⟨history', hsteps⟩ := performs_of_outcome (c.begin_outside s e history) h [] 
      (c.begin w hub s e history).history
    rw [List.append_nil] at hsteps
    exact ⟨history', hsteps⟩
  · rintro ⟨history', hsteps⟩
    rw [← c.outcome_begin s e history, ← outcome_eq_of_steps (hm.call c) hsteps]
    rfl

/-! ### The hub as its users see it -/

/-- What a hub offers to its users, and the reading of its stream. -/
inductive HubOperation (ε ι τ : Type) where
  | register (listener : EventListener)
  | unregister (handle : ListenerHandle)
  | close
  /-- Build or sign the request for a stream. -/
  | request (r : SeekRequest)
  | send (begin : τ → BlockType → Envelope → Option Nat → ε →
      Except ServiceError (ι × DeliverResponse) × ε) (targets : List τ) (timeout : Option Nat)
  | readEvents (generation : Nat) (events : List StreamEvent)

/-- Carries out an operation. -/
def HubOperation.perform {τ : Type} (w : Surroundings ε ι) (op : HubOperation ε ι τ)
    (h : EventHub ι) (e : ε) : Option (EventHub ι × ε) :=
  match op with
  | .register listener => some ((h.register listener).2, e)
  | .unregister handle => some ((h.unregister handle).2, e)
  | .close => h.close w e
  | .request r => some ({ h with request := r }, e)
  | .send begin targets timeout => (h.send w begin targets timeout e).map Prod.snd
  | .readEvents generation events => h.readEvents w generation events e

/-- From every run that has come to `r` with nothing left to do, some run goes on to `r'`. -/
def Continues (w : Surroundings ε ι) (hub : String) (r r' : HubState ι × ε) : Prop :=
  ∀ history, Reachable w hub ⟨r.1, r.2, [], history⟩ →
    ∃ more, Reachable w hub ⟨r'.1, r'.2, [], history ++ more⟩

theorem Continues.refl (r : HubState ι × ε) : Continues w hub r r := by
  intro history hm
  exact ⟨[], by rwa [List.append_nil]⟩

theorem Continues.trans (h : Continues w hub r r₁) (h' : Continues w hub r₁ r') :
    Continues w hub r r' := by
  intro history hm
  obtain ⟨more, hm₁⟩ := h history hm
  obtain ⟨more', hm'⟩ := h' _ hm₁
  exact ⟨more ++ more', by rwa [← List.append_assoc]⟩

/-- The outside world may change while nothing is left to do. -/
theorem Continues.elapse (s : HubState ι) (e e' : ε) : Continues w hub (s, e) (s, e') := by
  intro history hm
  exact ⟨[], by rw [List.append_nil]; exact hm.elapse e'⟩

/-- Sections follow each other in a run. -/
theorem Reachable.steps {m m' : Moment ε ι} (hm : Reachable w hub m)
    (h : ReflTransGen (Moment.Step w hub) m m') :
    Reachable w hub m' ∧ m.history <+: m'.history := by
  induction h with
  | refl => exact ⟨hm, List.prefix_rfl⟩
  | tail _ hs ih => exact ⟨ih.1.step hs, ih.2.trans hs.history_prefix⟩

/-- A run goes on to where an operation returns. -/
theorem Continues.of_run (c : HubCall ι) (h : c.run w hub s e = some r) :
    Continues w hub (s, e) r := by
  intro history hm
  obtain ⟨history', hsteps⟩ := (c.run_eq_some_iff hm).mp h
  obtain ⟨hm', hprefix⟩ := (hm.call c).steps hsteps
  obtain ⟨more, rfl⟩ := (c.begin_history w hub s e history).trans hprefix
  exact ⟨more, hm'⟩

/-- A run goes on to where the reading of a stream ends. -/
theorem Continues.readEvents {generation : Nat} {events : List StreamEvent}
    (h : s.readEvents w hub generation events e = some r) : Continues w hub (s, e) r := by
  induction events generalizing s e with
  | nil =>
      obtain rfl := Option.some.inj h
      exact .refl _
  | cons event rest ih =>
      rw [HubState.readEvents] at h
      split at h
      · obtain ⟨r₁, hr₁, hrest⟩ := Option.bind_eq_some_iff.mp h
        exact (Continues.of_run (.read generation event) hr₁).trans (ih hrest)
      · obtain rfl := Option.some.inj h
        exact .refl _

/-- A run goes on to where the start of a stream returns. -/
theorem Continues.start {source : ι} {stop : Option BlockPosition} {first : DeliverResponse}
    (h : s.start w hub source stop first e = some r) : Continues w hub (s, e) r :=
  (Continues.of_run (.install source stop) rfl).trans
    (Continues.of_run (.read (s.install source stop).generation (.data first)) h)

/-- A run goes on to where the sending of a request returns. -/
theorem Continues.send {τ : Type}
    {begin : τ → BlockType → Envelope → Option Nat → ε →
      Except ServiceError (ι × DeliverResponse) × ε}
    {targets : List τ} {timeout : Option Nat} {h h' : EventHub ι} {e' : ε}
    {outcome : Except EventHubError Unit}
    (hsend : h.send w begin targets timeout e = some (outcome, h', e')) :
    h'.name = h.name ∧ Continues w h.name (h.state, e) (h'.state, e') := by
  have hstop : Continues w h.name (h.state, e) (h.state.stopStream w e) :=
    .of_run .stopStream rfl
  rw [EventHub.send] at hsend
  split at hsend
  · obtain ⟨-, rfl, rfl⟩ := hsend
    exact ⟨rfl, .refl _⟩
  split at hsend
  · obtain ⟨-, rfl, rfl⟩ := hsend
    exact ⟨rfl, .refl _⟩
  simp only at hsend
  split at hsend
  · next source first e₁ _ =>
    obtain ⟨r, hr, hend⟩ := Option.bind_eq_some_iff.mp hsend
    obtain ⟨-, rfl, rfl⟩ := hend
    exact ⟨rfl, hstop.trans ((Continues.elapse _ _ e₁).trans (.start hr))⟩
  · next error e₁ _ =>
    obtain ⟨r, hr, hend⟩ := Option.bind_eq_some_iff.mp hsend
    obtain ⟨-, rfl, rfl⟩ := hend
    exact ⟨rfl, hstop.trans ((Continues.elapse _ _ e₁).trans (.of_run (.close _) hr))⟩

/-- A run goes on to where an operation of a hub returns. -/
theorem HubOperation.perform_continues {τ : Type} {op : HubOperation ε ι τ}
    {h h' : EventHub ι} {e' : ε} (hop : op.perform w h e = some (h', e')) :
    h'.name = h.name ∧ Continues w h.name (h.state, e) (h'.state, e') := by
  cases op with
  | register listener =>
      obtain ⟨rfl, rfl⟩ := hop
      exact ⟨rfl, .of_run (.register listener) rfl⟩
  | unregister handle =>
      obtain ⟨rfl, rfl⟩ := hop
      exact ⟨rfl, .of_run (.unregister handle) rfl⟩
  | close =>
      obtain ⟨r, hr, hend⟩ := Option.map_eq_some_iff.mp hop
      obtain ⟨rfl, rfl⟩ := hend
      exact ⟨rfl, .of_run (.close _) hr⟩
  | request r =>
      obtain ⟨rfl, rfl⟩ := hop
      exact ⟨rfl, .refl _⟩
  | send begin targets timeout =>
      obtain ⟨⟨outcome, r⟩, hr, hend⟩ := Option.map_eq_some_iff.mp hop
      obtain rfl : r = (h', e') := hend
      exact Continues.send hr
  | readEvents generation events =>
      obtain ⟨r, hr, hend⟩ := Option.map_eq_some_iff.mp hop
      obtain ⟨rfl, rfl⟩ := hend
      exact ⟨rfl, .readEvents hr⟩

/-! ### Events, and then the end -/

/-- Whatever happens to a hub, each registration hears of events and then at most once of
the end, at every moment of every run. When nothing is left to do, no notice is left in the
queue, and those have heard of the end that some shutdown has found in the registry; no two
shutdowns have found the same. Every operation of the hub that is begun then, if it
returns, leaves the hub and the world where some run has come to with nothing left to do. -/
theorem events_then_end {τ : Type} {m : Moment ε ι} (hm : Reachable w hub m) :
    (givenIn m.history).Nodup ∧
    (∀ h, ∃ events last, noticesOf h (handedIn m.history) = eventsThenEnd events last ∧
      (last.isSome → h ∈ foundIn m.history)) ∧
    (m.tasks = [] →
      m.state.queue = [] ∧ (foundIn m.history).Nodup ∧
      (∀ h, ∃ events last, noticesOf h (handedIn m.history) = eventsThenEnd events last ∧
        (last.isSome ↔ h ∈ foundIn m.history)) ∧
      ∀ (op : HubOperation ε ι τ) (h h' : EventHub ι) (e' : ε), h.name = hub →
        h.state = m.state → op.perform w h m.world = some (h', e') →
        h'.name = hub ∧ ∃ more, Reachable w hub ⟨h'.state, e', [], m.history ++ more⟩) := by
  have hbal := hm.balanced
  refine ⟨hbal.given_nodup, ?_, ?_⟩
  · intro h
    obtain ⟨events, last, htold, hlast⟩ := hbal.told h
    have hprefix : noticesOf h (handedIn m.history) <+: eventsThenEnd events last := by
      rw [← htold, Moment.ledger, noticesOf_append]
      exact List.prefix_append _ _
    obtain ⟨events', last', hheard, hsome⟩ := eventsThenEnd_of_prefix hprefix
    exact ⟨events', last', hheard, fun h' => hlast.mp (hsome h')⟩
  · intro htasks
    have hqueue := (hm.nested.atRest htasks).queue
    refine ⟨hqueue, hbal.found_nodup, ?_, ?_⟩
    · intro h
      obtain ⟨events, last, htold, hlast⟩ := hbal.told h
      rw [Moment.ledger, hqueue, List.append_nil] at htold
      exact ⟨events, last, htold, hlast⟩
    · intro op h h' e' hname hstate hop
      obtain ⟨s, e, tasks, history⟩ := m
      simp only at htasks hstate hop
      subst htasks hname hstate
      obtain ⟨hname', hcont⟩ := HubOperation.perform_continues hop
      exact ⟨hname', hcont history hm⟩

/-- A block listener that is registered when its hub is closed hears of the end. -/
theorem events_then_end_of_close :
    ∃ m : Moment (List Delivery) Unit, Reachable .recording "hub" m ∧ m.tasks = [] ∧
      foundIn m.history = [⟨1⟩] ∧
      ∃ events last, noticesOf ⟨1⟩ (handedIn m.history) = eventsThenEnd events last ∧
        (last.isSome ↔ ⟨1⟩ ∈ foundIn m.history) := by
  have hfresh : Reachable Surroundings.recording "hub" ⟨{}, [], [], []⟩ := .fresh []
  have hclosed := (hfresh.call (.register ⟨.block, none, none, false⟩)).call
    (.close (.closed "hub"))
  have hdrained := (((hclosed.step (.closeBegun rfl)).step (.flushBegun rfl)).step
    (.handedOver rfl)).step .returned
  have hidle := (hdrained.step (.drainEnded rfl)).step .closeEnded
  obtain ⟨-, -, hend⟩ := events_then_end (τ := Unit) hidle
  exact ⟨_, hidle, rfl, rfl, (hend rfl).2.2.1 ⟨1⟩⟩

end LedgerClient
