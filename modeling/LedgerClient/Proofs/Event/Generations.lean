import LedgerClient.Proofs.Event.Operations
import LedgerClient.Proofs.Event.Stream

/-!
# Streams of earlier generations

A hub knows its streams by generations, which it counts. A stream stops being the current one
when another is sent for or when the hub shuts down, and may go on to bring something all the
same. None of it reaches the hub any more, and no later stream takes over the generation.

To tell which stream a listener hears of, a run is traced: the log of a `Traced` moment holds
everything that listeners have been told, each with the generation of the stream that it was
read from. `Traced.Next` goes from one moment to the next of the same run.

## Main results

* `HubState.onEvent_of_not_current`: what another than the current stream brings changes
  nothing.
* `Traced.Later.not_isCurrent`: a generation that has stopped being current does not become so
  again.
* `Traced.exists_of_reachable`: any run can be traced.
* `Traced.superseded_silent`: after a send that succeeds, listeners only hear of events of
  streams that are newer than all before.
-/

namespace LedgerClient

open Relation (ReflTransGen)

variable {ε ι : Type}

/-- What another than the current stream brings changes nothing. -/
theorem HubState.onEvent_of_not_current (w : Surroundings ε ι) (hub : String) {generation : Nat}
    {s : HubState ι} (h : ¬ s.isCurrent generation = true) (event : StreamEvent) (e : ε) :
    s.onEvent w hub generation event e = some (s, e) := by
  rw [onEvent_eq]
  cases event.reading hub s with
  | block block => exact if_neg h
  | finish t => exact if_neg h

/-! ### Generations -/

/-- Time has passed between two states of a hub: a stream that is the current one now was so
before, or its generation is a fresh one. -/
structure HubState.Advances (s s' : HubState ι) : Prop where
  generation_le : s.generation ≤ s'.generation
  current : ∀ g, s'.isCurrent g = true →
    s.isCurrent g = true ∨ (s.generation < g ∧ g ≤ s'.generation)

namespace HubState.Advances

variable {s s' s'' : HubState ι}

theorem of_eq (hgeneration : s'.generation = s.generation) (hstream : s'.stream = s.stream) :
    s.Advances s' where
  generation_le := Nat.le_of_eq hgeneration.symm
  current := by
    intro g hg
    rw [isCurrent, hstream] at hg
    exact .inl hg

/-- A hub may stop listening to a stream. -/
theorem of_none (hgeneration : s'.generation = s.generation) (hstream : s'.stream = none) :
    s.Advances s' where
  generation_le := Nat.le_of_eq hgeneration.symm
  current := by
    intro g hg
    rw [isCurrent, hstream] at hg
    cases hg

theorem trans (h : s.Advances s') (h' : s'.Advances s'') : s.Advances s'' where
  generation_le := Nat.le_trans h.generation_le h'.generation_le
  current := by
    intro g hg
    rcases h'.current g hg with hg | ⟨hlt, hle⟩
    · rcases h.current g hg with hg | ⟨hlt, hle⟩
      · exact .inl hg
      · exact .inr ⟨hlt, Nat.le_trans hle h'.generation_le⟩
    · exact .inr ⟨Nat.lt_of_le_of_lt h.generation_le hlt, hle⟩

/-- A new stream becomes the current one under the next generation. -/
theorem install (source : ι) (stop : Option BlockPosition) (s : HubState ι) :
    s.Advances (s.install source stop) where
  generation_le := Nat.le_succ _
  current := by
    intro g hg
    obtain rfl : s.generation + 1 = g := by simpa [isCurrent, HubState.install] using hg
    exact .inr ⟨Nat.lt_succ_self _, Nat.le_refl _⟩

end HubState.Advances

section Course

variable {w : Surroundings ε ι} {hub : String} {m m' : Moment ε ι}

theorem Moment.Step.advances (hs : m.Step w hub m') : m.state.Advances m'.state := by
  cases hs with
  | closeBegun h =>
      obtain ⟨-, rfl, -⟩ := HubState.of_beginClose_eq_some h
      exact .of_none rfl rfl
  | flushBegun h =>
      obtain ⟨-, rfl⟩ := HubState.of_beginDrain_eq_some h
      exact .of_eq rfl rfl
  | drainEnded h =>
      obtain ⟨-, rfl⟩ := HubState.of_nextNotice_eq_none h
      exact .of_eq rfl rfl
  | handedOver h =>
      obtain ⟨_, -, rfl⟩ := HubState.of_nextNotice_eq_some h
      exact .of_eq rfl rfl
  | closeDropped | closeEnded | flushSkipped | returned | registered | unregistered | closeAsked
  | resumed => exact .of_eq rfl rfl

theorem HubCall.begin_advances (c : HubCall ι) (s : HubState ι) (e : ε)
    (history : List HubMark) : s.Advances (c.begin w hub s e history).state := by
  cases c with
  | register | unregister | close => exact .of_eq rfl rfl
  | stopStream => exact .of_none rfl rfl
  | install source stop => exact .install source stop s
  | read generation event =>
      rw [HubCall.begin]
      split
      · cases hr : event.reading hub s with
        | block block =>
            rw [HubState.takeIn_of_block hr]
            exact .of_eq rfl rfl
        | finish t =>
            rw [HubState.takeIn_of_finish hr]
            exact .of_eq rfl rfl
      · exact .of_eq rfl rfl

/-! ### What is told -/

/-- If a list has stayed the same, then nothing has been added to it. -/
theorem exists_append_of_eq {α : Type} {xs xs' : List α} {P : List α → Prop} (h : xs' = xs)
    (hP : P []) : ∃ added, xs' = xs ++ added ∧ P added :=
  ⟨[], by rw [h, List.append_nil], hP⟩

/-- A section tells listeners of nothing but the end. -/
theorem Moment.Step.told (hs : m.Step w hub m') :
    ∃ queued, m'.ledger.told = m.ledger.told ++ queued ∧
      ∀ d ∈ queued, ∃ t, d.notice = .terminated t := by
  cases hs with
  | closeEnded | flushSkipped | returned | unregistered | closeAsked | resumed =>
      exact exists_append_of_eq rfl (List.forall_mem_nil _)
  | closeDropped | registered =>
      exact exists_append_of_eq (by simp [Moment.ledger, handedIn]) (List.forall_mem_nil _)
  | @closeBegun s e t tasks history s' stream h =>
      obtain ⟨-, rfl, rfl⟩ := HubState.of_beginClose_eq_some h
      refine ⟨s.registry.handles.map (⟨·, .terminated (s.farewell (w.connectionInfo · e) t)⟩),
        ?_, ?_⟩
      · simp [Moment.ledger, handedIn, HubState.closed]
      · intro d hd
        obtain ⟨_, -, rfl⟩ := List.mem_map.mp hd
        exact ⟨_, rfl⟩
  | flushBegun h =>
      obtain ⟨-, rfl⟩ := HubState.of_beginDrain_eq_some h
      exact exists_append_of_eq rfl (List.forall_mem_nil _)
  | drainEnded h =>
      obtain ⟨-, rfl⟩ := HubState.of_nextNotice_eq_none h
      exact exists_append_of_eq rfl (List.forall_mem_nil _)
  | handedOver h =>
      obtain ⟨rest, hq, rfl⟩ := HubState.of_nextNotice_eq_some h
      exact exists_append_of_eq (by simp [Moment.ledger, handedIn, hq]) (List.forall_mem_nil _)

/-- The generation of the stream that an operation reads, if it reads one. -/
def HubCall.stream? : HubCall ι → Option Nat
  | .read generation _ => some generation
  | .register _ | .unregister _ | .close _ | .stopStream | .install _ _ => none

/-- The beginning of an operation tells listeners what the current stream brings, and otherwise
nothing. -/
theorem HubCall.begin_told (c : HubCall ι) (s : HubState ι) (e : ε) (history : List HubMark) :
    ∃ queued, (c.begin w hub s e history).ledger.told =
        (⟨s, e, [], history⟩ : Moment ε ι).ledger.told ++ queued ∧
      (queued ≠ [] → ∃ g, c.stream? = some g ∧ s.isCurrent g = true) := by
  cases c with
  | unregister | close | stopStream | install => exact exists_append_of_eq rfl (absurd rfl)
  | register =>
      exact exists_append_of_eq (by simp [HubCall.begin, Moment.ledger, handedIn]) (absurd rfl)
  | read generation event =>
      by_cases hcur : s.isCurrent generation = true
      · cases hr : event.reading hub s with
        | block block =>
            refine ⟨(dispatch hub s.registry block).2, ?_, fun _ => ⟨generation, rfl, hcur⟩⟩
            rw [HubCall.begin, if_pos hcur, HubState.takeIn_of_block hr]
            simp [Moment.ledger, HubState.receive_snd]
        | finish t =>
            refine exists_append_of_eq ?_ (absurd rfl)
            rw [HubCall.begin, if_pos hcur, HubState.takeIn_of_finish hr]
            rfl
      · refine exists_append_of_eq ?_ (absurd rfl)
        rw [HubCall.begin, if_neg hcur]

end Course

/-! ### Traced runs -/

/-- A moment of a run, with a log of what listeners have been told. -/
structure Traced (ε ι : Type) where
  moment : Moment ε ι
  /-- What listeners have been told, in the queue or handed over, and the generation of the
  stream that it was read from. -/
  log : List (Option Nat × Delivery)

namespace Traced

/-- A fresh hub. -/
def start (e : ε) : Traced ε ι := ⟨⟨{}, e, [], []⟩, []⟩

/-- From a moment to the next one: the outside world changes, an operation begins, or one of
its sections is carried out. What listeners are told then goes to the log. -/
inductive Next (w : Surroundings ε ι) (hub : String) : Traced ε ι → Traced ε ι → Prop where
  | elapse {s e history log} (e' : ε) :
      Next w hub ⟨⟨s, e, [], history⟩, log⟩ ⟨⟨s, e', [], history⟩, log⟩
  | call {s e history log queued} (c : HubCall ι)
      (h : (c.begin w hub s e history).ledger.told =
        (⟨s, e, [], history⟩ : Moment ε ι).ledger.told ++ queued) :
      Next w hub ⟨⟨s, e, [], history⟩, log⟩
        ⟨c.begin w hub s e history, log ++ queued.map (c.stream?, ·)⟩
  | step {m m' log queued} (hs : m.Step w hub m') (h : m'.ledger.told = m.ledger.told ++ queued) :
      Next w hub ⟨m, log⟩ ⟨m', log ++ queued.map (none, ·)⟩

/-- A moment of the same run that comes later. -/
def Later (w : Surroundings ε ι) (hub : String) : Traced ε ι → Traced ε ι → Prop :=
  ReflTransGen (Next w hub)

variable {w : Surroundings ε ι} {hub : String} {p q r : Traced ε ι} {m m' : Moment ε ι}

theorem Later.trans (h : Later w hub p q) (h' : Later w hub q r) : Later w hub p r :=
  ReflTransGen.trans h h'

/-- An operation that tells listeners nothing leaves the log as it is. -/
theorem Next.call_silent (c : HubCall ι) {s : HubState ι} {e : ε} {history : List HubMark}
    {log : List (Option Nat × Delivery)}
    (h : (c.begin w hub s e history).ledger.told =
      (⟨s, e, [], history⟩ : Moment ε ι).ledger.told) :
    Next w hub ⟨⟨s, e, [], history⟩, log⟩ ⟨c.begin w hub s e history, log⟩ := by
  have hnext : Next w hub ⟨⟨s, e, [], history⟩, log⟩
      ⟨c.begin w hub s e history, log ++ [].map (c.stream?, ·)⟩ :=
    .call c (h.trans (List.append_nil _).symm)
  rwa [List.map_nil, List.append_nil] at hnext

theorem Next.advances (h : Next w hub p q) : p.moment.state.Advances q.moment.state := by
  cases h with
  | elapse => exact .of_eq rfl rfl
  | call c => exact c.begin_advances _ _ _
  | step hs => exact hs.advances

theorem Later.advances (h : Later w hub p q) : p.moment.state.Advances q.moment.state := by
  induction h with
  | refl => exact .of_eq rfl rfl
  | tail _ hn ih => exact ih.trans hn.advances

/-- A stream that is current has been counted. -/
theorem Later.isCurrent_le {e : ε} (h : Later w hub (start e) p) {g : Nat}
    (hg : p.moment.state.isCurrent g = true) : g ≤ p.moment.state.generation := by
  rcases h.advances.current g hg with hstart | hfresh
  · cases hstart
  · exact hfresh.2

/-- A generation that has stopped being current does not become so again. -/
theorem Later.not_isCurrent (h : Later w hub p q) {g : Nat} (hle : g ≤ p.moment.state.generation)
    (hg : ¬ p.moment.state.isCurrent g = true) : ¬ q.moment.state.isCurrent g = true := by
  intro hlater
  rcases h.advances.current g hlater with hcurrent | hfresh
  · exact hg hcurrent
  · exact absurd hle (Nat.not_le_of_lt hfresh.1)

/-! ### The log -/

/-- The entries of a log that are all from the same origin. -/
theorem map_snd_from (origin : Option Nat) (ds : List Delivery) :
    (ds.map (origin, ·)).map Prod.snd = ds := by
  rw [List.map_map]
  exact List.map_id ds

/-- Every moment of a traced run is one of a run, and its log holds what has been told. -/
theorem Later.reachable {e : ε} (h : Later w hub (start e) p) :
    Reachable w hub p.moment ∧ p.moment.ledger.told = p.log.map Prod.snd := by
  induction h with
  | refl => exact ⟨.fresh e, rfl⟩
  | tail _ hn ih =>
      obtain ⟨hreachable, htold⟩ := ih
      cases hn with
      | elapse e' => exact ⟨hreachable.elapse e', htold⟩
      | call c h =>
          refine ⟨hreachable.call c, ?_⟩
          rw [h, htold, List.map_append, map_snd_from]
      | step hs h =>
          refine ⟨hreachable.step hs, ?_⟩
          rw [h, htold, List.map_append, map_snd_from]

/-- Any run can be traced. -/
theorem exists_of_reachable (h : Reachable w hub m) :
    ∃ (e : ε) (log : List (Option Nat × Delivery)), Later w hub (start e) ⟨m, log⟩ := by
  induction h with
  | fresh e => exact ⟨e, [], .refl⟩
  | elapse _ e' ih =>
      obtain ⟨e, log, hlater⟩ := ih
      exact ⟨e, log, hlater.tail (.elapse e')⟩
  | @call s e history _ c ih =>
      obtain ⟨e₀, log, hlater⟩ := ih
      obtain ⟨queued, htold, -⟩ := c.begin_told s e history
      exact ⟨e₀, _, hlater.tail (.call c htold)⟩
  | step _ hs ih =>
      obtain ⟨e, log, hlater⟩ := ih
      obtain ⟨queued, htold, -⟩ := hs.told
      exact ⟨e, _, hlater.tail (.step hs htold)⟩

/-- Each entry of a log that is about a block comes from a stream of a later generation. -/
def Since (G : Nat) (log : List (Option Nat × Delivery)) : Prop :=
  ∀ x ∈ log, ∀ event, x.2.notice = .event event → ∃ g, x.1 = some g ∧ G < g

/-- While only streams after a generation are current, listeners hear of no others. -/
theorem Next.log_since {G : Nat} (h : Next w hub p q)
    (hG : ∀ g, p.moment.state.isCurrent g = true → G < g) :
    ∃ more, q.log = p.log ++ more ∧ Since G more := by
  cases h with
  | elapse => exact exists_append_of_eq rfl (List.forall_mem_nil _)
  | @call s e history log queued c h =>
      refine ⟨_, rfl, ?_⟩
      intro x hx event hevent
      obtain ⟨d, hd, rfl⟩ := List.mem_map.mp hx
      obtain ⟨queued', htold, hstream⟩ := c.begin_told s e history
      obtain rfl := List.append_cancel_left (h.symm.trans htold)
      obtain ⟨g, hg, hcur⟩ := hstream (List.ne_nil_of_mem hd)
      exact ⟨g, hg, hG g hcur⟩
  | step hs h =>
      refine ⟨_, rfl, ?_⟩
      intro x hx event hevent
      obtain ⟨d, hd, rfl⟩ := List.mem_map.mp hx
      obtain ⟨queued', htold, hend⟩ := hs.told
      obtain rfl := List.append_cancel_left (h.symm.trans htold)
      obtain ⟨t, ht⟩ := hend d hd
      exact nomatch ht.symm.trans hevent

/-- If only streams after a generation are current, listeners hear of no others from then on. -/
theorem Later.log_since {G : Nat} (h : Later w hub p q) (hle : G ≤ p.moment.state.generation)
    (hG : ∀ g, p.moment.state.isCurrent g = true → G < g) :
    ∃ more, q.log = p.log ++ more ∧ Since G more := by
  induction h with
  | refl => exact exists_append_of_eq rfl (List.forall_mem_nil _)
  | tail hlater hn ih =>
      obtain ⟨more, hmore, hsince⟩ := ih
      have hadvances := Later.advances hlater
      obtain ⟨last, hlast, hsince'⟩ := hn.log_since fun g hg => by
        rcases hadvances.current g hg with hcur | hfresh
        · exact hG g hcur
        · exact Nat.lt_of_le_of_lt hle hfresh.1
      refine ⟨more ++ last, ?_, ?_⟩
      · rw [hlast, hmore, List.append_assoc]
      · intro x hx
        rcases List.mem_append.mp hx with hx | hx
        · exact hsince x hx
        · exact hsince' x hx

/-! ### Sending again -/

/-- Sections follow each other in a traced run. -/
theorem Later.of_steps (h : ReflTransGen (Moment.Step w hub) m m')
    (log : List (Option Nat × Delivery)) : ∃ log', Later w hub ⟨m, log⟩ ⟨m', log'⟩ := by
  induction h with
  | refl => exact ⟨log, .refl⟩
  | tail _ hs ih =>
      obtain ⟨log', hlater⟩ := ih
      obtain ⟨queued, htold, -⟩ := hs.told
      exact ⟨_, hlater.tail (.step hs htold)⟩

/-- A traced run goes on to where an operation returns. -/
theorem Later.of_run (c : HubCall ι) {s : HubState ι} {e : ε} {history : List HubMark}
    {result : HubState ι × ε} (hm : Reachable w hub ⟨s, e, [], history⟩)
    (h : c.run w hub s e = some result) (log : List (Option Nat × Delivery)) :
    ∃ history' log', Later w hub ⟨⟨s, e, [], history⟩, log⟩
      ⟨⟨result.1, result.2, [], history'⟩, log'⟩ := by
  obtain ⟨history', hsteps⟩ := (c.run_eq_some_iff hm).mp h
  obtain ⟨queued, htold, -⟩ := c.begin_told s e history
  obtain ⟨log', hlater⟩ := Later.of_steps hsteps (log ++ queued.map (c.stream?, ·))
  exact ⟨history', log', .head (.call c htold) hlater⟩

/-- What has been handed over stays so. -/
theorem Later.handedIn_prefix (h : Later w hub p q) :
    handedIn p.moment.history <+: handedIn q.moment.history := by
  induction h with
  | refl => exact List.prefix_rfl
  | tail _ hn ih =>
      refine ih.trans (List.IsPrefix.filterMap _ ?_)
      cases hn with
      | elapse => exact List.prefix_rfl
      | call c => exact c.begin_history _ _ _ _ _
      | step hs => exact hs.history_prefix

/-- What is handed over after a moment of rest was told after it. -/
theorem Later.heard {e : ε} (hp : Later w hub (start e) p) (hrest : p.moment.tasks = [])
    (h : Later w hub p q) {more : List (Option Nat × Delivery)} (hlog : q.log = p.log ++ more) :
    ∃ heard waiting, more = heard ++ waiting ∧
      handedIn q.moment.history = handedIn p.moment.history ++ heard.map Prod.snd := by
  obtain ⟨hreachable, htold⟩ := hp.reachable
  obtain ⟨-, htold'⟩ := (hp.trans h).reachable
  have hqueue : p.moment.state.queue = [] := (hreachable.nested.atRest hrest).queue
  simp only [Moment.ledger, hqueue, List.append_nil] at htold
  obtain ⟨heard, hheard⟩ := h.handedIn_prefix
  simp only [Moment.ledger, hlog, List.map_append, ← htold, ← hheard, List.append_assoc,
    List.append_cancel_left_eq] at htold'
  obtain ⟨first, waiting, rfl, hfirst, -⟩ := List.map_eq_append_iff.mp htold'.symm
  exact ⟨first, waiting, rfl, by rw [← hheard, hfirst]⟩

end Traced

/-- A send that succeeds has taken the stream out, if there was one, and started a new one. -/
theorem EventHub.start_of_send {τ : Type} {w : Surroundings ε ι}
    {begin : τ → BlockType → Envelope → Option Nat → ε →
      Except ServiceError (ι × DeliverResponse) × ε}
    {targets : List τ} {timeout : Option Nat} {h h' : EventHub ι} {e e' : ε}
    (hsend : h.send w begin targets timeout e = some (.ok (), h', e')) :
    ∃ source first e₁, (h.state.stopStream w e).1.start w h.name source h.request.stop first e₁ =
      some (h'.state, e') := by
  rw [send] at hsend
  split at hsend
  · cases hsend
  split at hsend
  · cases hsend
  simp only at hsend
  split at hsend
  · next source first e₁ _ =>
    obtain ⟨result, hresult, hend⟩ := Option.bind_eq_some_iff.mp hsend
    cases hend
    exact ⟨source, first, e₁, hresult⟩
  · obtain ⟨result, -, hend⟩ := Option.bind_eq_some_iff.mp hsend
    cases hend

namespace Traced

variable {w : Surroundings ε ι} {hub : String} {p q r : Traced ε ι}

/-- The moment after a stream has been installed. -/
def install (source : ι) (stop : Option BlockPosition) (p : Traced ε ι) : Traced ε ι :=
  { p with moment := { p.moment with state := p.moment.state.install source stop } }

theorem Later.install (source : ι) (stop : Option BlockPosition) (hrest : p.moment.tasks = []) :
    Later w hub p (p.install source stop) := by
  obtain ⟨⟨s, e, tasks, history⟩, log⟩ := p
  obtain rfl : tasks = [] := hrest
  exact .single (.call_silent (.install source stop) rfl)

/-- From the installation of a stream on, listeners are told of events of new streams only. -/
theorem Later.since_install {source : ι} {stop : Option BlockPosition}
    (h : Later w hub (p.install source stop) r) :
    ∃ more, r.log = p.log ++ more ∧ Since p.moment.state.generation more := by
  refine h.log_since (Nat.le_succ _) ?_
  intro g hg
  obtain rfl : p.moment.state.generation + 1 = g := by
    simpa [Traced.install, HubState.install, HubState.isCurrent] using hg
  exact Nat.lt_succ_self _

/-- In all that has been handed to listeners between two moments, there is no event of a stream
that was the current one at the first of them, or at any time before. -/
def HearsNew (w : Surroundings ε ι) (hub : String) (p r : Traced ε ι) : Prop :=
  ∃ heard waiting, r.log = p.log ++ (heard ++ waiting) ∧
    handedIn r.moment.history = handedIn p.moment.history ++ heard.map Prod.snd ∧
    ∀ x ∈ heard, ∀ event, x.2.notice = .event event → ∃ g, x.1 = some g ∧
      ∀ e₀ p', Later w hub (start e₀) p' → Later w hub p' p →
        ¬ p'.moment.state.isCurrent g = true

/-- Streams with generations that are still to come have not been current. -/
theorem Later.hearsNew {e₀ : ε} (hp : Later w hub (start e₀) p) (hrest : p.moment.tasks = [])
    (h : Later w hub p r)
    (hsince : ∃ more, r.log = p.log ++ more ∧ Since p.moment.state.generation more) :
    HearsNew w hub p r := by
  obtain ⟨more, hlog, hsince⟩ := hsince
  obtain ⟨heard, waiting, rfl, hheard⟩ := Later.heard hp hrest h hlog
  refine ⟨heard, waiting, hlog, hheard, ?_⟩
  intro x hx event hevent
  obtain ⟨g, hg, hlt⟩ := hsince x (List.mem_append_left _ hx) event hevent
  refine ⟨g, hg, ?_⟩
  intro e p' hp' hbefore hcurrent
  have hle := Nat.le_trans (hp'.isCurrent_le hcurrent) hbefore.advances.generation_le
  exact absurd hle (Nat.not_le_of_lt hlt)

/-- A traced run goes on to where a send returns that succeeds. After it listeners are told of
events of new streams only. -/
theorem Later.send {τ : Type} {e₀ e' : ε}
    {begin : τ → BlockType → Envelope → Option Nat → ε →
      Except ServiceError (ι × DeliverResponse) × ε}
    {targets : List τ} {timeout : Option Nat} {h h' : EventHub ι}
    (hp : Later w hub (start e₀) p) (hrest : p.moment.tasks = []) (hname : h.name = hub)
    (hstate : h.state = p.moment.state)
    (hsend : h.send w begin targets timeout p.moment.world = some (.ok (), h', e')) :
    ∃ q, Later w hub p q ∧ q.moment.state = h'.state ∧ q.moment.world = e' ∧
      q.moment.tasks = [] ∧
      ∀ r, Later w hub q r → ∃ more, r.log = p.log ++ more ∧
        Since p.moment.state.generation more := by
  obtain ⟨⟨s, e, tasks, history⟩, log⟩ := p
  simp only at hrest hstate hsend
  subst hrest hname hstate
  obtain ⟨source, first, e₁, hstart⟩ := EventHub.start_of_send hsend
  let stopped : Traced ε ι := ⟨⟨(h.state.stopStream w e).1, e₁, [], history⟩, log⟩
  have hstopped : Later w h.name ⟨⟨h.state, e, [], history⟩, log⟩ stopped :=
    .tail (.single (.call_silent .stopStream rfl)) (.elapse e₁)
  have hinstalled : Later w h.name stopped (stopped.install source h.request.stop) :=
    .install source h.request.stop rfl
  obtain ⟨history', log', hread⟩ := Later.of_run (.read _ (.data first))
    ((hp.trans hstopped).trans hinstalled).reachable.1 hstart log
  refine ⟨_, (hstopped.trans hinstalled).trans hread, rfl, rfl, rfl, ?_⟩
  exact fun r hr => (hread.trans hr).since_install

/-- Whatever a hub has been through, nothing that another than its current stream brings
changes it. A stream that has stopped being the current one never is so again. And in all that
is handed to listeners from the installation of a stream on, whatever else is done with the hub
meanwhile, there is no event of a stream that was the current one at any time before. The same
holds from a send on that succeeds, which takes the stream out and installs another. -/
theorem superseded_silent {τ : Type} {e₀ : ε} (hp : Later w hub (start e₀) p) :
    (∀ g, ¬ p.moment.state.isCurrent g = true → ∀ event e,
      p.moment.state.onEvent w hub g event e = some (p.moment.state, e)) ∧
    (∀ g q r, p.moment.state.isCurrent g = true → Later w hub p q →
      ¬ q.moment.state.isCurrent g = true → Later w hub q r →
      ¬ r.moment.state.isCurrent g = true) ∧
    (p.moment.tasks = [] → ∀ source stop,
      Later w hub p (p.install source stop) ∧
        ∀ r, Later w hub (p.install source stop) r → HearsNew w hub p r) ∧
    ∀ (begin : τ → BlockType → Envelope → Option Nat → ε →
        Except ServiceError (ι × DeliverResponse) × ε)
      (targets : List τ) (timeout : Option Nat) (h h' : EventHub ι) (e' : ε),
      p.moment.tasks = [] → h.name = hub → h.state = p.moment.state →
      h.send w begin targets timeout p.moment.world = some (.ok (), h', e') →
      ∃ q, Later w hub p q ∧ q.moment.state = h'.state ∧ q.moment.world = e' ∧
        q.moment.tasks = [] ∧ ∀ r, Later w hub q r → HearsNew w hub p r := by
  refine ⟨fun g hg event e => HubState.onEvent_of_not_current w hub hg event e, ?_, ?_, ?_⟩
  · intro g q r hcurrent hq hnot hr
    have hle := Nat.le_trans (hp.isCurrent_le hcurrent) hq.advances.generation_le
    exact hr.not_isCurrent hle hnot
  · intro hrest source stop
    have hinstalled : Later w hub p (p.install source stop) := .install source stop hrest
    exact ⟨hinstalled, fun r hr => hp.hearsNew hrest (hinstalled.trans hr) hr.since_install⟩
  · intro begin targets timeout h h' e' hrest hname hstate hsend
    obtain ⟨q, hq, hqstate, hqworld, hqtasks, hlater⟩ := hp.send hrest hname hstate hsend
    exact ⟨q, hq, hqstate, hqworld, hqtasks,
      fun r hr => hp.hearsNew hrest (hq.trans hr) (hlater r hr)⟩

/-- A hub that listens to its first stream sends for a second one. A block that comes late on
the first stream changes nothing, and the second one is all that listeners hear of then. -/
theorem superseded_silent_second_stream :
    ∃ p q : Traced (List Delivery) Unit, Later .recording "hub" (start []) p ∧
      p.moment.state.isCurrent 1 = true ∧ Later .recording "hub" p q ∧
      q.moment.state.isCurrent 2 = true ∧
      q.moment.state.onEvent .recording "hub" 1 (.data (.filteredBlock { number := 8 }))
        q.moment.world = some (q.moment.state, q.moment.world) ∧
      ∀ r, Later .recording "hub" q r → ∃ heard waiting, r.log = p.log ++ (heard ++ waiting) ∧
        handedIn r.moment.history = handedIn p.moment.history ++ heard.map Prod.snd ∧
        ∀ x ∈ heard, ∀ event, x.2.notice = .event event → ∃ g, x.1 = some g ∧ g ≠ 1 := by
  have hfresh : Later Surroundings.recording "hub" (start []) (start []) := .refl
  have hlistens := (hfresh.tail (.call_silent (.register ⟨.block, none, none, false⟩) rfl)).tail
    (.call_silent (.install () none) rfl)
  let before : HubState Unit := HubState.install () none
    { registry := (Registry.insert {} ⟨.block, none, none, false⟩).2 }
  let first : DeliverResponse := .filteredBlock { number := 7 }
  obtain ⟨after, heard, hstart⟩ : ∃ after heard,
      (before.stopStream .recording []).1.start .recording "hub" () none first [] =
        some (after, heard) ∧ after.isCurrent 2 = true ∧ after.isCurrent 1 = false := by
    have hcurrent : ((before.stopStream .recording []).1.install () none).isCurrent 2 = true := rfl
    have hblock := HubState.onBlock_eq Surroundings.recording "hub"
      { number := ⟨7⟩, filtered := some { number := 7 } } hcurrent []
    rw [HubState.flush_of_silent (fun _ _ => rfl) rfl] at hblock
    exact ⟨_, _, hblock, rfl, rfl⟩
  let hub : EventHub Unit :=
    { name := "hub", channel := "ch", config := {}
      request := { state := { payload := some [1], signature := some [2] } }
      state := before }
  have hsend : hub.send .recording (fun () _ _ _ e => (.ok ((), first), e)) [()] none [] =
      some (.ok (), { hub with state := after }, heard) := by
    show ((before.stopStream .recording []).1.start .recording "hub" () none first []).bind
      (fun r => some (Except.ok (), hub.withState r)) = _
    rw [hstart.1]
    rfl
  obtain ⟨hcurrent, hnot⟩ := hstart.2
  obtain ⟨-, -, -, hsilent⟩ := superseded_silent (τ := Unit) hlistens
  obtain ⟨q, hq, hqstate, -, -, hlater⟩ := hsilent _ _ _ hub _ _ rfl rfl rfl hsend
  refine ⟨_, q, hlistens, rfl, hq, by rw [hqstate]; exact hcurrent, ?_, ?_⟩
  · obtain ⟨hlate, -, -, -⟩ := superseded_silent (τ := Unit) (hlistens.trans hq)
    exact hlate 1 (by rw [hqstate, hnot]; exact Bool.false_ne_true) _ _
  · intro r hr
    obtain ⟨heard, waiting, hlog, hheard, hevents⟩ := hlater r hr
    refine ⟨heard, waiting, hlog, hheard, ?_⟩
    intro x hx event hevent
    obtain ⟨g, hg, hnever⟩ := hevents x hx event hevent
    refine ⟨g, hg, ?_⟩
    rintro rfl
    exact hnever _ _ hlistens .refl rfl

end Traced

end LedgerClient
