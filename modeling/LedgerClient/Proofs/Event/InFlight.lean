import LedgerClient.Proofs.Event.Setup

/-!
# Sends in flight

A send takes the stream out that the hub has and then waits until an event source delivers a
first message or all of them have failed. Meanwhile others use the hub: they register listeners,
close the hub, and send as well. Nothing but a send waits. Every other operation runs until it
returns, and so does what a send does before and after it waits.

`Traffic` is a hub with the sends that wait and a log of what became of sends and streams, and
`Traffic.Next` goes from one atomic section to the next.

## Main results

* `Traffic.Reached.reachable`: what happens to a hub in traffic is a run of its operations.
* `Traffic.later_send`: a send that nobody interrupts is what `EventHub.send` does.
* `Traffic.close_spares_waiting`: a shutdown does not cancel the sends that wait, and the streams
  that become current after it are theirs or those of later sends.
-/

namespace LedgerClient

open Relation (ReflTransGen)

variable {ε ι τ : Type}

/-! ### Traffic -/

/-- A send that waits for a first message, and the end that its stream is to have. -/
structure WaitingSend where
  number : Nat
  stop : Option BlockPosition
  deriving DecidableEq

/-- What is remembered of sends and streams. -/
inductive TrafficMark (ι : Type) where
  | begun (number : Nat)
  /-- A send has made a stream the current one, perhaps in place of another one. -/
  | installed (number : Nat) (stream : ActiveStream ι) (replaced : Option (ActiveStream ι))
  /-- All event sources of a send have failed. -/
  | failed (number : Nat)
  /-- A stream has been released, and its event source disconnected. -/
  | released (stream : ActiveStream ι)

/-- A send has come to the end of its waiting. -/
def TrafficMark.Settles (number : Nat) : TrafficMark ι → Prop
  | .installed k _ _ | .failed k => k = number
  | .begun _ | .released _ => False

/-- A hub between two atomic sections, with the sends that wait. -/
structure Traffic (ε ι : Type) where
  moment : Moment ε ι
  /-- How many sends have begun. -/
  begun : Nat := 0
  waiting : List WaitingSend := []
  log : List (TrafficMark ι) := []

/-- An operation that is no part of a send: a listener is registered or unregistered, the owner
closes the hub, or a stream brings something. -/
def HubCall.NoSend (hub : String) : HubCall ι → Prop
  | .register _ | .unregister _ | .read _ _ => True
  | .close t => t = .closed hub
  | .stopStream | .install _ _ => False

/-- The streams that a task has taken out and not released yet. -/
def HubTask.takenOut : HubTask ε ι → List (ActiveStream ι)
  | .endClose stream => stream.toList
  | _ => []

/-- The streams that the next section releases. -/
def Moment.releases (m : Moment ε ι) : List (ActiveStream ι) :=
  (m.tasks.head?.map HubTask.takenOut).getD []

namespace Traffic

/-- A fresh hub. -/
def fresh (e : ε) : Traffic ε ι where
  moment := ⟨{}, e, [], []⟩

section Sections

variable (w : Surroundings ε ι) (hub : String)

/-- Begins an operation. -/
def call (c : HubCall ι) (T : Traffic ε ι) : Traffic ε ι :=
  { T with moment := c.begin w hub T.moment.state T.moment.world T.moment.history }

/-- A send takes the stream out and begins to wait. -/
def beginSend (stop : Option BlockPosition) (T : Traffic ε ι) : Traffic ε ι :=
  { T.call w hub .stopStream with
    begun := T.begun + 1
    waiting := T.waiting ++ [⟨T.begun + 1, stop⟩]
    log := T.log ++ T.moment.state.stream.toList.map .released ++ [.begun (T.begun + 1)] }

/-- A send whose event source has delivered a first message makes the stream the current one,
whatever has happened meanwhile, and begins to handle the message. -/
def startStream (f : WaitingSend) (source : ι) (first : DeliverResponse) (e : ε)
    (T : Traffic ε ι) : Traffic ε ι :=
  let s := T.moment.state.install source f.stop
  { T with
    moment := (HubCall.read s.generation (.data first)).begin w hub s e T.moment.history
    waiting := T.waiting.erase f
    log := T.log ++ [.installed f.number ⟨s.generation, source⟩ T.moment.state.stream] }

/-- A send whose event sources have failed begins to shut the hub down, whatever has happened
meanwhile. -/
def giveUp (f : WaitingSend) (error : ServiceError) (e : ε) (T : Traffic ε ι) : Traffic ε ι :=
  { T with
    moment :=
      (HubCall.close (.setup hub error)).begin w hub T.moment.state e T.moment.history
    waiting := T.waiting.erase f
    log := T.log ++ [.failed f.number] }

/-- One atomic section. Sends and other operations begin and go on when nothing else is left to
do; what the outside world does meanwhile, opening streams for instance, is up to it. -/
inductive Next : Traffic ε ι → Traffic ε ι → Prop where
  | elapse {T} (h : T.moment.tasks = []) (e : ε) :
      Next T { T with moment := { T.moment with world := e } }
  | call {T} (h : T.moment.tasks = []) {c : HubCall ι} (hc : c.NoSend hub) :
      Next T (T.call w hub c)
  | step {T m} (h : T.moment.Step w hub m) :
      Next T { T with moment := m, log := T.log ++ T.moment.releases.map .released }
  | begun {T} (h : T.moment.tasks = []) (stop : Option BlockPosition) :
      Next T (T.beginSend w hub stop)
  | started {T f} (h : T.moment.tasks = []) (hf : f ∈ T.waiting) (source : ι)
      (first : DeliverResponse) (e : ε) : Next T (T.startStream w hub f source first e)
  | failed {T f} (h : T.moment.tasks = []) (hf : f ∈ T.waiting) (error : ServiceError) (e : ε) :
      Next T (T.giveUp w hub f error e)

/-- What comes later in the same run. -/
def Later : Traffic ε ι → Traffic ε ι → Prop := ReflTransGen (Next w hub)

/-- The traffic of all runs, from a fresh hub on. -/
def Reached (T : Traffic ε ι) : Prop := ∃ e, Later w hub (fresh e) T

end Sections

variable {w : Surroundings ε ι} {hub : String} {T T' T₁ T₂ : Traffic ε ι}

theorem Reached.later (hT : Reached w hub T) (h : Later w hub T T') : Reached w hub T' := by
  obtain ⟨e, he⟩ := hT
  exact ⟨e, he.trans h⟩

/-! ### The run of the hub -/

/-- What a section does to the hub is part of a run of its operations. -/
theorem Next.reachable (h : Next w hub T T') (hT : Reachable w hub T.moment) :
    Reachable w hub T'.moment := by
  obtain ⟨⟨s, e, tasks, history⟩, begun, waiting, log⟩ := T
  cases h with
  | elapse h e' =>
      obtain rfl : tasks = [] := h
      exact hT.elapse e'
  | call h =>
      obtain rfl : tasks = [] := h
      exact hT.call _
  | step h => exact hT.step h
  | begun h =>
      obtain rfl : tasks = [] := h
      exact hT.call .stopStream
  | started h hf source first e' =>
      obtain rfl : tasks = [] := h
      exact ((hT.elapse e').call (.install source _)).call (.read _ (.data first))
  | failed h hf error e' =>
      obtain rfl : tasks = [] := h
      exact (hT.elapse e').call (.close _)

/-- What happens to a hub in traffic is a run of its operations. -/
theorem Reached.reachable (hT : Reached w hub T) : Reachable w hub T.moment := by
  obtain ⟨e, he⟩ := hT
  induction he with
  | refl => exact .fresh e
  | tail _ h ih => exact h.reachable ih

/-- The sections of an operation that has begun follow each other, and sends wait meanwhile. -/
theorem later_of_steps {m : Moment ε ι} (h : ReflTransGen (Moment.Step w hub) T.moment m) :
    ∃ log, Later w hub T { T with moment := m, log } := by
  induction h with
  | refl => exact ⟨T.log, .refl⟩
  | tail _ hs ih =>
      obtain ⟨log, hlater⟩ := ih
      exact ⟨_, hlater.tail (.step hs)⟩

/-! ### Sends -/

/-- The sends that wait are among those that have begun. -/
theorem Next.number_le (h : Next w hub T T') (hT : ∀ f ∈ T.waiting, f.number ≤ T.begun) :
    ∀ f ∈ T'.waiting, f.number ≤ T'.begun := by
  cases h with
  | elapse | call | step => exact hT
  | begun h stop =>
      intro f hf
      rcases List.mem_append.mp hf with hf | hf
      · exact Nat.le_succ_of_le (hT f hf)
      · obtain rfl := List.mem_singleton.mp hf
        exact Nat.le_refl _
  | started | failed => exact fun f hf => hT f (List.mem_of_mem_erase hf)

theorem Reached.number_le (hT : Reached w hub T) : ∀ f ∈ T.waiting, f.number ≤ T.begun := by
  obtain ⟨e, he⟩ := hT
  induction he with
  | refl => exact List.forall_mem_nil _
  | tail _ h ih => exact h.number_le ih

/-- A send that begins while nothing else is left to do, and that nobody interrupts, waits and
comes to its end as `EventHub.send` does, if this returns. -/
theorem later_send
    {begin : τ → BlockType → Envelope → Option Nat → ε →
      Except ServiceError (ι × DeliverResponse) × ε}
    {targets : List τ} {timeout : Option Nat} {h h' : EventHub ι} {e' : ε} {envelope : Envelope}
    {outcome : Except EventHubError Unit} (hT : Reached w h.name T)
    (hrest : T.moment.tasks = []) (hstate : T.moment.state = h.state) (htargets : targets ≠ [])
    (henvelope : h.request.state.envelope EventHub.action = .ok envelope)
    (hsend : h.send w begin targets timeout T.moment.world = some (outcome, h', e')) :
    ∃ T', Later w h.name T T' ∧ T'.moment.tasks = [] ∧ T'.moment.state = h'.state ∧
      T'.moment.world = e' ∧ T'.waiting = T.waiting ∧ T'.begun = T.begun + 1 := by
  let f : WaitingSend := ⟨T.begun + 1, h.request.stop⟩
  have hbegun : Later w h.name T (T.beginSend w h.name h.request.stop) := .single (.begun hrest _)
  have hreachable := (hT.later hbegun).reachable
  have hwaiting : f ∈ (T.beginSend w h.name h.request.stop).waiting :=
    List.mem_append_right _ List.mem_cons_self
  have herase : (T.waiting ++ [f]).erase f = T.waiting := by
    have hnew : f ∉ T.waiting := fun hmem => absurd (hT.number_le f hmem) (Nat.not_succ_le_self _)
    rw [List.erase_append_right _ hnew, List.erase_cons_head, List.append_nil]
  rw [EventHub.send_of_envelope w begin timeout htargets henvelope, ← hstate] at hsend
  split at hsend
  · next source first e₁ _ =>
    obtain ⟨r, hr, hend⟩ := Option.map_eq_some_iff.mp hsend
    cases hend
    obtain ⟨history', hsteps⟩ := (HubCall.run_eq_some_iff (.read _ (.data first))
      ((hreachable.elapse e₁).call (.install source h.request.stop))).mp hr
    obtain ⟨log, hlater⟩ := later_of_steps
      (T := (T.beginSend w h.name h.request.stop).startStream w h.name f source first e₁) hsteps
    exact ⟨_, (hbegun.tail (.started rfl hwaiting source first e₁)).trans hlater, rfl, rfl, rfl,
      herase, rfl⟩
  · next error e₁ _ =>
    obtain ⟨r, hr, hend⟩ := Option.map_eq_some_iff.mp hsend
    cases hend
    obtain ⟨history', hsteps⟩ := (HubCall.run_eq_some_iff (.close (.setup h.name error))
      (hreachable.elapse e₁)).mp hr
    obtain ⟨log, hlater⟩ := later_of_steps
      (T := (T.beginSend w h.name h.request.stop).giveUp w h.name f error e₁) hsteps
    exact ⟨_, (hbegun.tail (.failed rfl hwaiting error e₁)).trans hlater, rfl, rfl, rfl,
      herase, rfl⟩

/-! ### What becomes of a send -/

/-- A send is not settled: it waits, or it has not begun yet. -/
def Unsettled (T : Traffic ε ι) (number : Nat) : Prop :=
  (∃ f ∈ T.waiting, f.number = number) ∨ T.begun < number

/-- What has happened to sends and the stream between two moments of a run. -/
structure Since (T₁ T₂ : Traffic ε ι) (more : List (TrafficMark ι)) : Prop where
  log : T₂.log = T₁.log ++ more
  begun_le : T₁.begun ≤ T₂.begun
  /-- Who waits now has waited then or begun since. -/
  waiting : ∀ f ∈ T₂.waiting, T₁.Unsettled f.number
  /-- Who waited then waits still, or has made a stream the current one or failed. -/
  kept : ∀ f ∈ T₁.waiting, f ∈ T₂.waiting ∨ ∃ m ∈ more, m.Settles f.number
  settled : ∀ m ∈ more, ∀ k, m.Settles k → T₁.Unsettled k
  stream : ∀ a, T₂.moment.state.stream = some a →
    T₁.moment.state.stream = some a ∨ ∃ k replaced, .installed k a replaced ∈ more

theorem Since.refl (T : Traffic ε ι) : T.Since T [] where
  log := (List.append_nil _).symm
  begun_le := Nat.le_refl _
  waiting := fun f hf => .inl ⟨f, hf, rfl⟩
  kept := fun _ hf => .inl hf
  settled := List.forall_mem_nil _
  stream := fun _ ha => .inl ha

/-- What is not settled now was not settled then. -/
theorem Since.unsettled {more : List (TrafficMark ι)} {k : Nat} (h : T₁.Since T more)
    (hk : T.Unsettled k) : T₁.Unsettled k := by
  obtain ⟨f, hf, rfl⟩ | hlt := hk
  · exact h.waiting f hf
  · exact .inr (Nat.lt_of_le_of_lt h.begun_le hlt)

theorem Since.trans {more added : List (TrafficMark ι)} (h : T₁.Since T more)
    (h' : T.Since T' added) : T₁.Since T' (more ++ added) where
  log := by rw [h'.log, h.log, List.append_assoc]
  begun_le := Nat.le_trans h.begun_le h'.begun_le
  waiting := fun f hf => h.unsettled (h'.waiting f hf)
  kept := by
    intro f hf
    rcases h.kept f hf with hwaits | ⟨m, hm, hsettles⟩
    · refine (h'.kept f hwaits).imp_right ?_
      rintro ⟨m, hm, hsettles⟩
      exact ⟨m, List.mem_append_right _ hm, hsettles⟩
    · exact .inr ⟨m, List.mem_append_left _ hm, hsettles⟩
  settled := by
    intro m hm k hk
    rcases List.mem_append.mp hm with hm | hm
    · exact h.settled m hm k hk
    · exact h.unsettled (h'.settled m hm k hk)
  stream := by
    intro a ha
    rcases h'.stream a ha with hold | ⟨k, replaced, hmem⟩
    · refine (h.stream a hold).imp_right ?_
      rintro ⟨k, replaced, hmem⟩
      exact ⟨k, replaced, List.mem_append_left _ hmem⟩
    · exact .inr ⟨k, replaced, List.mem_append_right _ hmem⟩

/-- Sends wait on while something else happens that leaves the stream alone or takes it out. -/
theorem Since.aside {added : List (TrafficMark ι)} (hlog : T'.log = T.log ++ added)
    (hbegun : T'.begun = T.begun) (hwaiting : T'.waiting = T.waiting)
    (hadded : ∀ m ∈ added, ∀ k, ¬ m.Settles k)
    (hstream : T'.moment.state.stream = T.moment.state.stream ∨ T'.moment.state.stream = none) :
    T.Since T' added where
  log := hlog
  begun_le := Nat.le_of_eq hbegun.symm
  waiting := fun f hf => .inl ⟨f, hwaiting ▸ hf, rfl⟩
  kept := fun _ hf => .inl (hwaiting ▸ hf)
  settled := fun m hm k hk => absurd hk (hadded m hm k)
  stream := by
    intro a ha
    rcases hstream with hkept | hnone
    · exact .inl (hkept.symm.trans ha)
    · exact nomatch hnone.symm.trans ha

/-- One more send begins to wait. -/
theorem Since.begun (T : Traffic ε ι) (stop : Option BlockPosition) :
    T.Since (T.beginSend w hub stop)
      (T.moment.state.stream.toList.map .released ++ [.begun (T.begun + 1)]) where
  log := List.append_assoc _ _ _
  begun_le := Nat.le_succ _
  waiting := by
    intro f hf
    rcases List.mem_append.mp hf with hf | hf
    · exact .inl ⟨f, hf, rfl⟩
    · obtain rfl := List.mem_singleton.mp hf
      exact .inr (Nat.lt_succ_self _)
  kept := fun _ hf => .inl (List.mem_append_left _ hf)
  settled := by
    intro m hm k hk
    rcases List.mem_append.mp hm with hm | hm
    · obtain ⟨a, -, rfl⟩ := List.mem_map.mp hm
      exact hk.elim
    · obtain rfl := List.mem_singleton.mp hm
      exact hk.elim
  stream := fun _ ha => nomatch ha

/-- A send that waits is settled. -/
theorem Since.settle {f : WaitingSend} {m : TrafficMark ι} (hf : f ∈ T.waiting)
    (hlog : T'.log = T.log ++ [m]) (hbegun : T'.begun = T.begun)
    (hwaiting : T'.waiting = T.waiting.erase f) (hm : ∀ k, m.Settles k ↔ k = f.number)
    (hstream : ∀ a, T'.moment.state.stream = some a →
      T.moment.state.stream = some a ∨ ∃ k replaced, m = .installed k a replaced) :
    T.Since T' [m] where
  log := hlog
  begun_le := Nat.le_of_eq hbegun.symm
  waiting := by
    rw [hwaiting]
    exact fun g hg => .inl ⟨g, List.mem_of_mem_erase hg, rfl⟩
  kept := by
    intro g hg
    by_cases hgf : g = f
    · exact .inr ⟨m, List.mem_cons_self, (hm _).mpr (congrArg WaitingSend.number hgf)⟩
    · exact .inl (hwaiting ▸ (List.mem_erase_of_ne hgf).mpr hg)
  settled := by
    intro m' hm' k hk
    obtain rfl := List.mem_singleton.mp hm'
    exact .inl ⟨f, hf, ((hm k).mp hk).symm⟩
  stream := by
    intro a ha
    refine (hstream a ha).imp_right ?_
    rintro ⟨k, replaced, rfl⟩
    exact ⟨k, replaced, List.mem_cons_self⟩

end Traffic

/-- An operation that is no part of a send leaves the stream alone at its beginning. -/
theorem HubCall.begin_stream {w : Surroundings ε ι} {hub : String} {c : HubCall ι}
    (hc : c.NoSend hub) (s : HubState ι) (e : ε) (history : List HubMark) :
    (c.begin w hub s e history).state.stream = s.stream := by
  cases c with
  | register | unregister | close => rfl
  | stopStream | install => exact hc.elim
  | read generation event =>
      rw [HubCall.begin]
      split
      · cases hr : event.reading hub s with
        | block block => rw [HubState.takeIn_of_block hr]; rfl
        | finish t => rw [HubState.takeIn_of_finish hr]
      · rfl

namespace Traffic

variable {w : Surroundings ε ι} {hub : String} {T T' T₁ T₂ : Traffic ε ι}

/-- The stream of a send is the current one when the handling of its first message begins. -/
theorem stream_startStream {f : WaitingSend} {source : ι} {first : DeliverResponse} {e : ε} :
    (T.startStream w hub f source first e).moment.state.stream =
      some ⟨T.moment.state.generation + 1, source⟩ := by
  have hread : (HubCall.read (T.moment.state.generation + 1) (.data first) : HubCall ι).NoSend
      hub := trivial
  exact HubCall.begin_stream (w := w) hread _ _ _

/-- What has happened in one section. -/
theorem Next.since (h : Next w hub T T') : ∃ more, T.Since T' more := by
  cases h with
  | elapse h e =>
      exact ⟨[], .aside (List.append_nil _).symm rfl rfl (List.forall_mem_nil _) (.inl rfl)⟩
  | call h hc =>
      exact ⟨[], .aside (List.append_nil _).symm rfl rfl (List.forall_mem_nil _)
        (.inl (HubCall.begin_stream hc _ _ _))⟩
  | step h =>
      obtain ⟨marks, hmarks⟩ := h.marks
      refine ⟨_, .aside rfl rfl rfl ?_ ?_⟩
      · intro m hm k hk
        obtain ⟨a, -, rfl⟩ := List.mem_map.mp hm
        exact hk
      · simp only [hmarks.stream]
        split
        · exact .inr rfl
        · exact .inl rfl
  | begun h stop => exact ⟨_, .begun T stop⟩
  | started h hf source first e =>
      refine ⟨_, .settle hf rfl rfl rfl (fun k => eq_comm) ?_⟩
      intro a ha
      obtain rfl := Option.some.inj (ha.symm.trans stream_startStream)
      exact .inr ⟨_, _, rfl⟩
  | failed h hf error e =>
      exact ⟨_, .settle hf rfl rfl rfl (fun k => eq_comm) fun a ha => .inl ha⟩

/-- What has happened since an earlier moment of the same run. -/
theorem Later.since (h : Later w hub T T') : ∃ more, T.Since T' more := by
  induction h with
  | refl => exact ⟨[], .refl T⟩
  | tail _ hnext ih =>
      obtain ⟨more, hmore⟩ := ih
      obtain ⟨added, hadded⟩ := hnext.since
      exact ⟨_, hmore.trans hadded⟩

/-! ### Shutdowns -/

/-- A shutdown that its owner asks for returns, and leaves the hub without a stream. The sends
that wait go on to do so. -/
theorem Reached.close (hT : Reached w hub T) (hrest : T.moment.tasks = []) :
    ∃ s e history log, T.moment.state.closeWith w hub (.closed hub) T.moment.world = some (s, e) ∧
      s.stream = none ∧ Later w hub T { T with moment := ⟨s, e, [], history⟩, log } := by
  have hreachable : Reachable w hub
      ⟨T.moment.state, T.moment.world, [], T.moment.history⟩ := hrest ▸ hT.reachable
  obtain ⟨s, e, hclose, hstream⟩ :=
    HubState.closeWith_returns w hub (.closed hub) T.moment.state T.moment.world
  rw [(hreachable.nested.atRest rfl).closing] at hstream
  obtain ⟨history, hsteps⟩ := (HubCall.run_eq_some_iff (.close (.closed hub)) hreachable).mp hclose
  obtain ⟨log, hlater⟩ := later_of_steps (T := T.call w hub (.close (.closed hub))) hsteps
  have howner : (HubCall.close (.closed hub) : HubCall ι).NoSend hub := rfl
  exact ⟨s, e, history, log, hclose, hstream, .head (.call hrest howner) hlater⟩

/-- A send that gives up shuts the hub down, and finds all who are registered by then. -/
theorem giveUp_found (hT : Reached w hub T) (hrest : T.moment.tasks = []) (f : WaitingSend)
    (error : ServiceError) (e : ε) : ∃ T', Next w hub (T.giveUp w hub f error e) T' ∧
      T'.moment.history = T.moment.history ++ [.found T.moment.state.registry.handles] := by
  have hbegin : T.moment.state.beginClose (w.connectionInfo · e) (.setup hub error) =
      some (T.moment.state.closed (w.connectionInfo · e) (.setup hub error),
        T.moment.state.stream) := by
    rw [HubState.beginClose_eq, (hT.reachable.nested.atRest hrest).closing]
    rfl
  exact ⟨_, .step (.closeBegun hbegin), rfl⟩

/-- What a shutdown that the owner asks for does to sends. It returns and leaves the hub without a
stream. No send is cancelled: who waited goes on to wait until it has made a stream the current
one or all its event sources have failed. As long as a send waits, and nothing else is left to do,
a first message makes its stream the current one, and a failure shuts the hub down and finds all
who have been registered by then. But the streams that become current after the shutdown, and the
failures after it, are only those of sends that it found waiting and of later ones. So if no send
waits and none begins, the hub stays without a stream. -/
theorem close_spares_waiting (hT : Reached w hub T) (hrest : T.moment.tasks = []) :
    ∃ s e T₁, T.moment.state.closeWith w hub (.closed hub) T.moment.world = some (s, e) ∧
      Later w hub T T₁ ∧ T₁.moment.tasks = [] ∧ T₁.moment.state = s ∧ T₁.moment.world = e ∧
      s.stream = none ∧ T₁.waiting = T.waiting ∧
      ∀ T₂, Later w hub T₁ T₂ → ∃ more, T₂.log = T₁.log ++ more ∧
        (∀ f ∈ T.waiting, f ∈ T₂.waiting ∨ ∃ m ∈ more, m.Settles f.number) ∧
        (T₂.moment.tasks = [] → ∀ f ∈ T₂.waiting,
          (∀ source first e₂, Next w hub T₂ (T₂.startStream w hub f source first e₂) ∧
            (T₂.startStream w hub f source first e₂).moment.state.stream =
              some ⟨T₂.moment.state.generation + 1, source⟩) ∧
          (∀ error e₂, Next w hub T₂ (T₂.giveUp w hub f error e₂) ∧
            ∃ T₃, Next w hub (T₂.giveUp w hub f error e₂) T₃ ∧ T₃.moment.history =
              T₂.moment.history ++ [.found T₂.moment.state.registry.handles])) ∧
        (∀ m ∈ more, ∀ k, m.Settles k → (∃ f ∈ T.waiting, f.number = k) ∨ T.begun < k) ∧
        (∀ a, T₂.moment.state.stream = some a → ∃ k replaced, .installed k a replaced ∈ more) := by
  obtain ⟨s, e, history, log, hclose, hstream, hlater⟩ := hT.close hrest
  refine ⟨s, e, _, hclose, hlater, rfl, rfl, rfl, hstream, rfl, ?_⟩
  intro T₂ hT₂
  obtain ⟨more, hsince⟩ := hT₂.since
  refine ⟨more, hsince.log, hsince.kept, ?_, hsince.settled, ?_⟩
  · intro hrest₂ f hf
    refine ⟨fun source first e₂ => ⟨.started hrest₂ hf source first e₂, stream_startStream⟩, ?_⟩
    intro error e₂
    exact ⟨.failed hrest₂ hf error e₂,
      giveUp_found ((hT.later hlater).later hT₂) hrest₂ f error e₂⟩
  · intro a ha
    rcases hsince.stream a ha with hold | hnew
    · exact nomatch hstream.symm.trans hold
    · exact hnew

/-- A hub that was closed while a send was waiting. -/
def closedInFlight : Traffic (List Delivery) Unit where
  moment := ⟨{}, [], [], [.found []]⟩
  begun := 1
  waiting := [⟨1, none⟩]
  log := [.begun 1]

/-- A hub is closed while a send waits, and the shutdown returns. -/
theorem closedInFlight_later :
    Later .recording "hub" (((fresh []).beginSend .recording "hub" none).call .recording "hub"
      (.close (.closed "hub"))) closedInFlight :=
  .head (.step (.closeBegun rfl)) (.head (.step (.flushBegun rfl))
    (.head (.step (.drainEnded rfl)) (.single (.step .closeEnded))))

/-- A send waits while its hub is closed and waits on, and can still make its stream the current
one. -/
theorem close_spares_waiting_one :
    ∃ T₁ : Traffic (List Delivery) Unit,
      Later .recording "hub" ((fresh []).beginSend .recording "hub" none) T₁ ∧
      T₁.moment.tasks = [] ∧ T₁.moment.state.stream = none ∧ T₁.waiting = [⟨1, none⟩] ∧
      ∀ first heard,
        (T₁.startStream .recording "hub" ⟨1, none⟩ () first heard).moment.state.stream =
          some ⟨T₁.moment.state.generation + 1, ()⟩ := by
  have hbegun : Next .recording "hub" (fresh []) _ := .begun rfl none
  obtain ⟨s, heard, T₁, -, hlater, hrest, rfl, rfl, hstream, hwaiting, hsends⟩ :=
    close_spares_waiting ⟨[], .single hbegun⟩ rfl
  obtain ⟨more, -, -, hgoesOn, -⟩ := hsends T₁ .refl
  obtain ⟨hstarts, -⟩ := hgoesOn hrest ⟨1, none⟩ (hwaiting ▸ List.mem_cons_self)
  exact ⟨T₁, hlater, hrest, hstream, hwaiting, fun first heard => (hstarts () first heard).2⟩

/-- Sends outlive a shutdown. One send waits while the hub is closed, and afterwards its first
message makes its stream the current one. Another one waits while the hub is closed, and afterwards
it fails, and a listener that was registered in between is told of the failure. A third one gets
the block with which its stream is to end as its first message. A listener that hears of it closes
the hub and registers another listener, and the send goes on to tell the new listener of the end
of its stream. -/
theorem send_outlives_close :
    Next .recording "hub" (fresh []) ((fresh []).beginSend .recording "hub" none) ∧
    Later .recording "hub" (((fresh []).beginSend .recording "hub" none).call .recording "hub"
      (.close (.closed "hub"))) closedInFlight ∧
    (∃ T, Later .recording "hub" closedInFlight T ∧ T.moment.tasks = [] ∧
      T.log = [.begun 1, .installed 1 ⟨1, ()⟩ none] ∧
      T.moment.state.stream = some ⟨1, ()⟩) ∧
    (∃ T last, Later .recording "hub" closedInFlight T ∧ T.moment.tasks = [] ∧
      T.log = [.begun 1, .failed 1] ∧
      T.moment.history = [.found [], .registered ⟨1⟩, .found [⟨1⟩],
        .handed ⟨⟨1⟩, .terminated last⟩] ∧
      last.kind = .setupFailed) ∧
    (∃ T event closed last, Reached .rejoining "hub" T ∧ T.moment.tasks = [] ∧
      T.log = [.begun 1, .installed 1 ⟨1, ()⟩ none, .released ⟨1, ()⟩] ∧
      T.moment.history = [.registered ⟨1⟩, .handed event, .found [⟨1⟩], .registered ⟨2⟩,
        .handed ⟨⟨1⟩, .terminated closed⟩, .found [⟨2⟩], .handed ⟨⟨2⟩, .terminated last⟩] ∧
      closed.kind = .closed ∧ last.kind = .endBlockReached) := by
  refine ⟨.begun rfl none, closedInFlight_later, ?_, ?_, ?_⟩
  · have hstarted : Next .recording "hub" closedInFlight _ :=
      .started rfl List.mem_cons_self () (.filteredBlock { number := 1 }) []
    exact ⟨_, .head hstarted (.head (.step (.flushBegun rfl)) (.single (.step (.drainEnded rfl)))),
      rfl, rfl, rfl⟩
  · have hregistered : Next .recording "hub" closedInFlight _ :=
      .call rfl (c := .register ⟨.block, none, none, false⟩) trivial
    have hfailed := (ReflTransGen.single hregistered).tail
      (.failed rfl List.mem_cons_self (.notConnected {}) [])
    have hfound := (hfailed.tail (.step (.closeBegun rfl))).tail (.step (.flushBegun rfl))
    have htold := (hfound.tail (.step (.handedOver rfl))).tail (.step .returned)
    exact ⟨_, _, (htold.tail (.step (.drainEnded rfl))).tail (.step .closeEnded),
      rfl, rfl, rfl, rfl⟩
  · have hregistered : Next .rejoining "hub" (fresh []) _ :=
      .call rfl (c := .register ⟨.block, none, none, false⟩) trivial
    have hstarted := ((ReflTransGen.single hregistered).tail
      (.begun rfl (some (.number ⟨1⟩)))).tail
      (.started rfl List.mem_cons_self () (.filteredBlock { number := 1 }) [])
    have hheard := (hstarted.tail (.step (.flushBegun rfl))).tail (.step (.handedOver rfl))
    have hcloses := ((hheard.tail (.step .closeAsked)).tail (.step (.closeBegun rfl))).tail
      (.step (.flushSkipped rfl))
    have hrejoins := ((hcloses.tail (.step .closeEnded)).tail (.step .resumed)).tail
      (.step .registered)
    have hends := ((hrejoins.tail (.step .returned)).tail (.step (.handedOver rfl))).tail
      (.step .returned)
    have hshuts := ((hends.tail (.step (.drainEnded rfl))).tail (.step (.closeBegun rfl))).tail
      (.step (.flushBegun rfl))
    have htold := ((hshuts.tail (.step (.handedOver rfl))).tail (.step .returned)).tail
      (.step (.drainEnded rfl))
    exact ⟨_, _, _, _, ⟨_, htold.tail (.step .closeEnded)⟩, rfl, rfl, rfl, rfl, rfl⟩

end Traffic

end LedgerClient
