import LedgerClient.Proofs.Event.Acts
import LedgerClient.Proofs.Event.Callers

/-!
# The windows of listeners

Any number of callers use a hub at the same time: they register and unregister listeners, send
for streams in place of the current one, bring what the streams deliver and shut the hub down.
In a `SharedHub` they take turns section by section. It keeps a list of what was done to the
registry: a block stands in it if it came on the stream that was current then.

Out of this list, every listener can tell what it has been told. It does not matter who has
handed over what, and how often streams were replaced.

## Main results

* `SharedHub.Reached.applyAll_eq`: the acts account for the registry and for everything that
  listeners have been told.
* `SharedHub.Reached.orderly`: a queued notice has somebody who sees to it.
* `SharedHub.exists_of_reachable`: the runs of one caller are among those of a shared hub.
* `SharedHub.window_kept`: a block listener that stays after its first event is told of the
  blocks in its window up to its last block, then of the end of the window and nothing more; and
  no listener ever hears of a block outside of its window.
-/

namespace LedgerClient

open Relation (ReflTransGen)

variable {κ ε ι : Type}

/-! ### What sections do to the registry -/

/-- What the beginning of an operation does to the registry. -/
def HubCall.acts (hub : String) (s : HubState ι) : HubCall ι → List RegistryAct
  | .register l => [.register l]
  | .unregister h => [.unregister h]
  | .read generation event =>
    if s.isCurrent generation then
      match event.reading hub s with
      | .block b => [.block b]
      | .finish _ => []
    else []
  | .close _ | .stopStream | .install _ _ => []

/-- What the next section of what is left to do does to the registry. -/
def Moment.acts (w : Surroundings ε ι) (m : Moment ε ι) : List RegistryAct :=
  match m.tasks with
  | .close t :: _ =>
    if m.state.closing then []
    else [.shutDown (m.state.farewell (w.connectionInfo · m.world) t)]
  | .react (.register l _) :: _ => [.register l]
  | .react (.unregister h _) :: _ => [.unregister h]
  | _ => []

/-- Acts lead from one moment to another: they account for the registry and for all that
listeners have been told in between. -/
structure RegistryAct.Leads (hub : String) (acts : List RegistryAct) (m m' : Moment ε ι) :
    Prop where
  registry : m'.state.registry = (applyAll hub m.state.registry acts).1
  told : m'.ledger.told = m.ledger.told ++ (applyAll hub m.state.registry acts).2

section Sections

variable {w : Surroundings ε ι} {hub : String} {m m' : Moment ε ι}

/-- A section that leaves the registry and the notices alone. -/
theorem RegistryAct.Leads.of_eq (hregistry : m'.state.registry = m.state.registry)
    (htold : m'.ledger.told = m.ledger.told) : RegistryAct.Leads hub [] m m' where
  registry := hregistry
  told := by rw [htold]; exact (List.append_nil _).symm

/-- What a section does to the registry accounts for what it tells. -/
theorem Moment.Step.leads (hs : m.Step w hub m') :
    RegistryAct.Leads hub (m.acts w) m m' := by
  cases hs with
  | @closeDropped s e t tasks history h =>
      have hclosing : s.closing = true := by
        by_contra hopen
        rw [HubState.beginClose_eq, if_neg hopen] at h
        cases h
      have hacts : Moment.acts w ⟨s, e, .close t :: tasks, history⟩ = [] := if_pos hclosing
      rw [hacts]
      exact .of_eq rfl (by simp [Moment.ledger, handedIn])
  | @closeBegun s e t tasks history s' stream h =>
      obtain ⟨hclosing, rfl, -⟩ := HubState.of_beginClose_eq_some h
      have hacts : Moment.acts w ⟨s, e, .close t :: tasks, history⟩ =
          [.shutDown (s.farewell (w.connectionInfo · e) t)] :=
        if_neg (ne_true_of_eq_false hclosing)
      rw [hacts]
      exact ⟨rfl, by simp [Moment.ledger, handedIn, HubState.closed, RegistryAct.apply]⟩
  | flushBegun h =>
      obtain ⟨-, rfl⟩ := HubState.of_beginDrain_eq_some h
      exact .of_eq rfl rfl
  | drainEnded h =>
      obtain ⟨-, rfl⟩ := HubState.of_nextNotice_eq_none h
      exact .of_eq rfl rfl
  | handedOver h =>
      obtain ⟨rest, hq, rfl⟩ := HubState.of_nextNotice_eq_some h
      exact .of_eq rfl (by simp [Moment.ledger, handedIn, hq])
  | closeEnded | flushSkipped | returned | closeAsked | resumed => exact .of_eq rfl rfl
  | registered => exact ⟨rfl, by simp [Moment.ledger, handedIn, Moment.acts, RegistryAct.apply]⟩
  | unregistered => exact ⟨rfl, by simp [Moment.ledger, handedIn, Moment.acts, RegistryAct.apply]⟩

/-- What an operation does to the registry as it begins accounts for what it tells. -/
theorem HubCall.begin_leads (c : HubCall ι) (s : HubState ι) (e : ε) (tasks : List (HubTask ε ι))
    (history : List HubMark) :
    RegistryAct.Leads hub (c.acts hub s) ⟨s, e, tasks, history⟩ (c.begin w hub s e history) := by
  cases c with
  | close | stopStream | install => exact .of_eq rfl rfl
  | register l =>
      refine ⟨rfl, ?_⟩
      simp [HubCall.begin, Moment.ledger, handedIn, HubCall.acts, RegistryAct.apply]
  | unregister h =>
      refine ⟨rfl, ?_⟩
      simp [HubCall.begin, Moment.ledger, HubCall.acts, RegistryAct.apply]
  | read generation event =>
      rw [HubCall.begin, HubCall.acts]
      split
      · cases hr : event.reading hub s with
        | block b =>
            rw [HubState.takeIn_of_block hr]
            exact ⟨rfl, by simp [Moment.ledger, HubState.receive_snd, RegistryAct.apply]⟩
        | finish t =>
            rw [HubState.takeIn_of_finish hr]
            exact .of_eq rfl rfl
      · exact .of_eq rfl rfl

/-! ### Handing over, section by section -/

/-- What a caller's section does to the handing over of notices. The caller begins with it, ends
it, or leaves it to whoever is at it. If notices are queued afterwards, a caller that queued them
or saw to the earlier ones sees to it that they are handed over, unless another one is at it. -/
structure Moment.Tends (m m' : Moment ε ι) : Prop where
  drains :
    (m'.state.draining = m.state.draining ∧
      m'.tasks.countP HubTask.isDrain = m.tasks.countP HubTask.isDrain) ∨
    (m.state.draining = false ∧ m'.state.draining = true ∧
      m'.tasks.countP HubTask.isDrain = m.tasks.countP HubTask.isDrain + 1) ∨
    (m'.state.draining = false ∧
      m.tasks.countP HubTask.isDrain = m'.tasks.countP HubTask.isDrain + 1)
  handsOver : m'.state.queue ≠ [] →
    m.state.queue = [] ∨ 0 < m.tasks.countP HubTask.handsOver →
      0 < m'.tasks.countP HubTask.handsOver ∨
        (m.state.draining = true ∧ m.tasks.countP HubTask.isDrain = 0)

/-- A section that has nothing to do with notices. -/
theorem Moment.Tends.of_eq (hdraining : m'.state.draining = m.state.draining)
    (hqueue : m'.state.queue = m.state.queue)
    (hd : m'.tasks.countP HubTask.isDrain = m.tasks.countP HubTask.isDrain)
    (hh : m'.tasks.countP HubTask.handsOver = m.tasks.countP HubTask.handsOver) :
    m.Tends m' where
  drains := .inl ⟨hdraining, hd⟩
  handsOver := by
    rintro hne (hnone | hsees)
    · exact absurd (hqueue.trans hnone) hne
    · exact .inl (hh ▸ hsees)

/-- Every section tends to the notices. -/
theorem Moment.Step.tends (hs : m.Step w hub m') : m.Tends m' := by
  cases hs with
  | closeDropped | closeEnded | returned | registered | unregistered | closeAsked | resumed =>
      exact .of_eq rfl rfl rfl rfl
  | closeBegun h =>
      obtain ⟨-, rfl, -⟩ := HubState.of_beginClose_eq_some h
      exact ⟨.inl ⟨rfl, rfl⟩, fun _ _ => .inl (by simp [HubTask.handsOver])⟩
  | @flushSkipped s e tasks history h =>
      refine ⟨.inl ⟨rfl, rfl⟩, fun _ _ => ?_⟩
      rcases Nat.eq_zero_or_pos (tasks.countP HubTask.handsOver) with hnone | hsees
      · -- Nobody else but another caller can be at it.
        have hle := countP_isDrain_le tasks
        exact .inr ⟨HubState.draining_of_beginDrain_eq_none h, Nat.le_zero.mp (hnone ▸ hle)⟩
      · exact .inl hsees
  | flushBegun h =>
      obtain ⟨hdraining, rfl⟩ := HubState.of_beginDrain_eq_some h
      exact ⟨.inr (.inl ⟨hdraining, rfl, List.countP_cons_of_pos rfl⟩),
        fun _ _ => .inl (by simp [HubTask.handsOver])⟩
  | drainEnded h =>
      obtain ⟨hqueue, rfl⟩ := HubState.of_nextNotice_eq_none h
      exact ⟨.inr (.inr ⟨rfl, List.countP_cons_of_pos rfl⟩), fun hne _ => absurd hqueue hne⟩
  | handedOver h =>
      obtain ⟨_, -, rfl⟩ := HubState.of_nextNotice_eq_some h
      exact ⟨.inl ⟨rfl, rfl⟩, fun _ _ => .inl (by simp [HubTask.handsOver])⟩

/-- An operation that queues notices as it begins sees to it that they are handed over. -/
theorem HubCall.begin_tends (c : HubCall ι) (s : HubState ι) (e : ε) (history : List HubMark) :
    (⟨s, e, [], history⟩ : Moment ε ι).Tends (c.begin w hub s e history) := by
  cases c with
  | register | unregister | close | stopStream | install => exact .of_eq rfl rfl rfl rfl
  | read generation event =>
      rw [HubCall.begin]
      split
      · cases hr : event.reading hub s with
        | block b =>
            rw [HubState.takeIn_of_block hr]
            refine ⟨.inl ⟨rfl, ?_⟩, fun _ _ => .inl ?_⟩
            · simp only
              split <;> rfl
            · simp only
              split <;> exact Nat.one_pos
        | finish t =>
            rw [HubState.takeIn_of_finish hr]
            exact .of_eq rfl rfl rfl rfl
      · exact .of_eq rfl rfl rfl rfl

end Sections

/-! ### A shared hub -/

/-- A hub that any number of callers use at the same time. -/
structure SharedHub (κ ε ι : Type) where
  state : HubState ι
  world : ε
  /-- What is left to do for each caller, innermost first. -/
  tasks : κ → List (HubTask ε ι)
  history : List HubMark
  /-- What was done to the registry. -/
  acts : List RegistryAct

namespace SharedHub

/-- A fresh hub that nobody uses yet. -/
def fresh (e : ε) : SharedHub κ ε ι := ⟨{}, e, fun _ => [], [], []⟩

/-- The hub as one caller sees it. -/
def view (S : SharedHub κ ε ι) (i : κ) : Moment ε ι := ⟨S.state, S.world, S.tasks i, S.history⟩

/-- What listeners have been told: what was handed over or waits in the queue. -/
def told (S : SharedHub κ ε ι) : List Delivery := handedIn S.history ++ S.state.queue

variable [DecidableEq κ]

/-- The hub after a section of one caller. -/
def put (S : SharedHub κ ε ι) (i : κ) (m : Moment ε ι) (acts : List RegistryAct) :
    SharedHub κ ε ι where
  state := m.state
  world := m.world
  tasks := Function.update S.tasks i m.tasks
  history := m.history
  acts := S.acts ++ acts

/-- One atomic section: the outside world changes, a caller who has nothing left to do begins an
operation, or a caller goes on. -/
inductive Next (w : Surroundings ε ι) (hub : String) :
    SharedHub κ ε ι → SharedHub κ ε ι → Prop where
  | elapse {S} (e : ε) : Next w hub S { S with world := e }
  | call {S} (i : κ) (hi : S.tasks i = []) (c : HubCall ι) :
      Next w hub S (S.put i (c.begin w hub S.state S.world S.history) (c.acts hub S.state))
  | step {S} (i : κ) {m : Moment ε ι} (hs : (S.view i).Step w hub m) :
      Next w hub S (S.put i m ((S.view i).acts w))

/-- What comes later in the same run. -/
def Later (w : Surroundings ε ι) (hub : String) : SharedHub κ ε ι → SharedHub κ ε ι → Prop :=
  ReflTransGen (Next w hub)

/-- The hubs of all runs, from a fresh one on. -/
def Reached (w : Surroundings ε ι) (hub : String) (S : SharedHub κ ε ι) : Prop :=
  ∃ e, Later w hub (fresh e) S

variable {w : Surroundings ε ι} {hub : String} {S S' : SharedHub κ ε ι}

theorem Reached.later (hS : Reached w hub S) (h : Later w hub S S') : Reached w hub S' := by
  obtain ⟨e, he⟩ := hS
  exact ⟨e, he.trans h⟩

/-- A property of a fresh hub that each section keeps holds of all hubs that are reached. -/
theorem Reached.induction {P : SharedHub κ ε ι → Prop} (hS : Reached w hub S)
    (hfresh : ∀ e, P (fresh e)) (hnext : ∀ S S', Next w hub S S' → P S → P S') : P S := by
  obtain ⟨e, he⟩ := hS
  induction he with
  | refl => exact hfresh e
  | tail _ h ih => exact hnext _ _ h ih

/-! ### The acts account for what is told -/

/-- Acts that account for what a caller does carry on the account. -/
theorem applyAll_put (hS : RegistryAct.applyAll hub {} S.acts = (S.state.registry, S.told))
    {i : κ} {m : Moment ε ι} {acts : List RegistryAct}
    (hleads : RegistryAct.Leads hub acts (S.view i) m) :
    RegistryAct.applyAll hub {} (S.put i m acts).acts =
      ((S.put i m acts).state.registry, (S.put i m acts).told) := by
  have htold : m.ledger.told = S.told ++ (RegistryAct.applyAll hub S.state.registry acts).2 :=
    hleads.told
  have hregistry : m.state.registry = (RegistryAct.applyAll hub S.state.registry acts).1 :=
    hleads.registry
  change RegistryAct.applyAll hub {} (S.acts ++ acts) = (m.state.registry, m.ledger.told)
  rw [RegistryAct.applyAll_append, hS, htold, hregistry]

/-- The acts account for the registry and for everything that listeners have been told. -/
theorem Reached.applyAll_eq (hS : Reached w hub S) :
    RegistryAct.applyAll hub {} S.acts = (S.state.registry, S.told) := by
  refine hS.induction (P := fun S =>
    RegistryAct.applyAll hub {} S.acts = (S.state.registry, S.told)) (fun _ => rfl) ?_
  intro S S' h ih
  cases h with
  | elapse e => exact ih
  | call i hi c => exact applyAll_put ih (c.begin_leads S.state S.world (S.tasks i) S.history)
  | step i hs => exact applyAll_put ih hs.leads

/-- The registry of a run comes from registering and removing. -/
theorem Reached.registry_reachable (hS : Reached w hub S) : S.state.registry.Reachable := by
  have hacts : (RegistryAct.applyAll hub {} S.acts).1.Reachable :=
    RegistryAct.reachable_applyAll .empty S.acts
  rwa [hS.applyAll_eq] at hacts

/-! ### No notice is forgotten -/

/-- The hub says that notices are being handed over exactly if there is a caller who is at it,
and there is one of them at most. If any notices wait, somebody sees to it. -/
structure Orderly (S : SharedHub κ ε ι) : Prop where
  owner : ∃ owner : Option κ, S.state.draining = owner.isSome ∧
    ∀ i, (S.tasks i).countP HubTask.isDrain = if owner = some i then 1 else 0
  noticed : S.state.queue ≠ [] → ∃ i, 0 < (S.tasks i).countP HubTask.handsOver

@[simp] theorem put_tasks_self (S : SharedHub κ ε ι) (i : κ) (m : Moment ε ι)
    (acts : List RegistryAct) : (S.put i m acts).tasks i = m.tasks :=
  Function.update_self ..

theorem put_tasks_of_ne (S : SharedHub κ ε ι) {i j : κ} (h : j ≠ i) (m : Moment ε ι)
    (acts : List RegistryAct) : (S.put i m acts).tasks j = S.tasks j :=
  Function.update_of_ne h ..

/-- A caller's section keeps order. -/
theorem Orderly.put (hS : S.Orderly) {i : κ} {m : Moment ε ι} (h : (S.view i).Tends m)
    (acts : List RegistryAct) : (S.put i m acts).Orderly := by
  have hself := S.put_tasks_self i m acts
  have hother {j : κ} (hj : j ≠ i) := S.put_tasks_of_ne hj m acts
  constructor
  case owner =>
    refine exists_owner_of_turn hS.owner (i := i) (fun j hj => by rw [hother hj]) ?_
    rw [hself]
    exact h.drains
  case noticed =>
    intro hqueue
    have hsees : S.state.queue = [] ∨ 0 < (S.tasks i).countP HubTask.handsOver →
        ∃ j, 0 < ((S.put i m acts).tasks j).countP HubTask.handsOver := by
      intro hi
      rcases h.handsOver hqueue hi with hkept | ⟨hbusy, hzero⟩
      · exact ⟨i, by rw [hself]; exact hkept⟩
      · obtain ⟨k, hki, hdrain⟩ := exists_other_owner hS.owner hbusy hzero
        refine ⟨k, ?_⟩
        rw [hother hki]
        exact Nat.lt_of_lt_of_le hdrain (countP_isDrain_le _)
    by_cases hempty : S.state.queue = []
    · exact hsees (.inl hempty)
    · obtain ⟨j, hj⟩ := hS.noticed hempty
      by_cases hji : j = i
      · exact hsees (.inr (hji ▸ hj))
      · exact ⟨j, by rw [hother hji]; exact hj⟩

/-- At every moment of every run there is order. -/
theorem Reached.orderly (hS : Reached w hub S) : S.Orderly := by
  refine hS.induction (P := Orderly) ?_ ?_
  · intro e
    exact ⟨⟨none, rfl, fun _ => rfl⟩, fun h => absurd rfl h⟩
  · intro S S' h ih
    cases h with
    | elapse e => exact ⟨ih.owner, ih.noticed⟩
    | call i hi c =>
        have hview : S.view i = ⟨S.state, S.world, [], S.history⟩ := by rw [view, hi]
        exact ih.put (hview ▸ c.begin_tends S.state S.world S.history) _
    | step i hs => exact ih.put hs.tends _

/-- When nobody has anything left to do, all notices have been handed over. -/
theorem Orderly.queue_eq_nil (hS : S.Orderly) (hdone : ∀ i, S.tasks i = []) :
    S.state.queue = [] := by
  by_contra hne
  obtain ⟨i, hi⟩ := hS.noticed hne
  rw [hdone i] at hi
  exact absurd hi (Nat.lt_irrefl 0)

/-! ### One caller -/

/-- What a caller sees of the hub after its section. -/
theorem view_put (S : SharedHub κ ε ι) (i : κ) (m : Moment ε ι) (acts : List RegistryAct) :
    (S.put i m acts).view i = m := by
  rw [view, put_tasks_self]
  rfl

/-- The run of a hub that only one caller uses is a run of a shared hub. -/
theorem exists_of_reachable {m : Moment ε ι} (h : LedgerClient.Reachable w hub m) (i : κ) :
    ∃ S : SharedHub κ ε ι, Reached w hub S ∧ S.view i = m := by
  induction h with
  | fresh e => exact ⟨fresh e, ⟨e, .refl⟩, rfl⟩
  | elapse _ e' ih =>
      obtain ⟨S, hS, hview⟩ := ih
      obtain ⟨rfl, rfl, ht, rfl⟩ := Moment.mk.inj hview
      exact ⟨_, hS.later (.single (.elapse e')), by rw [view, ht]⟩
  | call _ c ih =>
      obtain ⟨S, hS, hview⟩ := ih
      obtain ⟨rfl, rfl, ht, rfl⟩ := Moment.mk.inj hview
      exact ⟨_, hS.later (.single (.call i ht c)), view_put S i _ _⟩
  | step _ hs ih =>
      obtain ⟨S, hS, rfl⟩ := ih
      exact ⟨_, hS.later (.single (.step i hs)), view_put S i _ _⟩

/-! ### What a listener is told -/

section Listener

variable {S₀ : SharedHub κ ε ι} {l : EventListener} {after : List RegistryAct}

/-- A listener that has registered is told what it hears of everything that is done to the
registry afterwards. -/
theorem Reached.noticesOf_told (h₀ : Reached w hub S₀) (hS : Reached w hub S)
    (hacts : S.acts = S₀.acts ++ .register l :: after) :
    noticesOf (S₀.state.registry.insert l).1 S.told =
      l.hears hub (S₀.state.registry.insert l).1 after := by
  have hsum₀ := h₀.applyAll_eq
  have hregistry := h₀.registry_reachable
  have htold : S.told = S₀.told ++
      (RegistryAct.applyAll hub (S₀.state.registry.insert l).2 after).2 := by
    have hsum := hS.applyAll_eq
    rw [hacts, RegistryAct.applyAll_append, hsum₀] at hsum
    exact (congrArg Prod.snd hsum).symm
  -- The handle is a fresh one, so nothing was told under it before.
  have hbefore : noticesOf (S₀.state.registry.insert l).1 S₀.told = [] := by
    have hfresh : (RegistryAct.applyAll hub {} S₀.acts).1.lastId <
        (S₀.state.registry.insert l).1.id := by
      rw [hsum₀]
      exact Nat.lt_succ_self _
    have hnone := RegistryAct.noticesOf_applyAll_of_fresh .empty hfresh
    rwa [hsum₀] at hnone
  have hentry : ((S₀.state.registry.insert l).1, l) ∈
      (S₀.state.registry.insert l).2.entries := by simp [Registry.insert]
  rw [htold, noticesOf_append, hbefore, List.nil_append,
    RegistryAct.noticesOf_applyAll (hregistry.insert l) hentry]

open RegistryAct in
/-- A listener registers with a hub that any number of callers use; afterwards they register and
unregister others, replace streams, bring blocks in any order, and shut the hub down.

If it is a block listener that stays after its first event, then of the blocks that come on
current streams until it is removed it is told one ordinary event for each that lies in its
window, up to and including the first that is the last of the window; then it is told of the end
of the window, once, and nothing more. If it is removed before that, it is told at most why the
hub has shut down. When nobody has anything left to do, all this has been handed over.

A listener of any kind hears of no block outside of its window. -/
theorem window_kept (h₀ : Reached w hub S₀) (h : Later w hub S₀ S)
    (hacts : S.acts = S₀.acts ++ .register l :: after) :
    let handle := (S₀.state.registry.insert l).1
    let blocks := blocksUntilRemoved handle after
    (l.filter = .block → l.unregister = false →
      noticesOf handle (handedIn S.history) ++ noticesOf handle S.state.queue =
        (l.windowEvents hub blocks).map .event ++
          if blocks.any fun b => l.isEndBlock b.number then [] else parting handle after) ∧
    ((∀ i, S.tasks i = []) → S.state.queue = []) ∧
    ∀ filter options, EventListener.new filter options = .ok l →
      ∀ event, .event event ∈
          noticesOf handle (handedIn S.history) ++ noticesOf handle S.state.queue →
        l.inRange event.blockNumber = true := by
  intro handle blocks
  have hS : Reached w hub S := h₀.later h
  have htold : noticesOf handle (handedIn S.history) ++ noticesOf handle S.state.queue =
      l.hears hub handle after := by
    rw [← noticesOf_append]
    exact h₀.noticesOf_told hS hacts
  rw [htold]
  refine ⟨?_, hS.orderly.queue_eq_nil, ?_⟩
  · intro hfilter hstays
    exact EventListener.hears_of_block hfilter hstays after
  · intro filter options hnew event hevent
    exact EventListener.inRange_of_hears hnew hevent

/-- A listener waits for the blocks from 2 to 3. A first stream brings 2, 5 and again 2, and one
notice is handed over meanwhile. A second stream takes its place and brings 3 twice, while a 2 of
the first one comes too late. -/
theorem window_kept_two_streams :
    let w : Surroundings (List Delivery) Unit := .recording
    let l : EventListener := ⟨.block, some ⟨2⟩, some ⟨3⟩, false⟩
    let block (n : UInt64) : DeliveredBlock :=
      { number := ⟨n⟩, filtered := some { number := n } }
    let told (n : UInt64) : Notice := .event ((block n).event "hub")
    ∃ S : SharedHub Nat (List Delivery) Unit, Later w "hub" (fresh []) S ∧
      S.acts = .register l :: [2, 5, 2, 3, 3].map (fun n => .block (block n)) ∧
      noticesOf ⟨1⟩ (handedIn S.history) = [told 2] ∧
      noticesOf ⟨1⟩ (handedIn S.history) ++ noticesOf ⟨1⟩ S.state.queue =
        [told 2, told 2, told 3, .event (.endBlock "hub" ⟨3⟩)] := by
  intro w l block told
  let bring (n : UInt64) : StreamEvent := .data (.filteredBlock { number := n })
  let start : SharedHub Nat (List Delivery) Unit := fresh []
  have hstart : Reached w "hub" start := ⟨[], .refl⟩
  have hregistered : Later w "hub" start _ := ReflTransGen.single (.call 0 rfl (.register l))
  have hfirst := (hregistered.tail (.call 0 rfl (.install () none))).tail
    (.call 0 rfl (.read 1 (bring 2)))
  have hhanding := (hfirst.tail (.step 0 (.flushBegun rfl))).tail (.step 0 (.handedOver rfl))
  have hmore := (hhanding.tail (.call 1 rfl (.read 1 (bring 5)))).tail
    (.call 2 rfl (.read 1 (bring 2)))
  have hsecond := ((hmore.tail (.call 3 rfl .stopStream)).tail
    (.call 3 rfl (.install () none))).tail (.call 3 rfl (.read 2 (bring 3)))
  have hlast := (hsecond.tail (.call 4 rfl (.read 1 (bring 2)))).tail
    (.call 5 rfl (.read 2 (bring 3)))
  obtain ⟨S, h, hacts, hhanded⟩ : ∃ S, Later w "hub" start S ∧
      S.acts = .register l :: [2, 5, 2, 3, 3].map (fun n => .block (block n)) ∧
      noticesOf ⟨1⟩ (handedIn S.history) = [told 2] := ⟨_, hlast, rfl, rfl⟩
  exact ⟨S, h, hacts, hhanded, (window_kept hstart h hacts).1 rfl rfl⟩

end Listener

end SharedHub

end LedgerClient
