import LedgerClient.Proofs.Event.Course

/-!
# Notices in order

What the listeners of a hub are told over a whole run. A `HubLedger` sets what has been
told, in the queue or already handed over, against the registry and against what shutdowns
have found. The sections of a hub act on it in four ways only: a block is dispatched, a
listener registers or leaves, or a shutdown finds the listeners. Each keeps it balanced.

## Main results

* `HubLedger.Balanced.dispatched`, `HubLedger.Balanced.shutDown`: telling listeners about a
  block or about the end keeps the ledger balanced.
* `Reachable.balanced`: the ledger is balanced at every moment of every run.
-/

namespace LedgerClient

/-! ### What one listener is told -/

/-- The notices for one listener, in order. -/
def noticesOf (h : ListenerHandle) (ds : List Delivery) : List Notice :=
  (ds.filter fun d => d.handle == h).map Delivery.notice

@[simp] theorem noticesOf_append (h : ListenerHandle) (ds ds' : List Delivery) :
    noticesOf h (ds ++ ds') = noticesOf h ds ++ noticesOf h ds' := by
  simp [noticesOf]

/-- A listener hears nothing from deliveries to others. -/
theorem noticesOf_eq_nil {h : ListenerHandle} {ds : List Delivery}
    (hd : ∀ d ∈ ds, d.handle ≠ h) : noticesOf h ds = [] := by
  rw [noticesOf, List.filter_eq_nil_iff.mpr, List.map_nil]
  intro d hmem
  simpa using hd d hmem

/-- A listener hears events only from deliveries that are all events. -/
theorem noticesOf_events {ds : List Delivery} (h : ListenerHandle)
    (hd : ∀ d ∈ ds, ∃ event, d.notice = .event event) :
    ∃ events : List BlockEvent, noticesOf h ds = events.map .event := by
  induction ds with
  | nil => exact ⟨[], rfl⟩
  | cons d rest ih =>
      obtain ⟨events, hevents⟩ := ih fun d' hd' => hd d' (List.mem_cons_of_mem _ hd')
      obtain ⟨event, hevent⟩ := hd d List.mem_cons_self
      by_cases hh : d.handle = h
      · refine ⟨event :: events, ?_⟩
        rw [List.map_cons, ← hevents, ← hevent]
        simp [noticesOf, hh]
      · refine ⟨events, ?_⟩
        rw [← hevents]
        simp [noticesOf, hh]

/-- When distinct listeners are all told the same, each of them hears it once. -/
theorem noticesOf_broadcast {h : ListenerHandle} {hs : List ListenerHandle} (n : Notice)
    (hnodup : hs.Nodup) (hmem : h ∈ hs) : noticesOf h (hs.map (⟨·, n⟩)) = [n] := by
  have hfilter : hs.filter (fun h' => h' == h) = [h] := by
    rw [List.filter_beq, List.count_eq_one_of_mem hnodup hmem]
    rfl
  rw [noticesOf, List.filter_map, List.map_map]
  have hcomp : ((fun d : Delivery => d.handle == h) ∘ fun h' => (⟨h', n⟩ : Delivery)) =
      fun h' => h' == h := rfl
  rw [hcomp, hfilter]
  rfl

/-- The notices of a listener that hears of blocks and, it may be, of the end after them. -/
def eventsThenEnd (events : List BlockEvent) (last : Option Termination) : List Notice :=
  events.map .event ++ (last.map Notice.terminated).toList

/-- Whatever such a listener has heard so far is events and, it may be, the end. -/
theorem eventsThenEnd_of_prefix {ns : List Notice} {events : List BlockEvent}
    {last : Option Termination} (h : ns <+: eventsThenEnd events last) :
    ∃ events' last', ns = eventsThenEnd events' last' ∧ (last'.isSome → last.isSome) := by
  have hevents : ∀ ns, ns <+: events.map Notice.event →
      ∃ events' last', ns = eventsThenEnd events' last' ∧ (last'.isSome → last.isSome) := by
    intro ns hns
    refine ⟨events.take ns.length, none, ?_, nofun⟩
    rw [eventsThenEnd, List.map_take, ← List.prefix_iff_eq_take.mp hns]
    simp
  cases last with
  | none => exact hevents ns (by simpa [eventsThenEnd] using h)
  | some t =>
      rcases List.prefix_concat_iff.mp h with hall | hns
      · exact ⟨events, some t, hall, id⟩
      · exact hevents ns hns

/-! ### The ledger -/

/-- What has been told to listeners, against who they are and what shutdowns have found. -/
structure HubLedger where
  registry : Registry
  /-- The handles that were given out. -/
  given : List ListenerHandle
  /-- The deliveries that were queued. -/
  told : List Delivery
  /-- The handles that shutdowns have found. -/
  found : List ListenerHandle

/-- Every listener has been told of blocks, and of the end exactly if a shutdown has found
it. No shutdown has found a listener that is still registered. -/
structure HubLedger.Balanced (l : HubLedger) : Prop where
  registry : l.registry.Sound
  given_nodup : l.given.Nodup
  given_le : ∀ h ∈ l.given, h.id ≤ l.registry.lastId
  registered_given : ∀ h ∈ l.registry.handles, h ∈ l.given
  told_given : ∀ d ∈ l.told, d.handle ∈ l.given
  found_given : ∀ h ∈ l.found, h ∈ l.given
  found_nodup : l.found.Nodup
  notFound : ∀ h ∈ l.registry.handles, h ∉ l.found
  told : ∀ h, ∃ events last, noticesOf h l.told = eventsThenEnd events last ∧
    (last.isSome ↔ h ∈ l.found)

namespace HubLedger.Balanced

variable {l : HubLedger}

/-- A ledger in which nothing has happened is balanced. -/
theorem fresh : Balanced ⟨{}, [], [], []⟩ where
  registry := .empty
  given_nodup := List.nodup_nil
  given_le := by simp
  registered_given := by simp [Registry.handles]
  told_given := by simp
  found_given := by simp
  found_nodup := List.nodup_nil
  notFound := by simp
  told := by
    intro h
    exact ⟨[], none, rfl, by simp⟩

/-- Losing listeners keeps the ledger balanced. -/
theorem lose (hl : l.Balanced) {r : Registry} (hsub : r.handles.Sublist l.registry.handles)
    (hid : r.lastId = l.registry.lastId) : Balanced { l with registry := r } where
  registry := hl.registry.of_sublist hsub hid
  given_nodup := hl.given_nodup
  given_le := by
    intro h hmem
    simp only [hid]
    exact hl.given_le h hmem
  registered_given := fun h hmem => hl.registered_given h (hsub.subset hmem)
  told_given := hl.told_given
  found_given := hl.found_given
  found_nodup := hl.found_nodup
  notFound := fun h hmem => hl.notFound h (hsub.subset hmem)
  told := hl.told

/-- Registering a listener keeps the ledger balanced. -/
theorem register (hl : l.Balanced) (listener : EventListener) :
    Balanced { l with
      registry := (l.registry.insert listener).2
      given := l.given ++ [(l.registry.insert listener).1] } := by
  have hfresh : (⟨l.registry.lastId + 1⟩ : ListenerHandle) ∉ l.given := by
    intro hmem
    have := hl.given_le _ hmem
    simp only at this
    omega
  constructor
  case registry => exact hl.registry.insert listener
  case given_nodup =>
    refine List.Nodup.append hl.given_nodup (List.nodup_singleton _) ?_
    intro h hmem hnew
    rw [List.mem_singleton, Registry.insert_fst] at hnew
    exact hfresh (hnew ▸ hmem)
  case given_le =>
    intro h hmem
    simp only [List.mem_append, List.mem_singleton, Registry.insert_fst,
      Registry.lastId_insert] at hmem ⊢
    rcases hmem with hmem | rfl
    · have := hl.given_le h hmem
      omega
    · exact Nat.le_refl _
  case registered_given =>
    intro h hmem
    simp only [Registry.handles_insert, List.mem_append, List.mem_singleton] at hmem
    simp only [List.mem_append, List.mem_singleton, Registry.insert_fst]
    rcases hmem with hmem | hmem
    · exact Or.inl (hl.registered_given h hmem)
    · exact Or.inr hmem
  case told_given => exact fun d hd => List.mem_append_left _ (hl.told_given d hd)
  case found_given => exact fun h hh => List.mem_append_left _ (hl.found_given h hh)
  case found_nodup => exact hl.found_nodup
  case notFound =>
    intro h hmem hfound
    simp only [Registry.handles_insert, List.mem_append, List.mem_singleton] at hmem
    rcases hmem with hmem | rfl
    · exact hl.notFound h hmem hfound
    · exact hfresh (hl.found_given _ hfound)
  case told => exact hl.told

/-- Dispatching a block keeps the ledger balanced. -/
theorem dispatched (hl : l.Balanced) (hub : String) (block : DeliveredBlock) :
    Balanced { l with
      registry := (dispatch hub l.registry block).1
      told := l.told ++ (dispatch hub l.registry block).2 } := by
  have hwithin := dispatch_within hub l.registry block
  have hlose := hl.lose (hwithin.entries.map Prod.fst) hwithin.lastId
  refine { hlose with told_given := ?_, told := ?_ }
  · intro d hd
    rcases List.mem_append.mp hd with hd | hd
    · exact hl.told_given d hd
    · exact hl.registered_given _ (hwithin.told d hd).1
  · intro h
    obtain ⟨events, last, htold, hlast⟩ := hl.told h
    by_cases hreg : h ∈ l.registry.handles
    · obtain ⟨more, hmore⟩ := noticesOf_events h fun d hd => (hwithin.told d hd).2
      have hnone : last = none := by
        rw [← Option.not_isSome_iff_eq_none]
        exact fun hsome => hl.notFound h hreg (hlast.mp hsome)
      subst hnone
      refine ⟨events ++ more, none, ?_, hlast⟩
      rw [noticesOf_append, htold, hmore]
      simp [eventsThenEnd]
    · refine ⟨events, last, ?_, hlast⟩
      rw [noticesOf_append, htold, noticesOf_eq_nil, List.append_nil]
      rintro d hd rfl
      exact hreg (hwithin.told d hd).1

/-- Telling all registered listeners of the end keeps the ledger balanced. -/
theorem shutDown (hl : l.Balanced) (t : Termination) :
    Balanced { l with
      registry := l.registry.drain.2
      told := l.told ++ l.registry.handles.map (⟨·, .terminated t⟩)
      found := l.found ++ l.registry.handles } := by
  have hlose := hl.lose (r := l.registry.drain.2) (List.nil_sublist _) rfl
  refine { hlose with told_given := ?_, found_given := ?_, found_nodup := ?_, notFound := ?_,
                      told := ?_ }
  · intro d hd
    rcases List.mem_append.mp hd with hd | hd
    · exact hl.told_given d hd
    · obtain ⟨h, hh, rfl⟩ := List.mem_map.mp hd
      exact hl.registered_given h hh
  · intro h hh
    rcases List.mem_append.mp hh with hh | hh
    · exact hl.found_given h hh
    · exact hl.registered_given h hh
  · refine hl.found_nodup.append hl.registry.nodup ?_
    intro h hfound hreg
    exact hl.notFound h hreg hfound
  · intro h hh
    exact absurd hh List.not_mem_nil
  · intro h
    obtain ⟨events, last, htold, hlast⟩ := hl.told h
    by_cases hreg : h ∈ l.registry.handles
    · have hnone : last = none := by
        rw [← Option.not_isSome_iff_eq_none]
        exact fun hsome => hl.notFound h hreg (hlast.mp hsome)
      subst hnone
      refine ⟨events, some t, ?_, ?_⟩
      · rw [noticesOf_append, htold, noticesOf_broadcast _ hl.registry.nodup hreg]
        simp [eventsThenEnd]
      · simp [hreg]
    · refine ⟨events, last, ?_, ?_⟩
      · rw [noticesOf_append, htold, noticesOf_eq_nil, List.append_nil]
        intro d hd
        obtain ⟨h', hh', rfl⟩ := List.mem_map.mp hd
        rintro rfl
        exact hreg hh'
      · simp [hreg, hlast]

end HubLedger.Balanced

/-! ### The ledger of a run -/

/-- The handles that were given out in a run. -/
def givenIn (history : List HubMark) : List ListenerHandle :=
  history.filterMap fun
    | .registered h => some h
    | _ => none

/-- The handles that the shutdowns of a run have found. -/
def foundIn (history : List HubMark) : List ListenerHandle :=
  history.flatMap fun
    | .found handles => handles
    | _ => []

/-- What was handed over in a run. -/
def handedIn (history : List HubMark) : List Delivery :=
  history.filterMap fun
    | .handed d => some d
    | _ => none

section Course

variable {ε ι : Type} {w : Surroundings ε ι} {hub : String} {m m' : Moment ε ι}

/-- The ledger at a moment: told is what was handed over or waits in the queue. -/
def Moment.ledger (m : Moment ε ι) : HubLedger where
  registry := m.state.registry
  given := givenIn m.history
  told := handedIn m.history ++ m.state.queue
  found := foundIn m.history

/-- Each section keeps the ledger balanced. -/
theorem Moment.Step.balanced (hs : m.Step w hub m') (hm : m.ledger.Balanced) :
    m'.ledger.Balanced := by
  cases hs with
  | closeEnded | flushSkipped | returned | closeAsked | resumed => exact hm
  | closeDropped h => simpa [Moment.ledger, givenIn, foundIn, handedIn] using hm
  | closeBegun h =>
      obtain ⟨-, rfl, rfl⟩ := HubState.of_beginClose_eq_some h
      simpa [Moment.ledger, givenIn, foundIn, handedIn, HubState.closed] using hm.shutDown _
  | flushBegun h =>
      obtain ⟨-, rfl⟩ := HubState.of_beginDrain_eq_some h
      exact hm
  | drainEnded h =>
      obtain ⟨-, rfl⟩ := HubState.of_nextNotice_eq_none h
      exact hm
  | @handedOver s e tasks history d s' h =>
      -- The notice only moves from the queue to those handed over.
      obtain ⟨rest, hq, rfl⟩ := HubState.of_nextNotice_eq_some h
      simpa [Moment.ledger, givenIn, foundIn, handedIn, hq] using hm
  | registered => simpa [Moment.ledger, givenIn, foundIn, handedIn] using hm.register _
  | unregistered => exact hm.lose (by simp [Moment.ledger]) (by simp [Moment.ledger])

/-- An operation begins with a balanced ledger if it was balanced before. -/
theorem HubCall.begin_balanced (c : HubCall ι) {s : HubState ι} {e : ε}
    {history : List HubMark} (hm : (⟨s, e, [], history⟩ : Moment ε ι).ledger.Balanced) :
    (c.begin w hub s e history).ledger.Balanced := by
  cases c with
  | close | stopStream | install => exact hm
  | register listener =>
      simpa [HubCall.begin, Moment.ledger, givenIn, foundIn, handedIn] using
        hm.register listener
  | unregister handle =>
      exact hm.lose (by simp [HubCall.begin, Moment.ledger])
        (by simp [HubCall.begin, Moment.ledger])
  | read generation event =>
      rw [HubCall.begin]
      split
      · cases hr : event.reading hub s with
        | block block =>
            rw [HubState.takeIn_of_block hr]
            simpa [Moment.ledger, HubState.receive_snd] using hm.dispatched hub block
        | finish t =>
            rw [HubState.takeIn_of_finish hr]
            exact hm
      · exact hm

/-- At every moment of every run the ledger is balanced. -/
theorem Reachable.balanced (h : Reachable w hub m) : m.ledger.Balanced := by
  induction h with
  | fresh e => exact .fresh
  | elapse _ _ ih => exact ih
  | call _ c ih => exact c.begin_balanced ih
  | step _ hs ih => exact hs.balanced ih

end Course

end LedgerClient
