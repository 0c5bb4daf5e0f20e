import LedgerClient.Proofs.Event.Acts
import Mathlib.Data.List.Induction

/-!
# How listeners leave a hub

A listener leaves the registry of a hub when somebody unregisters it, when its first notification
was its last, when its window ends, or when the hub shuts down. Each of these takes place at a
point of its own, and what is missing from the registry after such a point has left there.

Over any acts the handles that were given out are those of the registered listeners and those of
the listeners that have left, each of them once. What a listener has been told bears out why it
has left, and there is nothing to be told afterwards.

## Main results

* `RegistryAct.perm_apply`: an act loses no listener and none leaves twice.
* `RegistryAct.accounted`: what holds of departures after any acts.
-/

namespace LedgerClient

/-! ### Departures -/

/-- Why a listener has left a hub. -/
inductive Cause where
  | unregistered
  /-- The listener was told of a block and is done with its first notification. -/
  | notified (b : DeliveredBlock)
  /-- The block was the last one of the listener's window. -/
  | windowEnded (b : DeliveredBlock)
  | shutDown (t : Termination)
  deriving DecidableEq

/-- A registration that has come to its end. -/
structure Departure where
  handle : ListenerHandle
  listener : EventListener
  cause : Cause

/-- Those who are missing from a later registry. -/
def Registry.missing (cause : Cause) (r r' : Registry) : List Departure :=
  (r.entries.filter fun e => !r'.contains e.1).map fun e => ⟨e.1, e.2, cause⟩

/-- Nobody was told of an end. -/
def OnlyEvents (ns : List Notice) : Prop :=
  ∀ n ∈ ns, ∃ event, n = .event event

theorem OnlyEvents.append {ns ns' : List Notice} (h : OnlyEvents ns) (h' : OnlyEvents ns') :
    OnlyEvents (ns ++ ns') := by
  intro n hn
  exact (List.mem_append.mp hn).elim (h n) (h' n)

theorem onlyEvents_map (events : List BlockEvent) : OnlyEvents (events.map .event) := by
  intro n hn
  obtain ⟨event, -, rfl⟩ := List.mem_map.mp hn
  exact ⟨event, rfl⟩

/-- What a listener has been told bears out why it has left: the last it heard of is the block
that it is done with, the end of its window, or that the hub has shut down, which it hears of
for no other cause. -/
def Departure.BorneOut (hub : String) (d : Departure) (ns : List Notice) : Prop :=
  match d.cause with
  | .unregistered => OnlyEvents ns
  | .notified b => d.listener.unregister = true ∧ OnlyEvents ns ∧
      ∃ event ∈ d.listener.events hub b, ns.getLast? = some (.event event)
  | .windowEnded b => d.listener.endBlock = some b.number ∧ OnlyEvents ns ∧
      ns.getLast? = some (.event (.endBlock hub b.number))
  | .shutDown t => ∃ before, ns = before ++ [.terminated t] ∧ OnlyEvents before

namespace Registry

variable {r r' : Registry} {cause : Cause}

theorem mem_missing {d : Departure} : d ∈ missing cause r r' ↔
    d.cause = cause ∧ (d.handle, d.listener) ∈ r.entries ∧ d.handle ∉ r'.handles := by
  obtain ⟨h, l, cause'⟩ := d
  simp only [missing, List.mem_map, List.mem_filter, Bool.not_eq_true', ← Bool.not_eq_true,
    contains_iff, Departure.mk.injEq]
  constructor
  · rintro ⟨e, ⟨he, hnot⟩, rfl, rfl, rfl⟩
    exact ⟨rfl, he, hnot⟩
  · rintro ⟨rfl, he, hnot⟩
    exact ⟨(h, l), ⟨he, hnot⟩, rfl, rfl, rfl⟩

/-- Who was registered is registered still or is missing. -/
theorem perm_missing (cause : Cause) (hr : r.handles.Nodup)
    (hsub : r'.entries.Sublist r.entries) :
    r.handles.Perm (r'.handles ++ (missing cause r r').map Departure.handle) := by
  have hsub' : r'.handles.Sublist r.handles := hsub.map Prod.fst
  have hmissing : (missing cause r r').map Departure.handle =
      r.handles.filter fun h => !r'.contains h := by
    rw [missing, handles, List.map_map, List.filter_map]
    rfl
  have hnodup : (r'.handles ++ (missing cause r r').map Departure.handle).Nodup := by
    rw [hmissing]
    refine (hr.sublist hsub').append (hr.filter _) fun h hh hnot => ?_
    simp [(contains_iff r' h).mpr hh] at hnot
  refine (List.perm_ext_iff_of_nodup hr hnodup).mpr fun h => ?_
  rw [hmissing, List.mem_append, List.mem_filter, Bool.not_eq_true', ← Bool.not_eq_true,
    contains_iff]
  constructor
  · intro hh
    by_cases hstays : h ∈ r'.handles
    · exact .inl hstays
    · exact .inr ⟨hh, hstays⟩
  · rintro (hh | ⟨hh, -⟩)
    · exact hsub'.subset hh
    · exact hh

theorem entries_remove_sublist (r : Registry) (h : ListenerHandle) :
    (r.remove h).2.entries.Sublist r.entries := by
  unfold remove
  split
  · exact List.filter_sublist
  · exact List.Sublist.refl _

/-- Removing tells whether there was somebody to remove. -/
theorem remove_fst (r : Registry) (h : ListenerHandle) : (r.remove h).1 = r.contains h := by
  unfold remove
  split
  · next hthere => exact hthere.symm
  · next hnot => exact (Bool.eq_false_iff.mpr hnot).symm

/-- Who was removed is missing, and nobody else. -/
theorem missing_remove (cause : Cause) (hr : r.handles.Nodup) {h : ListenerHandle}
    {l : EventListener} (hl : (h, l) ∈ r.entries) :
    missing cause r (r.remove h).2 = [⟨h, l, cause⟩] := by
  have hfilter : (r.entries.filter fun e => !(r.remove h).2.contains e.1) =
      r.entries.filter fun e => e.1 == h := by
    refine List.filter_congr fun e he => ?_
    have hmem : e.1 ∈ r.handles := List.mem_map_of_mem he
    rw [Bool.eq_iff_iff, Bool.not_eq_true', ← Bool.not_eq_true, contains_iff, handles_remove]
    simp [hmem]
  rw [missing, hfilter, Dispatch.filter_fst_eq hr hl]
  rfl

/-- If there is nobody to remove then nobody is missing. -/
theorem missing_remove_of_notMem (cause : Cause) {h : ListenerHandle} (hnot : h ∉ r.handles) :
    missing cause r (r.remove h).2 = [] := by
  refine List.eq_nil_iff_forall_not_mem.mpr fun d hd => ?_
  obtain ⟨-, he, hgone⟩ := mem_missing.mp hd
  have hmem : d.handle ∈ r.handles := List.mem_map_of_mem he
  have hne : d.handle ≠ h := fun heq => hnot (heq ▸ hmem)
  rw [handles_remove, List.mem_filter] at hgone
  exact hgone ⟨hmem, bne_iff_ne.mpr hne⟩

end Registry

/-! ### Acts -/

namespace RegistryAct

variable {hub : String} {r : Registry} {h : ListenerHandle} {l : EventListener} {β : Type}

/-- The handle that an act gives out. -/
def given (r : Registry) : RegistryAct → List ListenerHandle
  | .register l => [(r.insert l).1]
  | .unregister _ | .block _ | .shutDown _ => []

/-- Those who leave with an act. With a block there are two points at which listeners leave:
first those who are done with their first notification, then those whose window ends. -/
def departed (hub : String) (r : Registry) : RegistryAct → List Departure
  | .register _ => []
  | .unregister h => Registry.missing .unregistered r (r.remove h).2
  | .block b =>
    let p := Dispatch.notifyAll hub b r
    Registry.missing (.notified b) r p.registry ++
      Registry.missing (.windowEnded b) p.registry
        (Dispatch.endBlockPass hub b.number p).registry
  | .shutDown t => Registry.missing (.shutDown t) r r.drain.2

/-- What is found at each of some acts. -/
def along (hub : String) (f : Registry → RegistryAct → List β) :
    Registry → List RegistryAct → List β
  | _, [] => []
  | r, a :: rest => f r a ++ along hub f (a.apply hub r).1 rest

@[simp] theorem along_singleton (f : Registry → RegistryAct → List β) (a : RegistryAct) :
    along hub f r [a] = f r a := List.append_nil _

theorem along_append (f : Registry → RegistryAct → List β) (acts acts' : List RegistryAct) :
    along hub f r (acts ++ acts') =
      along hub f r acts ++ along hub f (applyAll hub r acts).1 acts' := by
  induction acts generalizing r with
  | nil => rfl
  | cons a rest ih => rw [List.cons_append, along, ih, along, List.append_assoc]; rfl

/-- The handles that were given out from a fresh registry on. -/
def givenOut (hub : String) (acts : List RegistryAct) : List ListenerHandle :=
  along hub given {} acts

/-- Those who have left from a fresh registry on. -/
def departures (hub : String) (acts : List RegistryAct) : List Departure :=
  along hub (departed hub) {} acts

theorem eq_of_mem_given {a : RegistryAct} (hub : String) (hh : h ∈ a.given r) :
    h.id = r.lastId + 1 ∧ (a.apply hub r).1.lastId = r.lastId + 1 := by
  cases a with
  | register l =>
      obtain rfl := List.mem_singleton.mp hh
      exact ⟨rfl, Registry.lastId_insert r l⟩
  | unregister | block | shutDown => exact absurd hh List.not_mem_nil

/-- An act loses no listener, and none leaves twice. -/
theorem perm_apply (hub : String) (hr : r.Reachable) (a : RegistryAct) :
    (r.handles ++ a.given r).Perm
      ((a.apply hub r).1.handles ++ (a.departed hub r).map Departure.handle) := by
  have hnodup : r.handles.Nodup := hr.sound.nodup
  cases a with
  | register l =>
      rw [departed, List.map_nil, List.append_nil]
      exact List.Perm.of_eq (Registry.handles_insert r l).symm
  | unregister h =>
      rw [given, List.append_nil]
      exact Registry.perm_missing _ hnodup (Registry.entries_remove_sublist r h)
  | block b =>
      obtain ⟨hserved, hreachable⟩ := hr.served hub b
      have hnotified : (Dispatch.notifyAll hub b r).registry.entries.Sublist r.entries := by
        rw [hserved.registry]
        exact List.filter_sublist
      have hends := Registry.entries_removeAll_sublist (Dispatch.notifyAll hub b r).registry
        ((((Dispatch.notifyAll hub b r).registry.entries.filter
          fun e => e.2.isEndBlock b.number)).map Prod.fst)
      have hfirst := Registry.perm_missing (.notified b) hnodup hnotified
      have hsecond := Registry.perm_missing (.windowEnded b) hreachable.sound.nodup hends
      rw [given, List.append_nil, departed, List.map_append]
      refine hfirst.trans ((hsecond.append_right _).trans ?_)
      rw [List.append_assoc]
      exact List.perm_append_comm.append_left _
  | shutDown t =>
      rw [given, List.append_nil]
      exact Registry.perm_missing _ hnodup (List.nil_sublist _)

/-- Who leaves was registered and is not any more, for a cause that the act is capable of. -/
theorem of_mem_departed (hr : r.Reachable) {a : RegistryAct} {d : Departure}
    (hd : d ∈ a.departed hub r) :
    (d.handle, d.listener) ∈ r.entries ∧ d.handle ∉ (a.apply hub r).1.handles ∧
      match d.cause with
      | .unregistered => a = .unregister d.handle
      | .notified b => a = .block b ∧ d.listener.isDone hub b = true
      | .windowEnded b => a = .block b ∧ d.listener.isDone hub b = false ∧
          d.listener.isEndBlock b.number = true
      | .shutDown t => a = .shutDown t := by
  cases a with
  | register l => exact absurd hd List.not_mem_nil
  | unregister h =>
      obtain ⟨hcause, he, hgone⟩ := Registry.mem_missing.mp hd
      have heq : h = d.handle := by
        by_contra hne
        rw [Registry.handles_remove, List.mem_filter] at hgone
        exact hgone ⟨List.mem_map_of_mem he, bne_iff_ne.mpr (Ne.symm hne)⟩
      rw [hcause]
      exact ⟨he, hgone, by rw [heq]⟩
  | shutDown t =>
      obtain ⟨hcause, he, hgone⟩ := Registry.mem_missing.mp hd
      rw [hcause]
      exact ⟨he, hgone, rfl⟩
  | block b =>
      obtain ⟨hserved, -⟩ := hr.served hub b
      rcases List.mem_append.mp hd with hd | hd
      · obtain ⟨hcause, he, hgone⟩ := Registry.mem_missing.mp hd
        have hdone : d.listener.isDone hub b = true := by
          by_contra hnot
          have hstays := (hserved.mem_entries ListenerKind.mem_served).mpr
            ⟨he, Bool.eq_false_iff.mpr hnot⟩
          exact hgone (List.mem_map_of_mem hstays)
        have hout : takesOut hub d.handle d.listener (.block b) = true := by simp [takesOut, hdone]
        rw [hcause]
        exact ⟨he, notMem_of_takesOut hr he hout, rfl, hdone⟩
      · obtain ⟨hcause, he, hgone⟩ := Registry.mem_missing.mp hd
        obtain ⟨he, hdone⟩ := (hserved.mem_entries ListenerKind.mem_served).mp he
        have hout : takesOut hub d.handle d.listener (.block b) = true := by
          by_contra hnot
          have hstays := mem_entries_apply hr he (Bool.eq_false_iff.mpr hnot)
          exact hgone (List.mem_map_of_mem hstays)
        have hend : d.listener.isEndBlock b.number = true := by
          simpa [takesOut, hdone] using hout
        rw [hcause]
        exact ⟨he, hgone, rfl, hdone, hend⟩

/-! ### What acts account for -/

/-- What holds of the handles that were given out, of departures and of what was told, after any
acts on a fresh registry. -/
structure Accounted (hub : String) (acts : List RegistryAct) : Prop where
  ascending : (givenOut hub acts).Pairwise fun h h' => h.id < h'.id
  le_lastId : ∀ h ∈ givenOut hub acts, h.id ≤ (applyAll hub {} acts).1.lastId
  /-- Each handle is that of a registered listener or of one that has left. -/
  perm : (givenOut hub acts).Perm
    ((applyAll hub {} acts).1.handles ++ (departures hub acts).map Departure.handle)
  told : ∀ h ∈ (applyAll hub {} acts).1.handles, OnlyEvents (noticesOf h (applyAll hub {} acts).2)
  borneOut : ∀ d ∈ departures hub acts,
    d.BorneOut hub (noticesOf d.handle (applyAll hub {} acts).2)

variable {acts : List RegistryAct}

theorem Accounted.nodup (h : Accounted hub acts) :
    ((applyAll hub {} acts).1.handles ++ (departures hub acts).map Departure.handle).Nodup := by
  refine h.perm.nodup_iff.mp (h.ascending.imp ?_)
  rintro a b hlt rfl
  exact Nat.lt_irrefl _ hlt

/-- Who has left is told nothing by a further act. -/
theorem Accounted.noticesOf_departed (h : Accounted hub acts) {d : Departure}
    (hd : d ∈ departures hub acts) (a : RegistryAct) :
    noticesOf d.handle (a.apply hub (applyAll hub {} acts).1).2 = [] := by
  refine noticesOf_apply_of_notMem a fun hthere => ?_
  exact (List.disjoint_of_nodup_append h.nodup) hthere (List.mem_map_of_mem hd)

/-- A registered listener is told of events only, unless it is told with everybody else that the
hub shuts down. -/
theorem onlyEvents_apply (hr : r.Reachable) {a : RegistryAct}
    (hh : h ∈ r.handles) (hstays : h ∈ (a.apply hub r).1.handles) :
    OnlyEvents (noticesOf h (a.apply hub r).2) := by
  obtain ⟨⟨h, l⟩, hl, rfl⟩ := List.mem_map.mp hh
  rw [noticesOf_apply hr hl]
  cases a with
  | register | unregister => exact fun n hn => absurd hn List.not_mem_nil
  | block b => exact onlyEvents_map _
  | shutDown t => exact absurd hstays List.not_mem_nil

/-- What an act tells those who leave with it bears out why they do. -/
theorem borneOut_apply (hr : r.Reachable) {a : RegistryAct} {d : Departure}
    (hd : d ∈ a.departed hub r) {before : List Notice} (hbefore : OnlyEvents before) :
    d.BorneOut hub (before ++ noticesOf d.handle (a.apply hub r).2) := by
  obtain ⟨hl, -, hcause⟩ := of_mem_departed hr hd
  have hevents : ∀ events : List BlockEvent, OnlyEvents (before ++ events.map .event) :=
    fun events => hbefore.append (onlyEvents_map events)
  rw [noticesOf_apply hr hl, Departure.BorneOut]
  cases heq : d.cause with
  | unregistered =>
      simp only [heq] at hcause ⊢
      rw [hcause]
      exact hevents []
  | notified b =>
      simp only [heq] at hcause ⊢
      obtain ⟨rfl, hdone⟩ := hcause
      have howed : d.listener.owed hub b = d.listener.events hub b := by
        rw [EventListener.owed, EventListener.ending, hdone, Bool.not_true, Bool.and_false]
        exact List.append_nil _
      obtain ⟨hunregister, hsome⟩ := Bool.and_eq_true_iff.mp hdone
      have hne : d.listener.events hub b ≠ [] := by simpa using hsome
      rw [tells, howed]
      refine ⟨hunregister, hevents _, _, List.getLast_mem hne, ?_⟩
      rw [List.getLast?_append_of_ne_nil _ (by simpa using hne), List.getLast?_map,
        List.getLast?_eq_some_getLast hne]
      rfl
  | windowEnded b =>
      simp only [heq] at hcause ⊢
      obtain ⟨rfl, hdone, hend⟩ := hcause
      have howed : d.listener.owed hub b =
          d.listener.events hub b ++ [.endBlock hub b.number] := by
        rw [EventListener.owed, EventListener.ending, hend, hdone]
        rfl
      rw [tells, howed]
      refine ⟨by simpa [EventListener.isEndBlock] using hend, hevents _, ?_⟩
      rw [List.map_append, ← List.append_assoc, List.map_singleton, List.getLast?_concat]
  | shutDown t =>
      simp only [heq] at hcause ⊢
      rw [hcause]
      exact ⟨before, rfl, hbefore⟩

/-- One act more keeps to the account. -/
theorem Accounted.snoc (hacts : Accounted hub acts) (a : RegistryAct) :
    Accounted hub (acts ++ [a]) := by
  have hr : (applyAll hub {} acts).1.Reachable := reachable_applyAll .empty acts
  have hgiven : givenOut hub (acts ++ [a]) =
      givenOut hub acts ++ a.given (applyAll hub {} acts).1 := by
    rw [givenOut, along_append, along_singleton, givenOut]
  have hdepartures : departures hub (acts ++ [a]) =
      departures hub acts ++ a.departed hub (applyAll hub {} acts).1 := by
    rw [departures, along_append, along_singleton, departures]
  have hregistry : (applyAll hub {} (acts ++ [a])).1 =
      (a.apply hub (applyAll hub {} acts).1).1 := by
    rw [applyAll_append, applyAll_singleton]
  have htold : (applyAll hub {} (acts ++ [a])).2 =
      (applyAll hub {} acts).2 ++ (a.apply hub (applyAll hub {} acts).1).2 := by
    rw [applyAll_append, applyAll_singleton]
  constructor
  case ascending =>
    rw [hgiven, List.pairwise_append]
    refine ⟨hacts.ascending, ?_, ?_⟩
    · cases a <;> simp [given]
    · intro h hh h' hh'
      have hle := hacts.le_lastId h hh
      have hnew := (eq_of_mem_given hub hh').1
      omega
  case le_lastId =>
    intro h hh
    rw [hgiven, List.mem_append] at hh
    rw [hregistry]
    rcases hh with hh | hh
    · exact Nat.le_trans (hacts.le_lastId h hh) (lastId_le_apply a)
    · obtain ⟨hid, hlast⟩ := eq_of_mem_given hub hh
      exact Nat.le_of_eq (hid.trans hlast.symm)
  case perm =>
    rw [hgiven, hdepartures, hregistry, List.map_append]
    have hact := perm_apply hub hr a
    rw [List.perm_iff_count] at hact ⊢
    intro h
    have hbefore := (List.perm_iff_count.mp hacts.perm) h
    have hnow := hact h
    simp only [List.count_append] at hbefore hnow ⊢
    omega
  case told =>
    intro h hh
    rw [hregistry] at hh
    rw [htold, noticesOf_append]
    by_cases hbefore : h ∈ (applyAll hub {} acts).1.handles
    · exact (hacts.told h hbefore).append (onlyEvents_apply hr hbefore hh)
    · -- A fresh handle: nobody was told anything under it.
      have hgave : h ∈ a.given (applyAll hub {} acts).1 := by
        have hmem := (perm_apply hub hr a).mem_iff.mpr (List.mem_append_left _ hh)
        exact (List.mem_append.mp hmem).resolve_left hbefore
      have hfresh : (applyAll hub {} acts).1.lastId < h.id := by
        have hid := (eq_of_mem_given hub hgave).1
        omega
      rw [noticesOf_applyAll_of_fresh .empty hfresh, noticesOf_apply_of_notMem a hbefore]
      exact fun n hn => absurd hn List.not_mem_nil
  case borneOut =>
    intro d hd
    rw [htold, noticesOf_append]
    rw [hdepartures, List.mem_append] at hd
    rcases hd with hd | hd
    · rw [hacts.noticesOf_departed hd a, List.append_nil]
      exact hacts.borneOut d hd
    · have hmem : d.handle ∈ (applyAll hub {} acts).1.handles :=
        List.mem_map_of_mem (of_mem_departed hr hd).1
      exact borneOut_apply hr hd (hacts.told d.handle hmem)

/-- What holds of departures after any acts. -/
theorem accounted (hub : String) (acts : List RegistryAct) : Accounted hub acts := by
  induction acts using List.reverseRecOn with
  | nil =>
      constructor
      case ascending => exact List.Pairwise.nil
      case perm => exact List.Perm.refl _
      case le_lastId | told | borneOut => exact fun _ h => absurd h List.not_mem_nil
  | append_singleton acts a ih => exact ih.snoc a

end RegistryAct

end LedgerClient
