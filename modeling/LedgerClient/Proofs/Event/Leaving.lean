import LedgerClient.Proofs.Event.Departures
import LedgerClient.Proofs.Event.Window

/-!
# Leaving a hub that is in use

Any number of callers and callbacks register and unregister listeners of a hub at the same time,
while it takes blocks in, hands notices over and shuts down. The acts of a run tell who has left
it and why.

A listener that was unregistered may have notices in the queue. They are handed over like all
others, but none is added to them.

## Main results

* `SharedHub.Next.unregisters`, `SharedHub.Unregisters.departures_eq`: to unregister a listener is
  why it leaves exactly if whoever does so is told that it was registered.
* `SharedHub.Unregisters.handed_later`: what a listener is handed after it was unregistered.
* `SharedHub.leaves_once`: in any run of a hub a registration leaves at most once, for one cause,
  and who has unregistered a listener is told so.
-/

namespace LedgerClient

open Relation (ReflTransGen)

/-! ### What sections account for -/

section Sections

variable {ε ι : Type} {w : Surroundings ε ι} {hub : String} {m m' : Moment ε ι}

open RegistryAct (along given departed)

theorem Moment.exists_acts (w : Surroundings ε ι) (m : Moment ε ι) :
    ∃ a : Option RegistryAct, m.acts w = a.toList := by
  unfold Moment.acts
  split
  · split
    · exact ⟨none, rfl⟩
    · exact ⟨some _, rfl⟩
  · exact ⟨some _, rfl⟩
  · exact ⟨some _, rfl⟩
  · exact ⟨none, rfl⟩

theorem HubCall.exists_acts (hub : String) (s : HubState ι) (c : HubCall ι) :
    ∃ a : Option RegistryAct, c.acts hub s = a.toList := by
  unfold HubCall.acts
  split
  · exact ⟨some _, rfl⟩
  · exact ⟨some _, rfl⟩
  · split
    · split
      · exact ⟨some _, rfl⟩
      · exact ⟨none, rfl⟩
    · exact ⟨none, rfl⟩
  all_goals exact ⟨none, rfl⟩

/-- The handles that a section gives out are those that its acts give out. -/
theorem Moment.Step.givenIn_eq (hs : m.Step w hub m') :
    givenIn m'.history =
      givenIn m.history ++ along hub given m.state.registry (m.acts w) := by
  cases hs with
  | closeDropped h | closeBegun h =>
      simp only [Moment.acts]
      split <;> simp [givenIn, along, given]
  | registered => simp [givenIn, Moment.acts, given]
  | unregistered => simp [givenIn, Moment.acts, given]
  | closeEnded | flushSkipped | flushBegun | drainEnded | handedOver | returned | closeAsked
  | resumed => simp [givenIn, Moment.acts, along]

/-- The handle that an operation gives out as it begins is the one that its act gives out. -/
theorem HubCall.begin_givenIn (c : HubCall ι) (s : HubState ι) (e : ε) (history : List HubMark) :
    givenIn (c.begin w hub s e history).history =
      givenIn history ++ along hub given s.registry (c.acts hub s) := by
  cases c with
  | register l => simp [HubCall.begin, givenIn, HubCall.acts, given]
  | unregister h => simp [HubCall.begin, HubCall.acts, given]
  | close | stopStream | install => simp [HubCall.begin, HubCall.acts, along]
  | read generation event =>
      rw [HubCall.begin, HubCall.acts]
      split
      · cases event.reading hub s <;> simp [along, given]
      · simp [along]

/-- A section in which somebody is unregistered is the one in which a callback does so, which
then is told that it did. -/
theorem Moment.Step.of_unregistered (hs : m.Step w hub m') {d : Departure}
    (hd : d ∈ along hub (departed hub) m.state.registry (m.acts w))
    (hcause : d.cause = .unregistered) (hr : m.state.registry.Reachable) :
    d.handle ∈ m.state.registry.handles ∧
      ∃ next tasks, m.tasks = .react (.unregister d.handle next) :: tasks ∧
        m' = ⟨{ m.state with registry := (m.state.registry.remove d.handle).2 }, m.world,
          .react (next (m.state.registry.remove d.handle).1) :: tasks, m.history⟩ := by
  cases hs with
  | closeDropped h | closeBegun h =>
      simp only [Moment.acts] at hd
      split at hd
      · exact absurd hd List.not_mem_nil
      · rw [RegistryAct.along_singleton] at hd
        have hact := (RegistryAct.of_mem_departed hr hd).2.2
        rw [hcause] at hact
        cases hact
  | registered => exact absurd hd List.not_mem_nil
  | @unregistered s e handle next tasks history =>
      rw [Moment.acts, RegistryAct.along_singleton] at hd
      obtain ⟨he, -, hact⟩ := RegistryAct.of_mem_departed hr hd
      rw [hcause] at hact
      cases hact
      exact ⟨List.mem_map_of_mem he, next, tasks, rfl, rfl⟩
  | closeEnded | flushSkipped | flushBegun | drainEnded | handedOver | returned | closeAsked
  | resumed => exact absurd hd List.not_mem_nil

/-- An operation that unregisters somebody as it begins is made for this. -/
theorem HubCall.of_unregistered {c : HubCall ι} {s : HubState ι} {d : Departure}
    (hd : d ∈ along hub (departed hub) s.registry (c.acts hub s))
    (hcause : d.cause = .unregistered) (hr : s.registry.Reachable) :
    d.handle ∈ s.registry.handles ∧ c = .unregister d.handle := by
  have hsingle : ∀ a : RegistryAct, d ∈ a.departed hub s.registry →
      d.handle ∈ s.registry.handles ∧ a = .unregister d.handle := by
    intro a ha
    obtain ⟨he, -, hact⟩ := RegistryAct.of_mem_departed hr ha
    rw [hcause] at hact
    exact ⟨List.mem_map_of_mem he, hact⟩
  cases c with
  | register l => exact absurd hd List.not_mem_nil
  | unregister h =>
      rw [HubCall.acts, RegistryAct.along_singleton] at hd
      obtain ⟨hmem, hact⟩ := hsingle _ hd
      cases hact
      exact ⟨hmem, rfl⟩
  | close | stopStream | install => exact absurd hd List.not_mem_nil
  | read generation event =>
      rw [HubCall.acts] at hd
      split at hd
      · cases hreading : event.reading hub s with
        | block b =>
            simp only [hreading, RegistryAct.along_singleton] at hd
            cases (hsingle _ hd).2
        | finish t =>
            simp only [hreading] at hd
            exact absurd hd List.not_mem_nil
      · exact absurd hd List.not_mem_nil

end Sections

/-! ### Departures from a shared hub -/

namespace SharedHub

variable {κ ε ι : Type} {w : Surroundings ε ι} {hub : String} {S S' T : SharedHub κ ε ι}
  {h : ListenerHandle} {removed : Bool}

/-- Those who have left in a run. -/
def departures (hub : String) (S : SharedHub κ ε ι) : List Departure :=
  RegistryAct.departures hub S.acts

variable [DecidableEq κ]

/-- A handle is unregistered, by a caller or by a callback, which are told whether it was
registered. -/
inductive Unregisters (w : Surroundings ε ι) (hub : String) (h : ListenerHandle)
    (S : SharedHub κ ε ι) : Bool → SharedHub κ ε ι → Prop where
  | caller (i : κ) (hi : S.tasks i = []) :
      Unregisters w hub h S (S.state.registry.remove h).1
        (S.put i ((HubCall.unregister h).begin w hub S.state S.world S.history) [.unregister h])
  | callback (i : κ) {next tasks} (hi : S.tasks i = .react (.unregister h next) :: tasks) :
      Unregisters w hub h S (S.state.registry.remove h).1
        (S.put i ⟨{ S.state with registry := (S.state.registry.remove h).2 }, S.world,
          .react (next (S.state.registry.remove h).1) :: tasks, S.history⟩ [.unregister h])

/-- To unregister is one section of a run. -/
theorem Unregisters.next (h' : Unregisters w hub h S removed S') : Next w hub S S' := by
  cases h' with
  | caller i hi => exact .call i hi (.unregister h)
  | @callback i next tasks hi =>
      have hview : S.view i =
          ⟨S.state, S.world, .react (.unregister h next) :: tasks, S.history⟩ := by rw [view, hi]
      have hacts : (S.view i).acts w = [.unregister h] := by rw [hview]; rfl
      rw [← hacts]
      exact .step i (hview ▸ .unregistered)

/-- Nothing is told to anybody when somebody is unregistered. -/
theorem Unregisters.eq (h' : Unregisters w hub h S removed S') :
    removed = S.state.registry.contains h ∧ S'.acts = S.acts ++ [.unregister h] ∧
      S'.state.registry = (S.state.registry.remove h).2 ∧ S'.history = S.history ∧
      S'.state.queue = S.state.queue := by
  cases h' with
  | caller i hi => exact ⟨Registry.remove_fst _ h, rfl, rfl, rfl, rfl⟩
  | callback i hi => exact ⟨Registry.remove_fst _ h, rfl, rfl, rfl, rfl⟩

/-! ### What is only ever added -/

/-- A section does one thing to the registry at most. -/
theorem Next.exists_acts (h' : Next w hub S S') :
    ∃ a : Option RegistryAct, S'.acts = S.acts ++ a.toList := by
  cases h' with
  | elapse e => exact ⟨none, (List.append_nil _).symm⟩
  | call i hi c =>
      obtain ⟨a, ha⟩ := c.exists_acts hub S.state
      exact ⟨a, congrArg (S.acts ++ ·) ha⟩
  | step i hs =>
      obtain ⟨a, ha⟩ := (S.view i).exists_acts w
      exact ⟨a, congrArg (S.acts ++ ·) ha⟩

theorem Later.exists_acts (h' : Later w hub S T) : ∃ acts, T.acts = S.acts ++ acts := by
  induction h' with
  | refl => exact ⟨[], (List.append_nil _).symm⟩
  | tail _ hnext ih =>
      obtain ⟨acts, hacts⟩ := ih
      obtain ⟨a, ha⟩ := hnext.exists_acts
      exact ⟨acts ++ a.toList, by rw [ha, hacts, List.append_assoc]⟩

theorem Next.history_prefix (h' : Next w hub S S') : S.history <+: S'.history := by
  cases h' with
  | elapse e => exact List.prefix_rfl
  | call i hi c => exact c.begin_history w hub S.state S.world S.history
  | step i hs => exact hs.history_prefix

/-- What was handed over stays handed over. -/
theorem Later.handedIn_prefix (h' : Later w hub S T) :
    handedIn S.history <+: handedIn T.history := by
  have hhistory : S.history <+: T.history := by
    induction h' with
    | refl => exact List.prefix_rfl
    | tail _ hnext ih => exact ih.trans hnext.history_prefix
  exact hhistory.filterMap _

/-! ### The account of a run -/

/-- The handles that were given out in a run are those that its acts give out. -/
theorem Reached.givenIn_eq (hS : Reached w hub S) :
    givenIn S.history = RegistryAct.givenOut hub S.acts := by
  obtain ⟨e, he⟩ := hS
  induction he with
  | refl => rfl
  | @tail S S' hbefore hnext ih =>
      have hregistry := congrArg Prod.fst (Reached.applyAll_eq ⟨e, hbefore⟩)
      have hput : ∀ i m acts, givenIn m.history = givenIn S.history ++
            RegistryAct.along hub RegistryAct.given S.state.registry acts →
          givenIn (S.put i m acts).history = RegistryAct.givenOut hub (S.put i m acts).acts := by
        intro i m acts hm
        change givenIn m.history = RegistryAct.givenOut hub (S.acts ++ acts)
        rw [RegistryAct.givenOut, RegistryAct.along_append, hregistry, hm, ih]
        rfl
      cases hnext with
      | elapse e' => exact ih
      | call i hi c => exact hput i _ _ (c.begin_givenIn S.state S.world S.history)
      | step i hs => exact hput i _ _ hs.givenIn_eq

/-- Those who leave with further acts leave from the registry as it is. -/
theorem Reached.departures_append (hS : Reached w hub S) {acts : List RegistryAct}
    (hacts : S'.acts = S.acts ++ acts) :
    S'.departures hub = S.departures hub ++
      RegistryAct.along hub (RegistryAct.departed hub) S.state.registry acts := by
  have hregistry := congrArg Prod.fst hS.applyAll_eq
  rw [departures, RegistryAct.departures, hacts, RegistryAct.along_append, hregistry]
  rfl

/-- Who was unregistered is handed what was queued for it, and nothing else. -/
theorem Unregisters.handed_later (hS : Reached w hub S) (h' : Unregisters w hub h S true S')
    (hT : Later w hub S' T) :
    ∃ delivered, noticesOf h S.state.queue = delivered ++ noticesOf h T.state.queue ∧
      noticesOf h (handedIn T.history) = noticesOf h (handedIn S.history) ++ delivered := by
  obtain ⟨hremoved, -, hregistry, hhistory, hqueue⟩ := h'.eq
  have hS' : Reached w hub S' := hS.later (.single h'.next)
  obtain ⟨acts, hacts⟩ := hT.exists_acts
  have htold : T.told = S'.told ++ (RegistryAct.applyAll hub S'.state.registry acts).2 := by
    have hsum := (hS'.later hT).applyAll_eq
    rw [hacts, RegistryAct.applyAll_append, hS'.applyAll_eq] at hsum
    exact (congrArg Prod.snd hsum).symm
  have hgone : noticesOf h (RegistryAct.applyAll hub S'.state.registry acts).2 = [] := by
    have hmem : h ∈ S.state.registry.handles := (Registry.contains_iff _ h).mp hremoved.symm
    have hle := hS.registry_reachable.sound.le_lastId h hmem
    refine RegistryAct.noticesOf_applyAll_of_gone ?_ ?_ acts
    · rwa [hregistry, Registry.lastId_remove]
    · simp [hregistry]
  obtain ⟨more, hmore⟩ := hT.handedIn_prefix
  refine ⟨noticesOf h more, ?_, ?_⟩
  · rw [told, told, hhistory, hqueue, ← hmore, hhistory] at htold
    have hnotices := congrArg (noticesOf h) htold
    simp only [noticesOf_append, hgone, List.append_nil, List.append_assoc] at hnotices
    exact (List.append_cancel_left hnotices).symm
  · rw [← hmore, noticesOf_append, hhistory]

/-- In a section leave those who were registered before it and are not any more. -/
theorem Next.exists_left (hS : Reached w hub S) (h' : Next w hub S S') :
    ∃ left, S'.departures hub = S.departures hub ++ left ∧ ∀ h,
      h ∈ left.map Departure.handle ↔
        h ∈ S.state.registry.handles ∧ h ∉ S'.state.registry.handles := by
  obtain ⟨a, ha⟩ := h'.exists_acts
  have hregistry : S'.state.registry =
      (RegistryAct.applyAll hub S.state.registry a.toList).1 := by
    have hsum := (hS.later (.single h')).applyAll_eq
    rw [ha, RegistryAct.applyAll_append, hS.applyAll_eq] at hsum
    exact (congrArg Prod.fst hsum).symm
  refine ⟨_, hS.departures_append ha, fun h => ?_⟩
  rw [hregistry]
  have hr := hS.registry_reachable
  cases a with
  | none => exact ⟨fun hh => absurd hh List.not_mem_nil, fun hh => absurd hh.1 hh.2⟩
  | some a =>
      simp only [Option.toList_some, RegistryAct.along_singleton, RegistryAct.applyAll_singleton]
      constructor
      · intro hh
        obtain ⟨d, hd, rfl⟩ := List.mem_map.mp hh
        obtain ⟨he, hgone, -⟩ := RegistryAct.of_mem_departed hr hd
        exact ⟨List.mem_map_of_mem he, hgone⟩
      · rintro ⟨hh, hgone⟩
        have hmem := (RegistryAct.perm_apply hub hr a).mem_iff.mp (List.mem_append_left _ hh)
        exact (List.mem_append.mp hmem).resolve_left hgone

/-- Who leaves as unregistered does so in a section in which somebody unregisters it, and is told
that this was why. -/
theorem Next.unregisters (hS : Reached w hub S) (h' : Next w hub S S') {left : List Departure}
    (hleft : S'.departures hub = S.departures hub ++ left) {d : Departure} (hd : d ∈ left)
    (hcause : d.cause = .unregistered) : Unregisters w hub d.handle S true S' := by
  have hr := hS.registry_reachable
  have htrue : d.handle ∈ S.state.registry.handles →
      (S.state.registry.remove d.handle).1 = true := by
    intro hmem
    rw [Registry.remove_fst]
    exact (Registry.contains_iff _ _).mpr hmem
  have hput : ∀ i m acts, (S.put i m acts).departures hub = S.departures hub ++ left →
      d ∈ RegistryAct.along hub (RegistryAct.departed hub) S.state.registry acts := by
    intro i m acts hm
    rw [hS.departures_append rfl] at hm
    rwa [List.append_cancel_left hm]
  cases h' with
  | elapse e =>
      obtain rfl : left = [] := List.self_eq_append_right.mp hleft
      exact absurd hd List.not_mem_nil
  | call i hi c =>
      obtain ⟨hmem, rfl⟩ := HubCall.of_unregistered (hput i _ _ hleft) hcause hr
      exact htrue hmem ▸ .caller i hi
  | step i hs =>
      obtain ⟨hmem, next, tasks, htasks, rfl⟩ := hs.of_unregistered (hput i _ _ hleft) hcause hr
      have hacts : (S.view i).acts w = [.unregister d.handle] := by rw [Moment.acts, htasks]
      rw [hacts]
      exact htrue hmem ▸ .callback i htasks

/-- To unregister is why a listener leaves exactly if it was registered. -/
theorem Unregisters.departures_eq (hS : Reached w hub S)
    (h' : Unregisters w hub h S removed S') :
    (removed = true ↔
      ∃ l, S'.departures hub = S.departures hub ++ [⟨h, l, .unregistered⟩]) ∧
    (removed = false → S'.departures hub = S.departures hub) := by
  obtain ⟨hremoved, hacts, -⟩ := h'.eq
  have hleft := hS.departures_append hacts
  rw [RegistryAct.along_singleton, RegistryAct.departed] at hleft
  have hnone : removed = false → S'.departures hub = S.departures hub := by
    intro hfalse
    have hnot : h ∉ S.state.registry.handles := fun hmem => by
      rw [hremoved, (Registry.contains_iff _ h).mpr hmem] at hfalse
      cases hfalse
    rw [hleft, Registry.missing_remove_of_notMem _ hnot, List.append_nil]
  refine ⟨⟨fun htrue => ?_, fun hsome => ?_⟩, hnone⟩
  · have hmem := (Registry.contains_iff _ h).mp (hremoved.symm.trans htrue)
    obtain ⟨⟨h, l⟩, hl, rfl⟩ := List.mem_map.mp hmem
    exact ⟨l, by rw [hleft, Registry.missing_remove _ hS.registry_reachable.sound.nodup hl]⟩
  · by_contra hfalse
    obtain ⟨l, hl⟩ := hsome
    rw [hnone (Bool.eq_false_iff.mpr hfalse)] at hl
    exact absurd (List.self_eq_append_right.mp hl) (List.cons_ne_nil _ _)

/-- Callers and callbacks register and unregister listeners, bring blocks and shut the hub down,
at the same time and any number of times.

Every handle is greater than those before it. Each is that of a listener that is registered
still, or of one that has left, and none comes up twice in this: who has left does not come back.

Who has left has done so for one cause, and what it has been told bears out which. From one moment
to the next leave those who are not registered any more, and who leaves as unregistered does so
because somebody unregisters it.

Who unregisters a listener is told that it was registered exactly if this is why the listener
leaves; otherwise nobody does. The notices that wait for the listener at this moment are all of
events, and they are all that it is handed from then on. -/
theorem leaves_once (hS : Reached w hub S) :
    let handles := S.state.registry.handles ++ (S.departures hub).map Departure.handle
    ((givenIn S.history).Pairwise fun h h' => h.id < h'.id) ∧
    ((givenIn S.history).Perm handles ∧ handles.Nodup) ∧
    (∀ d ∈ S.departures hub, d.BorneOut hub (noticesOf d.handle S.told)) ∧
    (∀ S', Next w hub S S' →
      ∃ left, S'.departures hub = S.departures hub ++ left ∧
        (∀ h, h ∈ left.map Departure.handle ↔
          h ∈ S.state.registry.handles ∧ h ∉ S'.state.registry.handles) ∧
        ∀ d ∈ left, d.cause = .unregistered → Unregisters w hub d.handle S true S') ∧
    ∀ h removed S', Unregisters w hub h S removed S' →
      Next w hub S S' ∧
      (removed = true ↔
        ∃ l, S'.departures hub = S.departures hub ++ [⟨h, l, .unregistered⟩]) ∧
      (removed = false → S'.departures hub = S.departures hub) ∧
      (removed = true → OnlyEvents (noticesOf h S.state.queue) ∧ ∀ T, Later w hub S' T →
        ∃ delivered, noticesOf h S.state.queue = delivered ++ noticesOf h T.state.queue ∧
          noticesOf h (handedIn T.history) = noticesOf h (handedIn S.history) ++ delivered) := by
  intro handles
  have haccount := RegistryAct.accounted hub S.acts
  have hregistry := congrArg Prod.fst hS.applyAll_eq
  have htold := congrArg Prod.snd hS.applyAll_eq
  have hperm := haccount.perm
  have hnodup := haccount.nodup
  have hascending := haccount.ascending
  have hborneOut := haccount.borneOut
  rw [hregistry] at hperm hnodup
  rw [← hS.givenIn_eq] at hperm hascending
  rw [htold] at hborneOut
  refine ⟨hascending, ⟨hperm, hnodup⟩, hborneOut, ?_, ?_⟩
  · intro S' hnext
    obtain ⟨left, hleft, hmem⟩ := hnext.exists_left hS
    exact ⟨left, hleft, hmem, fun d hd hcause => hnext.unregisters hS hleft hd hcause⟩
  · intro h removed S' h'
    obtain ⟨hiff, hnone⟩ := h'.departures_eq hS
    refine ⟨h'.next, hiff, hnone, ?_⟩
    rintro rfl
    refine ⟨?_, fun T hT => h'.handed_later hS hT⟩
    have hmem : h ∈ S.state.registry.handles := (Registry.contains_iff _ h).mp h'.eq.1.symm
    have honly := haccount.told h (by rwa [hregistry])
    rw [htold] at honly
    intro n hn
    refine honly n ?_
    rw [told, noticesOf_append]
    exact List.mem_append_right _ hn

/-- A listener waits for blocks. A stream brings one, and while the event is still queued another
caller unregisters the listener. Then come one that is content with one event, one whose window
ends with the block that it hears of, and one that stays until the hub shuts down. The first
listener is handed the event that was queued for it and nothing more. -/
theorem leaves_once_four_ways :
    let w : Surroundings (List Delivery) Unit := .recording
    let block (n : UInt64) : DeliveredBlock :=
      { number := ⟨n⟩, filtered := some { number := n } }
    let bye : Termination :=
      { Termination.closed "hub" with connection := some default, lastBlockNumber := some ⟨4⟩ }
    let told : List Notice := [.event ((block 2).event "hub")]
    ∃ S S' T : SharedHub Nat (List Delivery) Unit, Later w "hub" (fresh []) S ∧
      Unregisters w "hub" ⟨1⟩ S true S' ∧ Later w "hub" S' T ∧
      ((T.departures "hub").map fun d => (d.handle.id, d.cause)) =
        [(1, .unregistered), (2, .notified (block 3)), (3, .windowEnded (block 4)),
          (4, .shutDown bye)] ∧
      noticesOf ⟨1⟩ S.state.queue = told ∧ noticesOf ⟨1⟩ (handedIn T.history) = told := by
  intro w block bye told
  let listener (endBlock : Option BlockNumber) (unregister : Bool) : HubCall Unit :=
    .register ⟨.block, none, endBlock, unregister⟩
  let bring (n : UInt64) : HubCall Unit := .read 1 (.data (.filteredBlock { number := n }))
  let start : SharedHub Nat (List Delivery) Unit := fresh []
  have hstart : Later w "hub" start start := .refl
  have hbrought := ((hstart.tail (.call 0 rfl (listener none false))).tail
    (.call 0 rfl (.install () none))).tail (.call 0 rfl (bring 2))
  have hunregistered := hbrought.tail (.call 1 rfl (.unregister ⟨1⟩))
  have hfrom : ∀ {S₁}, Later w "hub" start S₁ → Later w "hub" S₁ S₁ := fun _ => .refl
  have hnotified := ((hfrom hunregistered).tail (.call 1 rfl (listener none true))).tail
    (.call 2 rfl (bring 3))
  have hended := (hnotified.tail (.call 1 rfl (listener (some ⟨4⟩) false))).tail
    (.call 3 rfl (bring 4))
  have hshut := ((hended.tail (.call 1 rfl (listener none false))).tail
    (.call 1 rfl (.close (.closed "hub")))).tail (.step 1 (.closeBegun rfl))
  have hhanded := (hshut.tail (.step 0 (.flushBegun rfl))).tail (.step 0 (.handedOver rfl))
  obtain ⟨S, S', T, hS, hleaves, hT, hcauses, hqueue, hrest, hbefore⟩ :
      ∃ S S' T, Later w "hub" start S ∧ Unregisters w "hub" ⟨1⟩ S true S' ∧
        Later w "hub" S' T ∧
        ((T.departures "hub").map fun d => (d.handle.id, d.cause)) =
          [(1, .unregistered), (2, .notified (block 3)), (3, .windowEnded (block 4)),
            (4, .shutDown bye)] ∧
        noticesOf ⟨1⟩ S.state.queue = told ∧ noticesOf ⟨1⟩ T.state.queue = [] ∧
        noticesOf ⟨1⟩ (handedIn S.history) = [] := by
    refine ⟨_, _, _, hbrought, .caller 1 rfl, hhanded, ?_, rfl, ?_, rfl⟩
    all_goals
      simp +zetaDelta only
      decide +kernel
  obtain ⟨-, -, -, -, hleft⟩ := leaves_once ⟨[], hS⟩
  obtain ⟨delivered, hdelivered, hmore⟩ := ((hleft _ _ _ hleaves).2.2.2 rfl).2 T hT
  refine ⟨S, S', T, hS, hleaves, hT, hcauses, hqueue, ?_⟩
  rw [hmore, hbefore, List.nil_append, ← hqueue, hdelivered, hrest, List.append_nil]

end SharedHub

end LedgerClient
