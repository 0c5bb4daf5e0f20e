import LedgerClient.Proofs.Discovery.Endorse
import Mathlib.Data.List.Duplicate
import Mathlib.Data.List.Perm.Subperm

/-!
# Peers that are listed twice

A plan may list a peer more than once in a group. The search takes the entries of a group
one by one, so it may ask such a peer twice at once, and lets its endorsement count once for
every entry. Neither can happen where at most one peer of such a group is required.

## Main results

* `Endorse.frugal_iff`: peers are asked once and count once, whatever they do, exactly if the
  layouts require at most one peer of each group that lists a peer twice.
* `asked_twice`: an answer that lists a peer twice is read as a plan by which it is asked twice.
-/

namespace LedgerClient

namespace Endorse

variable {σ : Type}

/-- Outcomes report the peer that was asked, as long as `I` holds of the world; asking and
waiting keep it so. The peers of a channel do (`World.EndorsersNamed.steady`). -/
structure Truthful (ask : DiscoveredPeer → σ → (PeerOutcome × Nat) × σ) (elapse : Nat → σ → σ)
    (I : σ → Prop) : Prop where
  peer : ∀ {s} p, I s → (ask p s).1.1.peer = p.name
  asked : ∀ {s} p, I s → I (ask p s).2
  elapsed : ∀ {s} ms, I s → I (elapse ms s)

/-- The peers were asked in the order of the record, each once. -/
structure AskedOnce (I : σ → Prop) (a : Attempts) (s : σ × List String) : Prop where
  sound : a.Sound
  asked : s.2 = a.names
  world : I s.1

variable {ask : DiscoveredPeer → σ → (PeerOutcome × Nat) × σ} {elapse : Nat → σ → σ}
variable {I : σ → Prop}

/-- In a steady world outcomes report the peer that was asked. -/
theorem Steady.truthful {endorses : DiscoveredPeer → Bool}
    (h : Steady ask elapse endorses I) : Truthful ask elapse I :=
  ⟨h.peer, h.asked, h.elapsed⟩

/-- As long as nobody is asked twice, whom the search asks is what it records. -/
theorem Truthful.keeps (h : Truthful ask elapse I) :
    Keeps (noting ask) (beside elapse) True (AskedOnce I) where
  sound := AskedOnce.sound
  peer := fun p hk => h.peer p hk.world
  recorded := by
    intro a s p hk huntried
    refine ⟨hk.sound.record _, ?_, h.asked p hk.world⟩
    have hnames := Attempts.names_record (ask p s.1).1.1 a
    rw [h.peer p hk.world, huntried trivial, if_neg Bool.false_ne_true] at hnames
    simp only [noting, hk.asked, hnames]
  elapsed := fun ms hk => ⟨hk.sound, hk.asked, h.elapsed ms hk.world⟩

/-! ### Counting once -/

/-- In each group of a layout as many different candidates as required have responded. -/
def CoversDistinctly (groups : SortedMap String (List DiscoveredPeer))
    (layout : SortedMap String UInt32) (results : ProposalResults) : Prop :=
  ∀ e ∈ layout.entries, ∃ names : List String, names.Nodup ∧ e.2.toNat ≤ names.length ∧
    ∀ n ∈ names, n ∈ namesOf (candidatesOf groups e.1) ∧ n ∈ results.responders

/-- Whatever peers do, endorsing by the plan comes to its end, no peer is asked twice, and if
it succeeds, different peers have responded for some layout. -/
def Frugal (plan : EndorsementPlan) (r : EndorseRequest)
    (shuffle : String → List DiscoveredPeer → List DiscoveredPeer) : Prop :=
  ∀ (σ : Type) (ask : DiscoveredPeer → σ → (PeerOutcome × Nat) × σ) (elapse : Nat → σ → σ)
    (I : σ → Prop) (s : σ), Truthful ask elapse I → I s →
    ∃ result s' asked, plan.endorse (noting ask) (beside elapse) r shuffle (s, []) =
        some (result, s', asked) ∧ asked.Nodup ∧
      ∀ results, result = .ok results → ∃ layout ∈ plan.layouts,
        CoversDistinctly (plan.prepareGroups r shuffle) layout results

variable {r : EndorseRequest} {shuffle : String → List DiscoveredPeer → List DiscoveredPeer}

/-- Peers are asked once and count once if each layout requires at most one peer of a group
that lists a peer twice. -/
theorem frugal_of_apart {plan : EndorsementPlan}
    (hd : ∀ layout ∈ plan.layouts, ∀ e ∈ layout.entries,
      Apart (candidatesOf (plan.prepareGroups r shuffle) e.1) e.2.toNat) :
    Frugal plan r shuffle := by
  intro σ ask elapse I s h hs
  have hempty : AskedOnce I {} (s, ([] : List String)) := ⟨.empty, rfl, hs⟩
  obtain ⟨found, a, ⟨s', asked⟩, hrun, hk, hdecides⟩ :=
    h.keeps.endorse plan r shuffle (fun _ => hd) hempty
  refine ⟨answer a found, s', asked, hrun, ?_, ?_⟩
  · have hasked : asked = a.names := hk.asked
    rw [hasked]
    exact hk.sound.nodup
  · intro results hresults
    cases found with
    | none => exact absurd hresults (by simp [answer])
    | some selected =>
        obtain rfl := Except.ok.inj hresults
        obtain ⟨failed, layout, rest, chosen, hlayouts, -, hchosen, hsel⟩ := hdecides
        have hcovers := hchosen.covers fun n hn => (hsel n).mpr hn
        have hlayout : layout ∈ plan.layouts := by
          rw [hlayouts]
          exact List.mem_append_right _ List.mem_cons_self
        refine ⟨layout, hlayout, ?_⟩
        intro e he
        obtain ⟨names, hnames, hsel⟩ := hcovers e he
        have hnodup : names.Nodup :=
          (hd layout hlayout e he).nodup hnames.sublist (Nat.le_of_eq hnames.length)
        refine ⟨names, hnodup, Nat.le_of_eq hnames.length.symm, ?_⟩
        intro n hn
        refine ⟨hnames.sublist.subset hn, ?_⟩
        rw [hk.sound.mem_responders]
        exact ⟨hsel n hn, hnames.endorsed n hn⟩

/-! ### Groups that list a peer twice -/

/-- Of names that are not distinct fewer may do where some number of them is required. -/
theorem exists_few {names : List String} {required : Nat} (hdup : ¬ names.Nodup)
    (hrequired : 2 ≤ required) (hlen : required ≤ names.length) :
    ∃ few : List String, few.length < required ∧ required ≤ names.countP few.contains := by
  obtain ⟨n, hn⟩ := List.exists_duplicate_iff_not_nodup.mpr hdup
  obtain ⟨rest, hperm⟩ := (List.duplicate_iff_sublist.mp hn).exists_perm_append
  have hrest : names.length = rest.length + 2 := by
    rw [hperm.length_eq]
    simp
  refine ⟨n :: rest.take (required - 2), ?_, ?_⟩
  · rw [List.length_cons, List.length_take]
    omega
  · have hsub : (n :: n :: rest.take (required - 2)).Sublist ([n, n] ++ rest) :=
      ((List.take_sublist _ rest).cons_cons n).cons_cons n
    rw [hperm.countP_eq]
    refine Nat.le_trans ?_ hsub.countP_le
    rw [List.countP_eq_length.mpr]
    · rw [List.length_cons, List.length_cons, List.length_take]
      omega
    · intro m hm
      simpa using hm

/-- Peers of which only some endorse. -/
def onlyFew (few : List String) (p : DiscoveredPeer) (_ : Unit) : (PeerOutcome × Nat) × Unit :=
  let connection : ConnectionInfo := { name := p.name, mspid := some p.mspid }
  let result := if few.contains p.name then .ok {} else .error (.notConnected connection)
  (({ peer := p.name, connection, result }, 0), ())

/-- Whether these peers endorse does not change. -/
theorem steady_onlyFew (few : List String) :
    Steady (onlyFew few) (fun _ => id) (fun p => few.contains p.name) (fun _ => True) where
  peer := fun _ _ => rfl
  outcome := by
    intro s p _
    simp only [onlyFew, PeerOutcome.endorses]
    split
    · next h =>
      rw [h]
      rfl
    · next h =>
      rw [Bool.eq_false_iff.mpr h]
      rfl
  congr := by
    intro p p' h
    rw [h]
  asked := fun _ _ => trivial
  elapsed := fun _ _ => trivial

/-- Asking peers at once asks each of them as often as it is listed. -/
theorem askAll_asked (ask : DiscoveredPeer → σ → (PeerOutcome × Nat) × σ)
    (elapse : Nat → σ → σ) (batch : List DiscoveredPeer) (longest : Nat) (a : Attempts)
    (s : σ × List String) :
    (askAll (noting ask) (beside elapse) batch longest a s).2.2 = s.2 ++ namesOf batch := by
  induction batch generalizing longest a s with
  | nil => exact (List.append_nil _).symm
  | cons p rest ih =>
      rw [askAll, ih]
      simp only [noting, namesOf, List.map_cons, List.append_assoc, List.singleton_append]

variable {endorses : DiscoveredPeer → Bool}

/-- If all candidates were asked, the search in their group asks nobody. -/
theorem satisfyGroup_of_tried (ask : DiscoveredPeer → σ → (PeerOutcome × Nat) × σ)
    (elapse : Nat → σ → σ) (required : Nat) {candidates : List DiscoveredPeer} {a : Attempts}
    (htried : ∀ p ∈ candidates, a.tried p.name = true) (s : σ) :
    ∃ found, Attempts.satisfyGroup ask elapse candidates required a s = some (found, a, s) := by
  have hleft : untried candidates a = [] := by
    refine List.filter_eq_nil_iff.mpr ?_
    intro p hp
    rw [htried p hp]
    exact Bool.false_ne_true
  rw [Attempts.satisfyGroup, hleft, List.take_nil]
  split
  · exact ⟨_, rfl⟩
  · exact ⟨none, rfl⟩

/-- In a group that has no more candidates than are required, all of them are asked at once. -/
theorem Steady.satisfyGroup_asked (h : Steady ask elapse endorses I)
    {candidates : List DiscoveredPeer} {required : Nat} (hlen : candidates.length ≤ required)
    {s : σ} (hs : I s) :
    ∃ found a s', Attempts.satisfyGroup (noting ask) (beside elapse) candidates required {}
      (s, []) = some (found, a, s', namesOf candidates) := by
  cases candidates with
  | nil =>
      have htried : ∀ p ∈ ([] : List DiscoveredPeer), Attempts.tried {} p.name = true := nofun
      obtain ⟨found, hrun⟩ :=
        satisfyGroup_of_tried (noting ask) (beside elapse) required htried (s, [])
      exact ⟨found, {}, s, hrun⟩
  | cons p rest =>
      have hnone : endorsedAmong (p :: rest) required {} = [] := by
        have hfilter : (p :: rest).filter (fun p => Attempts.endorsed {} p.name) = [] :=
          List.filter_eq_nil_iff.mpr fun _ _ => Bool.false_ne_true
        rw [endorsedAmong, hfilter, List.map_nil, List.take_nil]
      have hbatch : (untried (p :: rest) {}).take required = p :: rest := by
        have huntried : untried (p :: rest) {} = p :: rest :=
          List.filter_eq_self.mpr fun _ _ => rfl
        rw [huntried, List.take_of_length_le hlen]
      have hpos : ¬ required ≤ 0 := by
        rw [List.length_cons] at hlen
        omega
      obtain ⟨-, -, -, htried⟩ := h.keeps.askAll (p :: rest) 0 (Known.empty hs) False.elim
      have hasked := askAll_asked ask elapse (p :: rest) 0 {} (s, [])
      rcases hnext : askAll (noting ask) (beside elapse) (p :: rest) 0 {} (s, []) with
        ⟨a, s', asked⟩
      rw [hnext] at htried hasked
      obtain rfl : asked = namesOf (p :: rest) := hasked
      obtain ⟨found, hrun⟩ :=
        satisfyGroup_of_tried (noting ask) (beside elapse) required htried
          (s', namesOf (p :: rest))
      refine ⟨found, a, s', ?_⟩
      rw [Attempts.satisfyGroup]
      simp only [hnone, hbatch, List.length_nil, Nat.sub_zero, if_neg hpos, List.isEmpty_cons,
        Bool.false_eq_true, if_false, hnext, hrun]

variable {plan : EndorsementPlan} {group : String} {quantity : UInt32}

/-- If the only layout requires peers of one group, endorsing comes to what the search in this
group comes to. -/
theorem endorse_of_satisfyGroup (plan : EndorsementPlan) (r : EndorseRequest)
    (shuffle : String → List DiscoveredPeer → List DiscoveredPeer)
    (hlayouts : plan.layouts = [(∅ : SortedMap String UInt32).insert group quantity])
    {s s' : σ} {found : Option (List String)} {a : Attempts}
    (hrun : Attempts.satisfyGroup ask elapse (candidatesOf (plan.prepareGroups r shuffle) group)
      quantity.toNat {} s = some (found, a, s')) :
    plan.endorse ask elapse r shuffle s = some (answer a (found.map (addNew [])), s') := by
  have hentries : ((∅ : SortedMap String UInt32).insert group quantity).entries =
      [(group, quantity)] := rfl
  rw [candidatesOf] at hrun
  simp only [EndorsementPlan.endorse, hlayouts, satisfyFirst, hentries, satisfyLayout, hrun]
  cases found with
  | none => rfl
  | some names => rfl

/-- If the only layout requires at least as many peers of a group as it has candidates, all
of them are asked, each as often as it is listed. -/
theorem Steady.endorse_asked (h : Steady ask elapse endorses I)
    (hlayouts : plan.layouts = [(∅ : SortedMap String UInt32).insert group quantity])
    (hlen : (candidatesOf (plan.prepareGroups r shuffle) group).length ≤ quantity.toNat)
    {s : σ} (hs : I s) :
    ∃ result s', plan.endorse (noting ask) (beside elapse) r shuffle (s, []) =
      some (result, s', namesOf (candidatesOf (plan.prepareGroups r shuffle) group)) := by
  obtain ⟨found, a, s', hrun⟩ := h.satisfyGroup_asked hlen hs
  exact ⟨_, s', endorse_of_satisfyGroup plan r shuffle hlayouts hrun⟩

/-- If fewer different peers than the only layout requires are enough for its group, they are
taken for enough. -/
theorem not_frugal_of_few {few : List String}
    (hlayouts : plan.layouts = [(∅ : SortedMap String UInt32).insert group quantity])
    (hfew : few.length < quantity.toNat)
    (henough : quantity.toNat ≤
      (namesOf (candidatesOf (plan.prepareGroups r shuffle) group)).countP few.contains) :
    ¬ Frugal plan r shuffle := by
  intro hfrugal
  have hsteady := steady_onlyFew few
  have hempty : Known (fun p => few.contains p.name) (fun _ => True) {} ((), []) := .empty trivial
  obtain ⟨found, a, s', hrun, hk, hdecides⟩ :=
    hsteady.keeps.endorse plan r shuffle False.elim hempty
  rw [hlayouts] at hdecides
  obtain ⟨result, s'', asked, hrun', -, hdistinct⟩ := hfrugal _ _ _ _ () hsteady.truthful trivial
  obtain ⟨rfl, -⟩ := Prod.mk.inj (Option.some.inj (hrun.symm.trans hrun'))
  cases found with
  | none =>
      have hunsatisfiable := hk.not_satisfiable_of_failed (hdecides _ List.mem_cons_self)
      rw [satisfiable, List.all_eq_false] at hunsatisfiable
      obtain ⟨e, he, hlt⟩ := hunsatisfiable
      obtain rfl := List.mem_singleton.mp he
      rw [namesOf, List.countP_map] at henough
      exact hlt (decide_eq_true henough)
  | some selected =>
      obtain ⟨layout, hlayout, hcovers⟩ := hdistinct _ rfl
      rw [hlayouts, List.mem_singleton] at hlayout
      obtain ⟨names, hnodup, hlen, hnames⟩ :=
        hcovers (group, quantity) (hlayout ▸ List.mem_singleton_self _)
      -- Only those few have endorsed, so there are not as many different names.
      have hsub : names ⊆ few := by
        intro n hn
        obtain ⟨hcandidate, hresponder⟩ := hnames n hn
        obtain ⟨p, -, rfl⟩ := List.mem_map.mp hcandidate
        have hendorsed := ((hk.sound.mem_responders selected p.name).mp hresponder).2
        rw [hk.endorsed p, Bool.and_eq_true] at hendorsed
        exact List.contains_iff_mem.mp hendorsed.2
      have hle : names.length ≤ few.length := (List.subperm_of_subset hnodup hsub).length_le
      simp only at hlen
      omega

/-- A peer that is listed twice in a group of which several peers are required may be asked
twice, or count twice. -/
theorem not_frugal_of_not_apart
    (hlayouts : plan.layouts = [(∅ : SortedMap String UInt32).insert group quantity])
    (hdup : ¬ Apart (candidatesOf (plan.prepareGroups r shuffle) group) quantity.toNat) :
    ¬ Frugal plan r shuffle := by
  rw [Apart, not_or, Nat.not_le] at hdup
  obtain ⟨hquantity, hdup⟩ := hdup
  rcases Nat.le_total
    (candidatesOf (plan.prepareGroups r shuffle) group).length quantity.toNat with hlen | hlen
  · intro hfrugal
    have hsteady := steady_onlyFew []
    obtain ⟨result, s', hrun⟩ := hsteady.endorse_asked hlayouts hlen (s := ()) trivial
    obtain ⟨_, _, asked, hrun', hnodup, -⟩ := hfrugal _ _ _ _ () hsteady.truthful trivial
    obtain ⟨-, hworld⟩ := Prod.mk.inj (Option.some.inj (hrun.symm.trans hrun'))
    obtain ⟨-, rfl⟩ := Prod.mk.inj hworld
    exact hdup hnodup
  · rw [← List.length_map DiscoveredPeer.name] at hlen
    obtain ⟨few, hfew, henough⟩ := exists_few hdup hquantity hlen
    exact not_frugal_of_few hlayouts hfew henough

/-- Suppose layouts may only require certain quantities of the groups of a plan. Peers are
asked once and count once, whatever these layouts are and whatever peers do, exactly if at
most one peer is required of each group that lists a peer twice. -/
theorem frugal_iff (plan : EndorsementPlan) (r : EndorseRequest)
    (shuffle : String → List DiscoveredPeer → List DiscoveredPeer)
    (requires : String → UInt32 → Prop) :
    (∀ layouts : List (SortedMap String UInt32),
      (∀ layout ∈ layouts, ∀ e ∈ layout.entries, requires e.1 e.2) →
        Frugal { plan with layouts } r shuffle) ↔
      ∀ group quantity, requires group quantity →
        quantity.toNat ≤ 1 ∨
          (namesOf (candidatesOf (plan.prepareGroups r shuffle) group)).Nodup := by
  constructor
  · intro h group quantity hrequires
    by_contra hdup
    have hlayout : ∀ layout ∈ [(∅ : SortedMap String UInt32).insert group quantity],
        ∀ e ∈ layout.entries, requires e.1 e.2 := by
      intro layout hlayout e he
      obtain rfl := List.mem_singleton.mp hlayout
      obtain rfl := List.mem_singleton.mp he
      exact hrequires
    have hfrugal := h [(∅ : SortedMap String UInt32).insert group quantity] hlayout
    exact absurd hfrugal (not_frugal_of_not_apart rfl hdup)
  · intro h layouts hlayouts
    refine frugal_of_apart ?_
    intro layout hlayout e he
    exact h e.1 e.2 (hlayouts layout hlayout e he)

end Endorse

/-! ### A peer that is asked twice -/

open Endorse

/-- The entry of a peer in an answer. -/
def DiscoveryPeer.sample : DiscoveryPeer :=
  let alive : GossipMessage := { content := .alive { membership := { endpoint := "p1:1" } } }
  let state : GossipMessage := { content := .state { properties := some {} } }
  let identity : SerializedIdentity := { mspid := "Org1" }
  { identity := Wire.encode identity
    membershipInfo := some { payload := Wire.encode alive }
    stateInfo := some { payload := Wire.encode state } }

/-- An answer that lists the peer twice in a group of which two peers are required. -/
def ChaincodeQueryResult.sample : ChaincodeQueryResult :=
  let group : Peers := { peers := [.sample, .sample] }
  { content := [{
      chaincode := "cc"
      endorsersByGroups := (∅ : SortedMap String Peers).insert "G1" group
      layouts := [{ quantitiesByGroup := (∅ : SortedMap String UInt32).insert "G1" 2 }] }] }

/-- This answer is read as a plan. Endorsing by it asks the only peer twice and succeeds with
its single response, though the layout requires two peers. -/
theorem asked_twice :
    ∃ plan results w, decodePlan .sample = .ok plan ∧
      plan.endorse (noting (World.askPeer ⟨0⟩ {} none)) (beside World.elapse)
        { sort := .random } (fun _ => id) (World.sample, []) =
          some (.ok results, w, ["p1:1", "p1:1"]) ∧
      results.responders = ["p1:1"] ∧
      ∀ layout ∈ plan.layouts,
        ¬ CoversDistinctly (plan.prepareGroups { sort := .random } fun _ => id) layout results := by
  let plan : EndorsementPlan :=
    { chaincode := "cc"
      groups := (∅ : SortedMap String (List DiscoveredPeer)).insert "G1" [.sample, .sample]
      layouts := [(∅ : SortedMap String UInt32).insert "G1" 2] }
  -- The batch holds both entries, and then both count.
  obtain ⟨a, w, hgroup, hresponders⟩ : ∃ a w,
      Attempts.satisfyGroup (noting (World.askPeer ⟨0⟩ {} none)) (beside World.elapse)
        [.sample, .sample] 2 {} (World.sample, []) =
          some (some ["p1:1", "p1:1"], a, w, ["p1:1", "p1:1"]) ∧
      (a.results ["p1:1"]).responders = ["p1:1"] := by
    rw [Attempts.satisfyGroup, if_neg (by decide), if_neg (by decide), Attempts.satisfyGroup,
      if_pos (by decide)]
    exact ⟨_, _, rfl, rfl⟩
  have hrun := endorse_of_satisfyGroup plan { sort := .random } (fun _ => id) rfl hgroup
  refine ⟨plan, a.results ["p1:1"], w, rfl, hrun, hresponders, ?_⟩
  intro layout hlayout hcovers
  obtain rfl := List.mem_singleton.mp hlayout
  obtain ⟨names, hnodup, hlen, hnames⟩ := hcovers ("G1", 2) List.mem_cons_self
  have hsub : names ⊆ ["p1:1"] := fun n hn => hresponders ▸ (hnames n hn).2
  have hle := (List.subperm_of_subset hnodup hsub).length_le
  have htwo : 2 ≤ names.length := hlen
  rw [List.length_singleton] at hle
  omega

end LedgerClient
