import LedgerClient.Proofs.Data.SortedMap
import LedgerClient.Proofs.Discovery.Reported

/-!
# The order in which peers are asked

The groups of a plan are prepared before the search: ignored peers are left out, and the
others are put in the order in which they are asked. Peers whose ledger lags are last, among
equals preferred peers are first, and among equals again the highest ledger is first if peers
are sorted by height.

Each criterion puts those peers to the front that meet it and changes nothing else about the
order (`front`), so the one that is applied last counts most.

## Main results

* `EndorseRequest.isLagging_iff`: a ledger lags by heights that are compared as natural numbers.
* `EndorseRequest.prepare_prepared`: the order of a prepared group.
* `EndorsementPlan.prepareGroups_prepared`: the prepared groups of a plan, and who is asked.
-/

namespace LedgerClient

/-! ### Putting some elements to the front -/

section Front

variable {α : Type} {f : α → Bool} {l c : List α}

/-- The elements that meet a condition before the others, each in their order. -/
def front (f : α → Bool) (l : List α) : List α :=
  l.filter f ++ l.filter fun a => !f a

/-- No element is lost, and none is added. -/
theorem front_perm (f : α → Bool) (l : List α) : (front f l).Perm l :=
  List.filter_append_perm f l

/-- Afterwards the condition counts first, and then what counted before. -/
theorem pairwise_front {R : α → α → Prop} (h : l.Pairwise R) :
    (front f l).Pairwise fun a b => (f b = true → f a = true) ∧ (f a = f b → R a b) := by
  refine List.pairwise_append.mpr ⟨?_, ?_, ?_⟩
  · refine ((List.pairwise_filter.mpr (h.imp ?_)))
    intro a b hab ha _
    exact ⟨fun _ => ha, fun _ => hab⟩
  · refine ((List.pairwise_filter.mpr (h.imp ?_)))
    intro a b hab ha hb
    exact ⟨fun h => absurd h (by simpa using hb), fun _ => hab⟩
  · intro a ha b hb
    have hfa := (List.mem_filter.mp ha).2
    have hfb := (List.mem_filter.mp hb).2
    refine ⟨fun _ => hfa, fun heq => ?_⟩
    rw [← heq, hfa] at hfb
    exact absurd hfb Bool.false_ne_true

/-- Elements that are alike in the condition stay in their order. -/
theorem sublist_front (hc : c.Sublist l) (halike : c.Pairwise fun a b => f a = f b) :
    c.Sublist (front f l) := by
  cases c with
  | nil => exact List.nil_sublist _
  | cons a rest =>
      have hall : ∀ b ∈ a :: rest, f b = f a := by
        intro b hb
        rcases List.mem_cons.mp hb with rfl | hb
        · rfl
        · exact ((List.pairwise_cons.mp halike).1 b hb).symm
      cases hfa : f a with
      | true =>
          have hkept : (a :: rest).filter f = a :: rest :=
            List.filter_eq_self.mpr fun b hb => (hall b hb).trans hfa
          rw [← hkept]
          exact (hc.filter f).trans (List.sublist_append_left _ _)
      | false =>
          have hkept : (a :: rest).filter (fun b => !f b) = a :: rest := by
            refine List.filter_eq_self.mpr ?_
            intro b hb
            rw [hall b hb, hfa]
            rfl
          rw [← hkept]
          exact (hc.filter _).trans (List.sublist_append_right _ _)

end Front

/-! ### What a group is prepared by -/

namespace EndorseRequest

variable {r : EndorseRequest} {peers listed sorted : List DiscoveredPeer} {p q : DiscoveredPeer}

/-- A peer is ignored by its organization or its name. -/
def Ignores (r : EndorseRequest) (p : DiscoveredPeer) : Prop :=
  p.mspid ∈ r.ignoreOrgs ∨ p.name ∈ r.ignorePeers

instance (r : EndorseRequest) (p : DiscoveredPeer) : Decidable (r.Ignores p) :=
  inferInstanceAs (Decidable (p.mspid ∈ r.ignoreOrgs ∨ p.name ∈ r.ignorePeers))

/-- A peer is preferred by its name or its organization. -/
def Prefers (r : EndorseRequest) (p : DiscoveredPeer) : Prop :=
  p.name ∈ r.preferredPeers ∨ p.mspid ∈ r.preferredOrgs

/-- A peer lags if a gap is given, and even with this gap its ledger, whose height is known, is
below the highest one among some peers. Heights and gaps are natural numbers here. -/
def Lags (r : EndorseRequest) (peers : List DiscoveredPeer) (p : DiscoveredPeer) : Prop :=
  ∃ gap height top, r.preferredHeightGap = some gap ∧ p.ledgerHeight = some height ∧
    (∃ q ∈ peers, q.ledgerHeight = some top) ∧
    (∀ q ∈ peers, ∀ h, q.ledgerHeight = some h → h.value.toNat ≤ top.value.toNat) ∧
    height.value.toNat + gap.toNat < top.value.toNat

/-- Two peers are alike in what counts before their heights do. -/
def Alike (r : EndorseRequest) (peers : List DiscoveredPeer) (p q : DiscoveredPeer) : Prop :=
  (r.Lags peers p ↔ r.Lags peers q) ∧ (r.Prefers p ↔ r.Prefers q)

/-- The ledger of a peer is at least as high as that of another one, if that one is known. -/
def AtLeast (p q : DiscoveredPeer) : Prop :=
  ∀ h, q.ledgerHeight = some h → ∃ h', p.ledgerHeight = some h' ∧ h.value.toNat ≤ h'.value.toNat

/-- A group as it is prepared: the peers that are not ignored, those that lag last, and among
equals those that are preferred first. If they are sorted by height, among equals again the
highest ledger is first, and what ties keeps its order. -/
structure Prepared (r : EndorseRequest) (listed prepared : List DiscoveredPeer) : Prop where
  perm : prepared.Perm (listed.filter fun p => ¬ r.Ignores p)
  laggingLast : prepared.Pairwise fun p q => r.Lags prepared p → r.Lags prepared q
  preferredFirst : prepared.Pairwise fun p q =>
    (r.Lags prepared p ↔ r.Lags prepared q) → r.Prefers q → r.Prefers p
  highestFirst : r.sort = .ledgerHeight →
    prepared.Pairwise fun p q => r.Alike prepared p q → AtLeast p q
  inOrder : r.sort = .ledgerHeight → ∀ ties : List DiscoveredPeer,
    ties.Sublist (listed.filter fun p => ¬ r.Ignores p) →
    (ties.Pairwise fun p q => r.Alike prepared p q ∧ p.ledgerHeight = q.ledgerHeight) →
    ties.Sublist prepared

/-! ### What the program computes -/

/-- The program leaves out those that are ignored. -/
theorem admits_eq (r : EndorseRequest) (p : DiscoveredPeer) :
    r.admits p = decide (¬ r.Ignores p) := by
  rw [Bool.eq_iff_iff]
  simp [admits, Ignores]

/-- The program prefers those that are preferred. -/
theorem prefers_iff : r.prefers p = true ↔ r.Prefers p := by
  simp [prefers, Prefers]

/-- Whether a peer lags depends on which peers there are, not on their order. -/
theorem lags_congr {peers' : List DiscoveredPeer} (h : peers.Perm peers') :
    r.Lags peers p ↔ r.Lags peers' p := by
  simp only [Lags, h.mem_iff]

/-- The highest ledger is one of those that are known, and no other one is above it. -/
theorem highest_eq_some_iff {top : BlockNumber} :
    DiscoveredPeer.highest peers = some top ↔
      (∃ q ∈ peers, q.ledgerHeight = some top) ∧
        ∀ q ∈ peers, ∀ h, q.ledgerHeight = some h → h.value.toNat ≤ top.value.toNat := by
  rw [DiscoveredPeer.highest, List.max?_eq_some_iff]
  simp only [List.mem_filterMap, BlockNumber.le_iff_toNat_le]
  refine and_congr_right fun _ => ?_
  constructor
  · exact fun h q hq b hb => h b ⟨q, hq, hb⟩
  · rintro h b ⟨q, hq, hb⟩
    exact h q hq b hb

/-- A peer lags for the program exactly if it does so in natural numbers, though the program
holds sums at the largest word. -/
theorem isLagging_iff :
    r.isLagging (DiscoveredPeer.highest peers) p = true ↔ r.Lags peers p := by
  constructor
  · intro h
    unfold isLagging at h
    split at h
    · next gap top height hgap htop hheight =>
      obtain ⟨hmem, hmax⟩ := highest_eq_some_iff.mp htop
      exact ⟨gap, height, top, hgap, hheight, hmem, hmax,
        BlockNumber.ahead_lt_iff.mp (of_decide_eq_true h)⟩
    · exact absurd h Bool.false_ne_true
  · rintro ⟨gap, height, top, hgap, hheight, hmem, hmax, hlt⟩
    unfold isLagging
    rw [hgap, hheight, highest_eq_some_iff.mpr ⟨hmem, hmax⟩]
    exact decide_eq_true (BlockNumber.ahead_lt_iff.mpr hlt)

/-- The program compares heights, an unknown one being the lowest. -/
theorem atLeast_iff :
    DiscoveredPeer.atLeast p.ledgerHeight q.ledgerHeight = true ↔ AtLeast p q := by
  unfold AtLeast
  cases hq : q.ledgerHeight with
  | none => cases p.ledgerHeight <;> simp [DiscoveredPeer.atLeast]
  | some b =>
      cases hp : p.ledgerHeight with
      | none => simp [DiscoveredPeer.atLeast]
      | some a => simp [DiscoveredPeer.atLeast, BlockNumber.le_iff_toNat_le]

/-- Heights can be compared one after another. -/
theorem AtLeast.trans {o : DiscoveredPeer} (h : AtLeast o p) (h' : AtLeast p q) : AtLeast o q := by
  intro b hb
  obtain ⟨a, ha, hle⟩ := h' b hb
  obtain ⟨c, hc, hle'⟩ := h a ha
  exact ⟨c, hc, Nat.le_trans hle hle'⟩

/-- Of two peers one is at least as high as the other. -/
theorem atLeast_total (p q : DiscoveredPeer) : AtLeast p q ∨ AtLeast q p := by
  cases hp : p.ledgerHeight with
  | none => exact .inr fun h hh => by rw [hp] at hh; cases hh
  | some a =>
      cases hq : q.ledgerHeight with
      | none => exact .inl fun h hh => by rw [hq] at hh; cases hh
      | some b =>
          rcases Nat.le_total b.value.toNat a.value.toNat with hle | hle
          · refine .inl fun h hh => ?_
            rw [hq] at hh
            exact ⟨a, hp, Option.some.inj hh ▸ hle⟩
          · refine .inr fun h hh => ?_
            rw [hp] at hh
            exact ⟨b, hq, Option.some.inj hh ▸ hle⟩

/-- The peers that may be asked, in the order before preferences are looked at. -/
def arranged (r : EndorseRequest) (shuffle : List DiscoveredPeer → List DiscoveredPeer)
    (listed : List DiscoveredPeer) : List DiscoveredPeer :=
  match r.sort with
  | .ledgerHeight => (listed.filter r.admits).mergeSort fun p q =>
      DiscoveredPeer.atLeast p.ledgerHeight q.ledgerHeight
  | .random => shuffle (listed.filter r.admits)

/-- Preparing a group puts the preferred peers to the front, and then those that do not lag. -/
theorem prepare_eq_front (r : EndorseRequest)
    (shuffle : List DiscoveredPeer → List DiscoveredPeer) (listed : List DiscoveredPeer) :
    r.prepare shuffle listed =
      front (fun p => !r.isLagging (DiscoveredPeer.highest (r.arranged shuffle listed)) p)
        (front r.prefers (r.arranged shuffle listed)) := by
  have hprepare : r.prepare shuffle listed =
      front r.prefers ((r.arranged shuffle listed).filter fun p =>
          !r.isLagging (DiscoveredPeer.highest (r.arranged shuffle listed)) p) ++
        front r.prefers ((r.arranged shuffle listed).filter
          (r.isLagging (DiscoveredPeer.highest (r.arranged shuffle listed)))) := by
    rw [prepare]
    simp only [List.partition_eq_filter_filter]
    rfl
  rw [hprepare]
  simp only [front, List.filter_append, List.filter_filter, Bool.and_comm, Bool.not_not]

variable {shuffle : List DiscoveredPeer → List DiscoveredPeer}

/-- Sorting and shuffling lose no peer and add none. -/
theorem arranged_perm (hshuffle : ∀ ps, (shuffle ps).Perm ps) :
    (r.arranged shuffle listed).Perm (listed.filter r.admits) := by
  unfold arranged
  split
  · exact List.mergeSort_perm _ _
  · exact hshuffle _

/-- Sorting by height puts the highest ledger first, and lets peers that are in this order
keep it. -/
theorem arranged_sorted (hsort : r.sort = .ledgerHeight) :
    (r.arranged shuffle listed).Pairwise AtLeast ∧
      ∀ c : List DiscoveredPeer, c.Sublist (listed.filter r.admits) → c.Pairwise AtLeast →
        c.Sublist (r.arranged shuffle listed) := by
  have htrans : ∀ a b c : DiscoveredPeer,
      DiscoveredPeer.atLeast a.ledgerHeight b.ledgerHeight = true →
      DiscoveredPeer.atLeast b.ledgerHeight c.ledgerHeight = true →
      DiscoveredPeer.atLeast a.ledgerHeight c.ledgerHeight = true := by
    simp only [atLeast_iff]
    exact fun _ _ _ => AtLeast.trans
  have htotal : ∀ a b : DiscoveredPeer,
      (DiscoveredPeer.atLeast a.ledgerHeight b.ledgerHeight ||
        DiscoveredPeer.atLeast b.ledgerHeight a.ledgerHeight) = true := by
    simp only [Bool.or_eq_true, atLeast_iff]
    exact atLeast_total
  rw [arranged, hsort]
  refine ⟨?_, ?_⟩
  · exact (List.pairwise_mergeSort htrans htotal _).imp atLeast_iff.mp
  · intro c hc hpairs
    exact List.sublist_mergeSort htrans htotal (hpairs.imp atLeast_iff.mpr) hc

/-- Preferences lose no peer and add none. -/
theorem prepare_perm : (r.prepare shuffle listed).Perm (r.arranged shuffle listed) := by
  rw [prepare_eq_front]
  exact (front_perm _ _).trans (front_perm _ _)

/-- Who lags for the program is who lags among the prepared peers. -/
theorem isLagging_arranged :
    r.isLagging (DiscoveredPeer.highest (r.arranged shuffle listed)) p = true ↔
      r.Lags (r.prepare shuffle listed) p := by
  rw [isLagging_iff, lags_congr prepare_perm]

/-- What does not lag is first, then what is preferred, and then what was first before. -/
theorem prepare_pairwise {R : DiscoveredPeer → DiscoveredPeer → Prop}
    (h : (r.arranged shuffle listed).Pairwise R) :
    (r.prepare shuffle listed).Pairwise fun p q =>
      (r.Lags (r.prepare shuffle listed) p → r.Lags (r.prepare shuffle listed) q) ∧
      ((r.Lags (r.prepare shuffle listed) p ↔ r.Lags (r.prepare shuffle listed) q) →
        r.Prefers q → r.Prefers p) ∧
      (r.Alike (r.prepare shuffle listed) p q → R p q) := by
  have hpairs := pairwise_front (f := fun p => !r.isLagging
    (DiscoveredPeer.highest (r.arranged shuffle listed)) p) (pairwise_front (f := r.prefers) h)
  rw [← prepare_eq_front] at hpairs
  refine hpairs.imp ?_
  intro p q
  simp only [Alike, ← isLagging_arranged, ← prefers_iff, ← Bool.eq_iff_iff]
  rintro ⟨hlevel, hrest⟩
  refine ⟨?_, fun hsame => (hrest (congrArg _ hsame)).1,
    fun hsame => (hrest (congrArg _ hsame.1)).2 hsame.2⟩
  intro hp
  rw [hp] at hlevel
  simpa using hlevel

/-- Peers that are alike stay in their order. -/
theorem sublist_prepare {c : List DiscoveredPeer} (hc : c.Sublist (r.arranged shuffle listed))
    (halike : c.Pairwise (r.Alike (r.prepare shuffle listed))) :
    c.Sublist (r.prepare shuffle listed) := by
  rw [prepare_eq_front]
  refine sublist_front (sublist_front hc (halike.imp ?_)) (halike.imp ?_)
  · intro p q h
    rw [Bool.eq_iff_iff, prefers_iff, prefers_iff]
    exact h.2
  · intro p q h
    rw [Bool.not_inj_iff, Bool.eq_iff_iff, isLagging_arranged, isLagging_arranged]
    exact h.1

/-- A group is prepared as the request wishes. -/
theorem prepare_prepared (hshuffle : ∀ ps, (shuffle ps).Perm ps)
    (listed : List DiscoveredPeer) : r.Prepared listed (r.prepare shuffle listed) := by
  have hadmits : listed.filter r.admits = listed.filter fun p => ¬ r.Ignores p :=
    List.filter_congr fun p _ => r.admits_eq p
  have hany : (r.arranged shuffle listed).Pairwise fun _ _ => True :=
    List.pairwise_of_forall fun _ _ => trivial
  refine ⟨?_, ?_, ?_, ?_, ?_⟩
  · rw [← hadmits]
    exact prepare_perm.trans (arranged_perm hshuffle)
  · exact (prepare_pairwise hany).imp fun h => h.1
  · exact (prepare_pairwise hany).imp fun h => h.2.1
  · intro hsort
    exact (prepare_pairwise (arranged_sorted hsort).1).imp fun h => h.2.2
  · intro hsort ties hsub hties
    rw [← hadmits] at hsub
    refine sublist_prepare ((arranged_sorted hsort).2 ties hsub (hties.imp ?_))
      (hties.imp fun h => h.1)
    intro p q h b hb
    exact ⟨b, h.2.trans hb, Nat.le_refl _⟩

end EndorseRequest

/-! ### The groups of a plan -/

open Endorse

/-- A candidate is listed in a group of the plan, and is not ignored. -/
theorem EndorsementPlan.mem_candidatesOf {plan : EndorsementPlan} {r : EndorseRequest}
    {shuffle : String → List DiscoveredPeer → List DiscoveredPeer}
    (hshuffle : ∀ group ps, (shuffle group ps).Perm ps) {g : String} {p : DiscoveredPeer}
    (hp : p ∈ candidatesOf (plan.prepareGroups r shuffle) g) :
    ¬ r.Ignores p ∧ ∃ g listed, plan.groups.get? g = some listed ∧ p ∈ listed := by
  rw [candidatesOf, prepareGroups, SortedMap.get?_mapValues] at hp
  cases hg : plan.groups.get? g with
  | none =>
      rw [hg] at hp
      exact absurd hp List.not_mem_nil
  | some listed =>
      rw [hg] at hp
      have hmem := (EndorseRequest.prepare_prepared (hshuffle g) listed).perm.mem_iff.mp hp
      rw [List.mem_filter, decide_eq_true_eq] at hmem
      exact ⟨hmem.2, g, listed, hg, hmem.1⟩

/-- Preparing keeps the groups of a plan and prepares each of them as the request wishes,
whatever order a group is shuffled to. The program finds out who lags without an error, though
it holds sums at the largest word. Nobody is asked who is ignored, or not listed in a group of
the plan. -/
theorem EndorsementPlan.prepareGroups_prepared (plan : EndorsementPlan) (r : EndorseRequest)
    {shuffle : String → List DiscoveredPeer → List DiscoveredPeer}
    (hshuffle : ∀ group ps, (shuffle group ps).Perm ps) :
    (plan.prepareGroups r shuffle).keys = plan.groups.keys ∧
    (∀ g listed, plan.groups.get? g = some listed → ∃ prepared,
      (plan.prepareGroups r shuffle).get? g = some prepared ∧ r.Prepared listed prepared ∧
      ∀ p, r.isLagging (DiscoveredPeer.highest prepared) p = true ↔ r.Lags prepared p) ∧
    ∀ (σ : Type) (ask : DiscoveredPeer → σ → (PeerOutcome × Nat) × σ) (elapse : Nat → σ → σ)
      (s : σ) (result : Except ActionError ProposalResults) (s' : Reporting σ),
      plan.endorse (Reporting.ask ask) (Reporting.elapse elapse) r shuffle { world := s } =
        some (result, s') →
      ∀ e ∈ s'.report, ¬ r.Ignores e.1 ∧ ∃ g listed, plan.groups.get? g = some listed ∧
        e.1 ∈ listed := by
  refine ⟨SortedMap.keys_mapValues _ _, ?_, ?_⟩
  · intro g listed hg
    refine ⟨r.prepare (shuffle g) listed, ?_, EndorseRequest.prepare_prepared (hshuffle g) listed,
      fun p => EndorseRequest.isLagging_iff⟩
    rw [prepareGroups, SortedMap.get?_mapValues, hg]
    rfl
  · intro σ ask elapse s result s' hrun
    exact forall_mem_report (fun _ _ => mem_candidatesOf hshuffle) hrun

/-- A plan of one group whose ledgers are as far from each other as they can be. -/
def EndorsementPlan.uneven : EndorsementPlan :=
  let peer (name : String) (ledgerHeight : Option BlockNumber) : DiscoveredPeer :=
    { DiscoveredPeer.sample with name, ledgerHeight }
  { chaincode := "cc"
    groups := (∅ : SortedMap String (List DiscoveredPeer)).insert "G1"
      [peer "p1:1" (some ⟨3⟩), peer "p2:1" none, peer "p3:1" (some .max)]
    layouts := [] }

/-- A request that ignores one of its peers, prefers another one, and allows every gap. -/
def EndorseRequest.lenient : EndorseRequest :=
  { ignorePeers := ["p2:1"], preferredPeers := ["p1:1"]
    preferredHeightGap := some BlockNumber.max.value, sort := .random }

/-- The preferred peer does not lag, so it comes first, wherever it was before. -/
theorem prepareGroups_uneven :
    ∃ prepared, (EndorsementPlan.uneven.prepareGroups .lenient fun _ => List.reverse).get? "G1" =
        some prepared ∧ prepared.map DiscoveredPeer.name = ["p1:1", "p3:1"] ∧
      ∀ p ∈ prepared, ¬ EndorseRequest.lenient.Lags prepared p := by
  obtain ⟨-, hgroups, -⟩ := EndorsementPlan.prepareGroups_prepared .uneven .lenient
    fun _ => List.reverse_perm
  obtain ⟨prepared, hget, -, hlags⟩ := hgroups "G1" _ rfl
  obtain rfl := Option.some.inj (hget.symm.trans rfl)
  refine ⟨_, hget, rfl, ?_⟩
  simp only [← hlags]
  decide

end LedgerClient
