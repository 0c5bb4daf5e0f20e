import LedgerClient.Proofs.Discovery.Attempts

/-!
# The search for endorsements

What the search for endorsements comes to, whatever the outside world is like. `Keeps` says
what the world has to grant: outcomes that report the peer that was asked, and a property
of the record and the world that asking and waiting keep. The search then always ends, since
every batch leaves fewer candidates that have not been asked. It has gathered what the first
layout asks for that it could satisfy, and for each layout it could not satisfy it has used
up a group.

Some properties are only kept as long as nobody is asked twice. The parameter `distinct` of
`Keeps` says whether this is so; then a group of which several peers are required must list
each peer once.

## Main results

* `Keeps.satisfyGroup`, `Keeps.satisfyLayout`, `Keeps.satisfyFirst`: what the search in a
  group, for a layout and over all layouts comes to.
* `Keeps.endorse`: what endorsing by a plan comes to.
-/

namespace LedgerClient

namespace Endorse

variable {σ : Type}

/-- The names of candidates, in order. -/
def namesOf (candidates : List DiscoveredPeer) : List String :=
  candidates.map DiscoveredPeer.name

/-- The candidates of a group; a group that is not there has none. -/
def candidatesOf (groups : SortedMap String (List DiscoveredPeer)) (group : String) :
    List DiscoveredPeer :=
  (groups.get? group).getD []

/-- The required number of names of candidates that have endorsed. -/
structure Gathered (candidates : List DiscoveredPeer) (required : Nat) (a : Attempts)
    (names : List String) : Prop where
  sublist : names.Sublist (namesOf candidates)
  length : names.length = required
  endorsed : ∀ n ∈ names, a.endorsed n = true

/-- All candidates were asked, and too few of them have endorsed. -/
structure Exhausted (candidates : List DiscoveredPeer) (required : Nat) (a : Attempts) :
    Prop where
  tried : ∀ n ∈ namesOf candidates, a.tried n = true
  count : candidates.countP (fun p => a.endorsed p.name) < required

/-- At most one candidate is required, or each one is listed once. -/
def Apart (candidates : List DiscoveredPeer) (required : Nat) : Prop :=
  required ≤ 1 ∨ (namesOf candidates).Nodup

/-- Names of candidates, no more than are required, are then distinct. -/
theorem Apart.nodup {candidates : List DiscoveredPeer} {required : Nat}
    (h : Apart candidates required) {names : List String}
    (hsub : names.Sublist (namesOf candidates)) (hlen : names.length ≤ required) :
    names.Nodup := by
  rcases h with h | h
  · match names, hlen with
    | [], _ => exact List.nodup_nil
    | [n], _ => exact List.nodup_singleton n
    | _ :: _ :: _, hlen =>
        simp only [List.length_cons] at hlen
        omega
  · exact h.sublist hsub

/-- What was gathered once is still there later. -/
theorem Gathered.mono {candidates : List DiscoveredPeer} {required : Nat} {a a' : Attempts}
    {names : List String} (h : Gathered candidates required a names) (ha : a.Extends a') :
    Gathered candidates required a' names :=
  ⟨h.sublist, h.length, fun n hn =>
    (ha.endorsed n (Attempts.tried_of_endorsed (h.endorsed n hn))).trans (h.endorsed n hn)⟩

/-- A group that was used up once is so later. -/
theorem Exhausted.mono {candidates : List DiscoveredPeer} {required : Nat} {a a' : Attempts}
    (h : Exhausted candidates required a) (ha : a.Extends a') :
    Exhausted candidates required a' where
  tried := fun n hn => ha.tried n (h.tried n hn)
  count := by
    have hsame : candidates.countP (fun p => a'.endorsed p.name) =
        candidates.countP fun p => a.endorsed p.name := by
      refine List.countP_congr ?_
      intro p hp
      rw [ha.endorsed p.name (h.tried _ (List.mem_map_of_mem hp))]
    rw [hsame]
    exact h.count

/-- At least as many candidates as required have names like those that were gathered. -/
theorem Gathered.le_countP {candidates : List DiscoveredPeer} {required : Nat} {a : Attempts}
    {names : List String} (h : Gathered candidates required a names) {like : String → Bool}
    (hlike : ∀ n ∈ names, like n = true) :
    required ≤ candidates.countP fun p => like p.name := by
  calc required = names.countP like := by rw [List.countP_eq_length.mpr hlike, h.length]
    _ ≤ (namesOf candidates).countP like := h.sublist.countP_le
    _ = candidates.countP fun p => like p.name := List.countP_map

/-! ### What the world grants -/

/-- Asking and waiting keep a property of the record and the world, which has to grant that
outcomes report the peer that was asked. If `distinct` this need only be so as long as
nobody is asked twice. -/
structure Keeps (ask : DiscoveredPeer → σ → (PeerOutcome × Nat) × σ) (elapse : Nat → σ → σ)
    (distinct : Prop) (J : Attempts → σ → Prop) : Prop where
  sound : ∀ {a s}, J a s → a.Sound
  peer : ∀ {a s} p, J a s → (ask p s).1.1.peer = p.name
  recorded : ∀ {a s} p, J a s → (distinct → a.tried p.name = false) →
    J (a.record (ask p s).1.1) (ask p s).2
  elapsed : ∀ {a s} ms, J a s → J a (elapse ms s)

variable {ask : DiscoveredPeer → σ → (PeerOutcome × Nat) × σ} {elapse : Nat → σ → σ}
variable {distinct : Prop} {J : Attempts → σ → Prop}

/-- Asking peers at once makes them peers that were asked, and concerns nobody else. -/
theorem Keeps.askAll (h : Keeps ask elapse distinct J) (batch : List DiscoveredPeer)
    (longest : Nat) {a : Attempts} {s : σ} (ha : J a s)
    (hd : distinct → (namesOf batch).Nodup ∧ ∀ p ∈ batch, a.tried p.name = false) :
    J (askAll ask elapse batch longest a s).1 (askAll ask elapse batch longest a s).2 ∧
    (∀ n, a.tried n = true → (askAll ask elapse batch longest a s).1.tried n = true) ∧
    (∀ n ∉ namesOf batch, (askAll ask elapse batch longest a s).1.endorsed n = a.endorsed n) ∧
    ∀ p ∈ batch, (askAll ask elapse batch longest a s).1.tried p.name = true := by
  induction batch generalizing longest a s with
  | nil => exact ⟨h.elapsed _ ha, fun _ => id, fun _ _ => rfl, List.forall_mem_nil _⟩
  | cons p rest ih =>
      have hp : distinct → a.tried p.name = false := fun hdist =>
        (hd hdist).2 p List.mem_cons_self
      have hask := h.recorded p ha hp
      have htried : ∀ n, (a.record (ask p s).1.1).tried n = (a.tried n || n == p.name) := by
        intro n
        rw [Attempts.tried_record, h.peer p ha]
      have hrest : distinct → (namesOf rest).Nodup ∧
          ∀ p' ∈ rest, (a.record (ask p s).1.1).tried p'.name = false := by
        intro hdist
        obtain ⟨hnodup, huntried⟩ := hd hdist
        obtain ⟨hnot, hnodup'⟩ := List.nodup_cons.mp hnodup
        refine ⟨hnodup', ?_⟩
        intro p' hp'
        have hne : p'.name ≠ p.name := fun heq =>
          hnot (heq ▸ List.mem_map_of_mem hp')
        rw [htried, huntried p' (List.mem_cons_of_mem _ hp'), Bool.false_or]
        simpa using hne
      obtain ⟨hJ, hmono, hframe, hall⟩ := ih (max longest (ask p s).1.2) hask hrest
      refine ⟨hJ, ?_, ?_, ?_⟩
      · intro n hn
        refine hmono n ?_
        rw [htried, hn, Bool.true_or]
      · intro n hn
        have hne : n ≠ p.name := fun heq => hn (heq ▸ List.mem_cons_self)
        have hnot : n ∉ namesOf rest := fun hmem => hn (List.mem_cons_of_mem _ hmem)
        refine (hframe n hnot).trans ?_
        rw [Attempts.endorsed_record, h.peer p ha, if_neg hne]
      · intro p' hp'
        rcases List.mem_cons.mp hp' with rfl | hp'
        · refine hmono _ ?_
          rw [htried]
          simp
        · exact hall p' hp'

/-- Asking peers that were not asked leaves alone what others have answered. -/
theorem Keeps.extends_askAll (h : Keeps ask elapse distinct J) {batch : List DiscoveredPeer}
    {a : Attempts} {s : σ} (ha : J a s) (hd : distinct → (namesOf batch).Nodup)
    (huntried : ∀ p ∈ batch, a.tried p.name = false) :
    a.Extends (Endorse.askAll ask elapse batch 0 a s).1 := by
  obtain ⟨-, hmono, hframe, -⟩ := h.askAll batch 0 ha fun hdist => ⟨hd hdist, huntried⟩
  refine ⟨hmono, ?_⟩
  intro n hn
  refine hframe n ?_
  intro hmem
  obtain ⟨p, hp, rfl⟩ := List.mem_map.mp hmem
  rw [huntried p hp] at hn
  exact Bool.false_ne_true hn

/-! ### One group -/

/-- The endorsements found so far are those of candidates that have endorsed. -/
theorem gathered_endorsedAmong {candidates : List DiscoveredPeer} {required : Nat}
    {a : Attempts} (h : required ≤ (endorsedAmong candidates required a).length) :
    Gathered candidates required a (endorsedAmong candidates required a) where
  sublist := (List.take_sublist _ _).trans (List.filter_sublist.map _)
  length := by
    have hle : (endorsedAmong candidates required a).length ≤ required :=
      List.length_take_le _ _
    omega
  endorsed := by
    intro n hn
    obtain ⟨p, hp, rfl⟩ := List.mem_map.mp (List.mem_of_mem_take hn)
    exact (List.mem_filter.mp hp).2

/-- If nobody is left to ask and endorsements are missing, the group is used up. -/
theorem exhausted_of_untried_eq_nil {candidates : List DiscoveredPeer} {required : Nat}
    {a : Attempts} (h : (endorsedAmong candidates required a).length < required)
    (hnil : untried candidates a = []) : Exhausted candidates required a where
  tried := by
    intro n hn
    obtain ⟨p, hp, rfl⟩ := List.mem_map.mp hn
    have := List.filter_eq_nil_iff.mp hnil p hp
    simpa using this
  count := by
    rw [endorsedAmong, List.length_take, List.length_map, ← List.countP_eq_length_filter] at h
    omega

/-- Asking somebody who was not asked leaves fewer to ask. -/
theorem length_untried_lt {candidates : List DiscoveredPeer} {a a' : Attempts}
    (ha : a.Extends a') {p : DiscoveredPeer} (hp : p ∈ untried candidates a)
    (htried : a'.tried p.name = true) :
    (untried candidates a').length < (untried candidates a).length := by
  have hsub : (untried candidates a').Sublist (untried candidates a) := by
    refine List.monotone_filter_right _ ?_
    intro p' hp'
    cases ht : a.tried p'.name with
    | false => rfl
    | true =>
        rw [ha.tried _ ht] at hp'
        exact hp'
  refine Nat.lt_of_le_of_ne hsub.length_le ?_
  intro heq
  rw [← hsub.eq_of_length heq] at hp
  have := (List.mem_filter.mp hp).2
  rw [htried] at this
  exact absurd this (by decide)

/-- The search in a group comes to its end: either it has gathered what is required, or the
group is used up. -/
theorem Keeps.satisfyGroup (h : Keeps ask elapse distinct J)
    (candidates : List DiscoveredPeer) (required : Nat)
    (hd : distinct → Apart candidates required) {a : Attempts} {s : σ} (ha : J a s) :
    ∃ found a' s', a.satisfyGroup ask elapse candidates required s = some (found, a', s') ∧
      J a' s' ∧ a.Extends a' ∧
      match found with
      | some names => Gathered candidates required a' names
      | none => Exhausted candidates required a' := by
  induction hlen : (untried candidates a).length using Nat.strongRecOn
    generalizing a s with
  | ind left ih =>
      rw [Attempts.satisfyGroup]
      by_cases henough : required ≤ (endorsedAmong candidates required a).length
      · simp only [if_pos henough]
        exact ⟨_, a, s, rfl, ha, .refl a, gathered_endorsedAmong henough⟩
      obtain ⟨lacking, hlacking⟩ : ∃ lacking,
          required - (endorsedAmong candidates required a).length = lacking + 1 :=
        ⟨_, (Nat.succ_pred_eq_of_pos (by omega)).symm⟩
      simp only [if_neg henough, hlacking]
      cases hleft : untried candidates a with
      | nil =>
          refine ⟨none, a, s, by simp, ha, .refl a, ?_⟩
          exact exhausted_of_untried_eq_nil (by omega) hleft
      | cons p rest =>
          -- The batch takes at least the first candidate that is left.
          have hsub : (p :: rest.take lacking).Sublist (untried candidates a) := by
            rw [hleft]
            exact (List.take_sublist _ _).cons_cons p
          have huntried : ∀ p' ∈ p :: rest.take lacking, a.tried p'.name = false := by
            intro p' hp'
            simpa using (List.mem_filter.mp (hsub.subset hp')).2
          have hnodup : distinct → (namesOf (p :: rest.take lacking)).Nodup := by
            intro hdist
            have hle : (namesOf (p :: rest.take lacking)).length ≤ required := by
              rw [namesOf, List.length_map, List.length_cons, List.length_take]
              omega
            have hnames := (hsub.trans List.filter_sublist).map DiscoveredPeer.name
            exact (hd hdist).nodup hnames hle
          obtain ⟨hJ, -, -, htried⟩ :=
            h.askAll _ 0 ha fun hdist => ⟨hnodup hdist, huntried⟩
          have hext := h.extends_askAll ha hnodup huntried
          have hlt := length_untried_lt hext (hleft ▸ List.mem_cons_self)
            (htried p List.mem_cons_self)
          obtain ⟨found, a', s', hrun, hJ', hext', hfound⟩ :=
            ih _ (hlen ▸ hlt) hJ rfl
          refine ⟨found, a', s', ?_, hJ', hext.trans hext', hfound⟩
          simpa using hrun

/-! ### One layout -/

/-- Adding names keeps the selected ones and adds no others. -/
theorem mem_addNew (selected names : List String) (n : String) :
    n ∈ addNew selected names ↔ n ∈ selected ∨ n ∈ names := by
  induction names generalizing selected with
  | nil => simp [addNew]
  | cons name rest ih =>
      rw [addNew, List.foldl_cons, ← addNew, ih, List.mem_cons]
      split
      · next hmem =>
        have hin : name ∈ selected := by simpa using hmem
        constructor
        · exact Or.imp_right Or.inr
        · rintro (hn | rfl | hn)
          · exact Or.inl hn
          · exact Or.inl hin
          · exact Or.inr hn
      · rw [List.mem_append, List.mem_singleton, or_assoc]

/-- For each of some groups the required number of candidates that have endorsed was chosen. -/
def Chosen (groups : SortedMap String (List DiscoveredPeer)) (a : Attempts) :
    List (String × UInt32) → List (List String) → Prop :=
  List.Forall₂ fun e names => Gathered (candidatesOf groups e.1) e.2.toNat a names

/-- The selected peers satisfy what a layout asks of some groups: in each of them as many
candidates as required have endorsed and are selected. -/
def Covers (groups : SortedMap String (List DiscoveredPeer)) (entries : List (String × UInt32))
    (a : Attempts) (selected : List String) : Prop :=
  ∀ e ∈ entries, ∃ names, Gathered (candidatesOf groups e.1) e.2.toNat a names ∧
    ∀ n ∈ names, n ∈ selected

/-- A name belongs to a candidate of one of some groups. -/
def Belongs (groups : SortedMap String (List DiscoveredPeer)) (entries : List (String × UInt32))
    (n : String) : Prop :=
  ∃ e ∈ entries, n ∈ namesOf (candidatesOf groups e.1)

/-- The results satisfy a layout: in each of its groups as many candidates as required have
responded, and nobody else has. -/
structure Satisfies (groups : SortedMap String (List DiscoveredPeer))
    (layout : SortedMap String UInt32) (results : ProposalResults) : Prop where
  enough : ∀ e ∈ layout.entries,
    e.2.toNat ≤ (candidatesOf groups e.1).countP fun p => results.responders.contains p.name
  belongs : ∀ n ∈ results.responders, Belongs groups layout.entries n

variable {groups : SortedMap String (List DiscoveredPeer)}

/-- Peers that were chosen for each group cover the groups. -/
theorem Chosen.covers {entries : List (String × UInt32)} {a : Attempts}
    {chosen : List (List String)} (h : Chosen groups a entries chosen) {selected : List String}
    (hsel : ∀ n ∈ chosen.flatten, n ∈ selected) : Covers groups entries a selected := by
  induction h with
  | nil => exact List.forall_mem_nil _
  | cons hnames _ ih =>
      rw [List.flatten_cons] at hsel
      refine List.forall_mem_cons.mpr ⟨?_, ih fun n hn => hsel n (List.mem_append_right _ hn)⟩
      exact ⟨_, hnames, fun n hn => hsel n (List.mem_append_left _ hn)⟩

/-- Who was chosen was chosen for some group. -/
theorem Chosen.exists_gathered {entries : List (String × UInt32)} {a : Attempts}
    {chosen : List (List String)} (h : Chosen groups a entries chosen) {n : String}
    (hn : n ∈ chosen.flatten) :
    ∃ e ∈ entries, ∃ names, Gathered (candidatesOf groups e.1) e.2.toNat a names ∧ n ∈ names := by
  induction h with
  | nil => exact absurd hn List.not_mem_nil
  | cons hnames _ ih =>
      rcases List.mem_append.mp hn with hn | hn
      · exact ⟨_, List.mem_cons_self, _, hnames, hn⟩
      · obtain ⟨e, he, hgathered⟩ := ih hn
        exact ⟨e, List.mem_cons_of_mem _ he, hgathered⟩

/-- Peers that were chosen for some groups belong to them. -/
theorem Chosen.belongs {entries : List (String × UInt32)} {a : Attempts}
    {chosen : List (List String)} (h : Chosen groups a entries chosen) {n : String}
    (hn : n ∈ chosen.flatten) : Belongs groups entries n := by
  obtain ⟨e, he, names, hnames, hmem⟩ := h.exists_gathered hn
  exact ⟨e, he, hnames.sublist.subset hmem⟩

/-- If the selected peers cover a layout, the results satisfy it. -/
theorem satisfies_of_covers {layout : SortedMap String UInt32} {a : Attempts}
    {selected : List String} (ha : a.Sound) (hcovers : Covers groups layout.entries a selected)
    (hbelongs : ∀ n ∈ selected, Belongs groups layout.entries n) :
    Satisfies groups layout (a.results selected) where
  enough := by
    intro e he
    obtain ⟨names, hnames, hsel⟩ := hcovers e he
    refine hnames.le_countP ?_
    intro n hn
    rw [List.contains_iff_mem, ha.mem_responders]
    exact ⟨hsel n hn, hnames.endorsed n hn⟩
  belongs := fun n hn => hbelongs n ((ha.mem_responders selected n).mp hn).1

/-- The search for a layout comes to its end: either peers were chosen for each of its groups
and are selected, or one of its groups is used up. -/
theorem Keeps.satisfyLayout (h : Keeps ask elapse distinct J)
    (entries : List (String × UInt32)) (selected : List String)
    (hd : distinct → ∀ e ∈ entries, Apart (candidatesOf groups e.1) e.2.toNat)
    {a : Attempts} {s : σ} (ha : J a s) :
    ∃ found a' s', satisfyLayout ask elapse groups entries selected a s = some (found, a', s') ∧
      J a' s' ∧ a.Extends a' ∧
      match found with
      | some selected' => ∃ chosen, Chosen groups a' entries chosen ∧
          ∀ n, n ∈ selected' ↔ n ∈ selected ∨ n ∈ chosen.flatten
      | none => ∃ e ∈ entries, Exhausted (candidatesOf groups e.1) e.2.toNat a' := by
  induction entries generalizing selected a s with
  | nil => exact ⟨some selected, a, s, rfl, ha, .refl a, [], .nil, by simp⟩
  | cons e rest ih =>
      obtain ⟨group, required⟩ := e
      obtain ⟨found, a₁, s₁, hrun, hJ₁, hext₁, hfound⟩ :=
        h.satisfyGroup (candidatesOf groups group) required.toNat
          (fun hdist => hd hdist _ List.mem_cons_self) ha
      rw [candidatesOf] at hrun
      simp only [Endorse.satisfyLayout, hrun]
      cases found with
      | none =>
          exact ⟨none, a₁, s₁, rfl, hJ₁, hext₁, _, List.mem_cons_self, hfound⟩
      | some names =>
          obtain ⟨found', a', s', hrun', hJ', hext', hfound'⟩ := ih (addNew selected names)
            (fun hdist e he => hd hdist e (List.mem_cons_of_mem _ he)) hJ₁
          refine ⟨found', a', s', hrun', hJ', hext₁.trans hext', ?_⟩
          cases found' with
          | none =>
              obtain ⟨e, he, hex⟩ := hfound'
              exact ⟨e, List.mem_cons_of_mem _ he, hex⟩
          | some selected' =>
              obtain ⟨chosen, hchosen, hsel⟩ := hfound'
              refine ⟨names :: chosen, .cons (hfound.mono hext') hchosen, ?_⟩
              intro n
              rw [hsel, mem_addNew, or_assoc, List.flatten_cons, List.mem_append]

/-! ### All layouts -/

/-- A group of the layout is used up. -/
def Failed (groups : SortedMap String (List DiscoveredPeer)) (a : Attempts)
    (layout : SortedMap String UInt32) : Prop :=
  ∃ e ∈ layout.entries, Exhausted (candidatesOf groups e.1) e.2.toNat a

/-- What has failed once has failed for good. -/
theorem Failed.mono {a a' : Attempts} {layout : SortedMap String UInt32}
    (h : Failed groups a layout) (ha : a.Extends a') : Failed groups a' layout := by
  obtain ⟨e, he, hex⟩ := h
  exact ⟨e, he, hex.mono ha⟩

/-- What the search over layouts comes to: the selected peers are those that were chosen for
some layout and those before it have failed, or all have failed. -/
def Decides (groups : SortedMap String (List DiscoveredPeer))
    (layouts : List (SortedMap String UInt32)) (a : Attempts) : Option (List String) → Prop
  | some selected => ∃ failed layout rest chosen, layouts = failed ++ layout :: rest ∧
      (∀ l ∈ failed, Failed groups a l) ∧ Chosen groups a layout.entries chosen ∧
      ∀ n, n ∈ selected ↔ n ∈ chosen.flatten
  | none => ∀ l ∈ layouts, Failed groups a l

/-- The search over layouts comes to its end and decides. -/
theorem Keeps.satisfyFirst (h : Keeps ask elapse distinct J)
    (layouts : List (SortedMap String UInt32))
    (hd : distinct → ∀ layout ∈ layouts, ∀ e ∈ layout.entries,
      Apart (candidatesOf groups e.1) e.2.toNat)
    {a : Attempts} {s : σ} (ha : J a s) :
    ∃ found a' s', satisfyFirst ask elapse groups layouts a s = some (found, a', s') ∧
      J a' s' ∧ a.Extends a' ∧ Decides groups layouts a' found := by
  induction layouts generalizing a s with
  | nil => exact ⟨none, a, s, rfl, ha, .refl a, List.forall_mem_nil _⟩
  | cons layout rest ih =>
      obtain ⟨found, a₁, s₁, hrun, hJ₁, hext₁, hfound⟩ :=
        h.satisfyLayout layout.entries [] (fun hdist => hd hdist _ List.mem_cons_self) ha
      rw [Endorse.satisfyFirst, hrun]
      cases found with
      | some selected =>
          obtain ⟨chosen, hchosen, hsel⟩ := hfound
          refine ⟨some selected, a₁, s₁, rfl, hJ₁, hext₁, [], layout, rest, chosen, rfl,
            List.forall_mem_nil _, hchosen, ?_⟩
          intro n
          rw [hsel n, or_iff_right List.not_mem_nil]
      | none =>
          obtain ⟨found', a', s', hrun', hJ', hext', hdecides⟩ :=
            ih (fun hdist l hl => hd hdist l (List.mem_cons_of_mem _ hl)) hJ₁
          have hfailed : Failed groups a' layout := Failed.mono hfound hext'
          refine ⟨found', a', s', hrun', hJ', hext₁.trans hext', ?_⟩
          cases found' with
          | some selected =>
              obtain ⟨failed, l, rest', chosen, rfl, hall, hchosen⟩ := hdecides
              exact ⟨layout :: failed, l, rest', chosen, rfl,
                List.forall_mem_cons.mpr ⟨hfailed, hall⟩, hchosen⟩
          | none => exact List.forall_mem_cons.mpr ⟨hfailed, hdecides⟩

/-! ### Endorsing by a plan -/

/-- What endorsing answers when the search has decided. -/
def answer (a : Attempts) : Option (List String) → Except ActionError ProposalResults
  | some selected => .ok (a.results selected)
  | none => .error (.endorsementFailed "No endorsement plan layout could be satisfied"
      (a.results []).errors)

/-- Endorsing by a plan comes to its end, with what the search decides. -/
theorem Keeps.endorse (h : Keeps ask elapse distinct J) (plan : EndorsementPlan)
    (r : EndorseRequest) (shuffle : String → List DiscoveredPeer → List DiscoveredPeer)
    (hd : distinct → ∀ layout ∈ plan.layouts, ∀ e ∈ layout.entries,
      Apart (candidatesOf (plan.prepareGroups r shuffle) e.1) e.2.toNat)
    {s : σ} (hs : J {} s) :
    ∃ found a' s', plan.endorse ask elapse r shuffle s = some (answer a' found, s') ∧
      J a' s' ∧ Decides (plan.prepareGroups r shuffle) plan.layouts a' found := by
  obtain ⟨found, a', s', hrun, hJ, -, hdecides⟩ := h.satisfyFirst plan.layouts hd hs
  refine ⟨found, a', s', ?_, hJ, hdecides⟩
  rw [EndorsementPlan.endorse, hrun]
  cases found with
  | some selected => rfl
  | none => rfl

end Endorse

end LedgerClient
