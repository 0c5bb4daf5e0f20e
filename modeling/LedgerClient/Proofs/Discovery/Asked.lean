import LedgerClient.Proofs.Discovery.Simulation

/-!
# Who is asked

Writing down whom a search asks, and what it comes to in a world whose answers are fixed:
each peer either endorses or does not, whenever it is asked.

## Main results

* `Endorse.endorse_of_noting`: writing down whom it asks does not change what a search does.
* `Endorse.Steady.endorse_decides`: in a steady world the first layout in order that can be
  satisfied is satisfied.
-/

namespace LedgerClient

namespace Endorse

variable {σ : Type}

/-- Asks, and writes down whom. -/
def noting (ask : DiscoveredPeer → σ → (PeerOutcome × Nat) × σ) (p : DiscoveredPeer)
    (s : σ × List String) : (PeerOutcome × Nat) × (σ × List String) :=
  ((ask p s.1).1, ((ask p s.1).2, s.2 ++ [p.name]))

/-- Lets time pass beside what was written down. -/
def beside (elapse : Nat → σ → σ) (ms : Nat) (s : σ × List String) : σ × List String :=
  (elapse ms s.1, s.2)

variable {ask : DiscoveredPeer → σ → (PeerOutcome × Nat) × σ} {elapse : Nat → σ → σ}

/-- What is written down concerns neither peers nor time. -/
theorem simulates_of_noting (ask : DiscoveredPeer → σ → (PeerOutcome × Nat) × σ)
    (elapse : Nat → σ → σ) :
    Simulates (fun _ => True) (fun s s' => s.1 = s') (noting ask) (beside elapse) ask elapse where
  answer := by
    rintro s _ p - rfl
    rfl
  asked := by
    rintro s _ p - rfl
    rfl
  elapsed := by
    rintro s _ ms rfl
    rfl

/-- Endorsing by a plan does the same whether it is written down or not. -/
theorem endorse_of_noting {plan : EndorsementPlan} {r : EndorseRequest}
    {shuffle : String → List DiscoveredPeer → List DiscoveredPeer} {s s' : σ × List String}
    {result : Except ActionError ProposalResults}
    (h : plan.endorse (noting ask) (beside elapse) r shuffle s = some (result, s')) :
    plan.endorse ask elapse r shuffle s.1 = some (result, s'.1) := by
  obtain ⟨_, hrun, rfl⟩ :=
    (simulates_of_noting ask elapse).endorse (fun _ _ _ => trivial) rfl h
  exact hrun

/-! ### Steady worlds -/

/-- Whether a peer endorses does not change: each outcome reports the peer that was asked,
and is a response without error exactly if `endorses` says so, as long as `I` holds of the
world; asking and waiting keep it so. -/
structure Steady (ask : DiscoveredPeer → σ → (PeerOutcome × Nat) × σ) (elapse : Nat → σ → σ)
    (endorses : DiscoveredPeer → Bool) (I : σ → Prop) : Prop where
  peer : ∀ {s} p, I s → (ask p s).1.1.peer = p.name
  outcome : ∀ {s} p, I s → (ask p s).1.1.endorses = endorses p
  congr : ∀ {p p'}, p.name = p'.name → endorses p = endorses p'
  asked : ∀ {s} p, I s → I (ask p s).2
  elapsed : ∀ {s} ms, I s → I (elapse ms s)

/-- The record of a search in a steady world: those were asked that were written down, and
those of them have endorsed who do. -/
structure Known (endorses : DiscoveredPeer → Bool) (I : σ → Prop) (a : Attempts)
    (s : σ × List String) : Prop where
  sound : a.Sound
  tried : ∀ n, a.tried n = true ↔ n ∈ s.2
  endorsed : ∀ p : DiscoveredPeer, a.endorsed p.name = (a.tried p.name && endorses p)
  world : I s.1

variable {endorses : DiscoveredPeer → Bool} {I : σ → Prop}

/-- At the beginning nobody was asked. -/
theorem Known.empty {s : σ} (hs : I s) : Known endorses I {} (s, []) where
  sound := .empty
  tried := by
    intro n
    rw [Attempts.tried_iff]
    rfl
  endorsed := fun _ => rfl
  world := hs

/-- A steady world keeps what is known. -/
theorem Steady.keeps (h : Steady ask elapse endorses I) :
    Keeps (noting ask) (beside elapse) False (Known endorses I) where
  sound := Known.sound
  peer := fun p hk => h.peer p hk.world
  recorded := by
    intro a s p hk _
    have hpeer := h.peer p hk.world
    refine ⟨hk.sound.record _, ?_, ?_, h.asked p hk.world⟩
    · intro n
      simp only [noting, Attempts.tried_record, hpeer, Bool.or_eq_true, hk.tried, beq_iff_eq,
        List.mem_append, List.mem_singleton]
    · intro p'
      simp only [noting, Attempts.tried_record, Attempts.endorsed_record, hpeer]
      split
      · next heq =>
        rw [h.outcome p hk.world, h.congr heq]
        simp [heq]
      · next hne =>
        rw [hk.endorsed p', beq_false_of_ne hne, Bool.or_false]
  elapsed := fun ms hk => ⟨hk.sound, hk.tried, hk.endorsed, h.elapsed ms hk.world⟩

/-- Whether each group of a layout has as many candidates that endorse as it requires. -/
def satisfiable (groups : SortedMap String (List DiscoveredPeer))
    (endorses : DiscoveredPeer → Bool) (layout : SortedMap String UInt32) : Bool :=
  layout.entries.all fun e => e.2.toNat ≤ (candidatesOf groups e.1).countP endorses

variable {groups : SortedMap String (List DiscoveredPeer)} {layout : SortedMap String UInt32}
variable {a : Attempts} {s : σ × List String}

/-- A layout that was satisfied can be satisfied. -/
theorem Known.satisfiable_of_covers (hk : Known endorses I a s) {selected : List String}
    (hcovers : Covers groups layout.entries a selected) :
    satisfiable groups endorses layout = true := by
  rw [satisfiable, List.all_eq_true]
  intro e he
  obtain ⟨names, hnames, -⟩ := hcovers e he
  have hle := hnames.le_countP hnames.endorsed
  have hmono : (candidatesOf groups e.1).countP (fun p => a.endorsed p.name) ≤
      (candidatesOf groups e.1).countP endorses := by
    refine List.countP_mono_left ?_
    intro p _ hp
    rw [hk.endorsed p, Bool.and_eq_true] at hp
    exact hp.2
  simpa using Nat.le_trans hle hmono

/-- A layout that has failed cannot be satisfied. -/
theorem Known.not_satisfiable_of_failed (hk : Known endorses I a s)
    (h : Failed groups a layout) : satisfiable groups endorses layout = false := by
  obtain ⟨e, he, hex⟩ := h
  rw [satisfiable, List.all_eq_false]
  refine ⟨e, he, ?_⟩
  have heq : (candidatesOf groups e.1).countP endorses =
      (candidatesOf groups e.1).countP fun p => a.endorsed p.name := by
    refine List.countP_congr ?_
    intro p hp
    rw [hk.endorsed p, hex.tried p.name (List.mem_map_of_mem hp), Bool.true_and]
  have hlt := hex.count
  rw [← heq] at hlt
  simpa using hlt

/-- In a steady world endorsing by a plan comes to its end. If some layout can be satisfied,
the results satisfy the first such layout in order. Otherwise endorsing fails, and in every
layout there is a group all of whose candidates were asked. -/
theorem Steady.endorse_decides (h : Steady ask elapse endorses I) (plan : EndorsementPlan)
    (r : EndorseRequest) (shuffle : String → List DiscoveredPeer → List DiscoveredPeer) {s : σ}
    (hs : I s) :
    ∃ result s' asked, plan.endorse (noting ask) (beside elapse) r shuffle (s, []) =
        some (result, s', asked) ∧ I s' ∧
      match plan.layouts.find? (satisfiable (plan.prepareGroups r shuffle) endorses) with
      | some layout => ∃ results, result = .ok results ∧
          Satisfies (plan.prepareGroups r shuffle) layout results
      | none => (∃ reason failures, result = .error (.endorsementFailed reason failures)) ∧
          ∀ layout ∈ plan.layouts, ∃ e ∈ layout.entries,
            ∀ p ∈ candidatesOf (plan.prepareGroups r shuffle) e.1, p.name ∈ asked := by
  obtain ⟨found, a, ⟨s', asked⟩, hrun, hk, hdecides⟩ :=
    h.keeps.endorse plan r shuffle False.elim (Known.empty hs)
  refine ⟨answer a found, s', asked, hrun, hk.world, ?_⟩
  cases found with
  | some selected =>
      obtain ⟨failed, layout, rest, chosen, hlayouts, hfailed, hchosen, hsel⟩ := hdecides
      have hcovers := hchosen.covers fun n hn => (hsel n).mpr hn
      have hbelongs : ∀ n ∈ selected, Belongs _ layout.entries n :=
        fun n hn => hchosen.belongs ((hsel n).mp hn)
      have hfind : plan.layouts.find? (satisfiable (plan.prepareGroups r shuffle) endorses) =
          some layout := by
        have hnone : failed.find? (satisfiable (plan.prepareGroups r shuffle) endorses) = none := by
          refine List.find?_eq_none.mpr ?_
          intro l hl
          rw [hk.not_satisfiable_of_failed (hfailed l hl)]
          exact Bool.false_ne_true
        rw [hlayouts, List.find?_append, hnone, Option.none_or,
          List.find?_cons_of_pos (hk.satisfiable_of_covers hcovers)]
      rw [hfind]
      exact ⟨_, rfl, satisfies_of_covers hk.sound hcovers hbelongs⟩
  | none =>
      have hfind : plan.layouts.find? (satisfiable (plan.prepareGroups r shuffle) endorses) =
          none := by
        refine List.find?_eq_none.mpr ?_
        intro l hl
        rw [hk.not_satisfiable_of_failed (hdecides l hl)]
        exact Bool.false_ne_true
      rw [hfind]
      refine ⟨⟨_, _, rfl⟩, ?_⟩
      intro layout hlayout
      obtain ⟨e, he, hex⟩ := hdecides layout hlayout
      refine ⟨e, he, ?_⟩
      intro p hp
      exact (hk.tried p.name).mp (hex.tried _ (List.mem_map_of_mem hp))

end Endorse

end LedgerClient
