import Mathlib.Data.List.Forall2

/-!
# Steps that may fail

A chain of steps succeeds if each of them does, and fails as the first of them that fails. The
same holds of one step that is taken for each of some values.

## Main results

* `bind_eq_ok_iff`, `bind_eq_error_iff`: one step after another.
* `mapM_eq_ok_iff`, `mapM_eq_error_iff`: a step for each of some values.
-/

namespace LedgerClient

variable {ε δ α β : Type}

/-! ### One step after another -/

/-- Two steps succeed if the first does and the second does with its outcome. -/
theorem bind_eq_ok_iff {x : Except ε α} {f : α → Except ε β} {b : β} :
    x >>= f = .ok b ↔ ∃ a, x = .ok a ∧ f a = .ok b := by
  cases x <;> simp [bind, Except.bind]

/-- A step succeeds however its failures are reported. -/
theorem mapError_eq_ok_iff {x : Except ε α} {f : ε → δ} {a : α} :
    x.mapError f = .ok a ↔ x = .ok a := by
  cases x with
  | error e => constructor <;> intro h <;> cases h
  | ok a' => constructor <;> intro h <;> cases h <;> rfl

/-- A step followed by a function succeeds if the step does. -/
theorem map_eq_ok_iff {x : Except ε α} {f : α → β} {b : β} :
    f <$> x = .ok b ↔ ∃ a, x = .ok a ∧ f a = b := by
  cases x <;> simp [Functor.map, Except.map]

/-- Two steps fail if the first does, or if the second does with its outcome. -/
theorem bind_eq_error_iff {x : Except ε α} {e : ε} :
    x >>= f = .error e ↔ x = .error e ∨ ∃ a, x = .ok a ∧ f a = .error e := by
  cases x <;> simp [bind, Except.bind]

/-- A step followed by a function fails as the step does. -/
theorem map_eq_error_iff {x : Except ε α} {f : α → β} {e : ε} :
    f <$> x = .error e ↔ x = .error e := by
  cases x <;> simp [Functor.map, Except.map]

/-! ### A step for each of some values -/

/-- Two lists that are made of the same one are related if their entries are. -/
theorem forall₂_map_map {α β γ : Type} {R : β → γ → Prop} {f : α → β} {g : α → γ} {xs : List α}
    (h : ∀ x ∈ xs, R (f x) (g x)) : List.Forall₂ R (xs.map f) (xs.map g) :=
  List.forall₂_map_left_iff.mpr (List.forall₂_map_right_iff.mpr (List.forall₂_same.mpr h))

/-- Where two lists are related element by element, each element of the second one stands beside
one of the first. -/
theorem exists_mem_of_forall₂ {R : α → β → Prop} {xs : List α} {ys : List β}
    (h : List.Forall₂ R xs ys) {y : β} (hy : y ∈ ys) : ∃ x ∈ xs, R x y := by
  induction h with
  | nil => cases hy
  | @cons x y' xs ys hxy _ ih =>
      rcases List.mem_cons.mp hy with rfl | hy
      · exact ⟨x, List.mem_cons_self, hxy⟩
      · obtain ⟨x', hx', hR⟩ := ih hy
        exact ⟨x', List.mem_cons_of_mem x hx', hR⟩

section Many

variable {f : α → Except ε β} {xs : List α}

/-- A step for each of some values succeeds if each of the steps does, with their outcomes in
order. -/
theorem mapM_eq_ok_iff {ys : List β} :
    xs.mapM f = .ok ys ↔ List.Forall₂ (fun x y => f x = .ok y) xs ys := by
  induction xs generalizing ys with
  | nil =>
      rw [List.forall₂_nil_left_iff]
      exact ⟨fun h => (Except.ok.inj h).symm, fun h => congrArg Except.ok h.symm⟩
  | cons x rest ih =>
      rw [List.mapM_cons, List.forall₂_cons_left_iff, bind_eq_ok_iff]
      constructor
      · rintro ⟨y, hy, h⟩
        obtain ⟨tail, htail, h⟩ := bind_eq_ok_iff.mp h
        exact ⟨y, tail, hy, ih.mp htail, (Except.ok.inj h).symm⟩
      · rintro ⟨y, tail, hy, htail, rfl⟩
        exact ⟨y, hy, bind_eq_ok_iff.mpr ⟨tail, ih.mpr htail, rfl⟩⟩

/-- Steps that read back what was written one by one read back the whole list. -/
theorem mapM_map_eq_ok {γ : Type} {g : γ → α} {r : γ → β} {zs : List γ}
    (h : ∀ z ∈ zs, f (g z) = .ok (r z)) : (zs.map g).mapM f = .ok (zs.map r) := by
  rw [mapM_eq_ok_iff]
  exact forall₂_map_map h

/-- The outcomes are there exactly if each of the steps has one. -/
theorem exists_mapM_eq_ok_iff : (∃ ys, xs.mapM f = .ok ys) ↔ ∀ x ∈ xs, ∃ y, f x = .ok y := by
  simp only [mapM_eq_ok_iff]
  constructor
  · rintro ⟨ys, h⟩ x hx
    obtain ⟨i, hi, rfl⟩ := List.getElem_of_mem hx
    exact ⟨_, (List.forall₂_iff_get.mp h).2 i hi (h.length_eq ▸ hi)⟩
  · intro h
    induction xs with
    | nil => exact ⟨[], .nil⟩
    | cons x rest ih =>
        obtain ⟨⟨y, hy⟩, hrest⟩ := List.forall_mem_cons.mp h
        obtain ⟨ys, hys⟩ := ih hrest
        exact ⟨y :: ys, .cons hy hys⟩

/-- A step for each of some values fails as the first of them that fails. -/
theorem mapM_eq_error_iff {e : ε} :
    xs.mapM f = .error e ↔ ∃ before x after, xs = before ++ x :: after ∧
      (∀ y ∈ before, ∃ z, f y = .ok z) ∧ f x = .error e := by
  induction xs with
  | nil => simp [pure, Except.pure]
  | cons first rest ih =>
      rw [List.mapM_cons, bind_eq_error_iff]
      constructor
      · rintro (h | ⟨z, hz, h⟩)
        · exact ⟨[], first, rest, rfl, List.forall_mem_nil _, h⟩
        · obtain h | ⟨zs, -, h⟩ := bind_eq_error_iff.mp h
          · obtain ⟨before, x, after, rfl, hbefore, hx⟩ := ih.mp h
            exact ⟨first :: before, x, after, rfl,
              List.forall_mem_cons.mpr ⟨⟨z, hz⟩, hbefore⟩, hx⟩
          · cases h
      · rintro ⟨before, x, after, hsplit, hbefore, hx⟩
        cases before with
        | nil =>
            cases hsplit
            exact .inl hx
        | cons b before =>
            cases hsplit
            obtain ⟨⟨z, hz⟩, hbefore⟩ := List.forall_mem_cons.mp hbefore
            exact .inr ⟨z, hz, bind_eq_error_iff.mpr
              (.inl (ih.mpr ⟨before, x, after, rfl, hbefore, hx⟩))⟩

end Many

end LedgerClient
