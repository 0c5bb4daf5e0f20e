import LedgerClient.Proofs.Codec.Law

/-!
# The laws of a choice

A type with several variants is written as the position of a variant and its content. The
laws hold if every value belongs to a variant, none to two, and each variant builds the very
values it recognises.

## Main results

* `Codec.Lawful.enumeration`: a type without data of its own.
* `Codec.Lawful.choice`: a type with several variants.
-/

namespace LedgerClient.Codec

variable {α : Type}

/-! ### Types without data of their own -/

/-- The position of a value stands for the value, if every value has a position. -/
theorem Lawful.enumeration [BEq α] [LawfulBEq α] {values : List α} (mem : ∀ a, a ∈ values)
    (count : values.length ≤ capacity 4 := by decide) : (enumeration values).Lawful where
  decode_encode {a} _ tail := by
    have hindex : values.idxOf a < values.length := List.idxOf_lt_length_of_mem (mem a)
    have hvalue : values[values.idxOf a]? = some a := by
      rw [List.getElem?_eq_getElem hindex, List.getElem_idxOf hindex]
    exact enumeration_decode_eq_ok_iff.2
      ⟨_, readLow_writeLow (Nat.lt_of_lt_of_le hindex count) tail, hvalue⟩
  fits_of_decode {_ _ a} _ := List.contains_iff_mem.2 (mem a)
  fits_of_length {a} _ := List.contains_iff_mem.2 (mem a)
  encode_ne_nil _ := List.cons_ne_nil _ _

/-! ### Types with several variants -/

/-- What a variant of a type owes the type: it recognises exactly the values it builds, and
its content is read as it was written. -/
structure Variant.Sound (v : Variant α) : Prop where
  project_eq_some_iff : ∀ a content, v.project a = some content ↔ a = v.inject content
  faithful : v.codec.Faithful

/-- Variants among which every value of the type finds exactly one. -/
structure Partitions (variants : List (Variant α)) : Prop where
  covers : ∀ a, ∃ v ∈ variants, (v.project a).isSome
  apart : variants.Pairwise fun v w => ∀ content, v.project (w.inject content) = none

section Variants

variable {variants : List (Variant α)}

/-- A value is written as the first variant that recognises it. -/
theorem exists_writeVariant {a : α} (h : ∃ v ∈ variants, (v.project a).isSome) (start : Nat) :
    ∃ i v content, variants[i]? = some v ∧ v.project a = some content ∧
      writeVariant a start variants = writeLow 4 (start + i) ++ v.codec.encode content ∧
      (FitsVariant a variants ↔ v.codec.Fits content) := by
  induction variants generalizing start with
  | nil =>
      obtain ⟨v, hv, -⟩ := h
      exact absurd hv List.not_mem_nil
  | cons v rest ih =>
      cases hproject : v.project a with
      | some content =>
          refine ⟨0, v, content, rfl, hproject, ?_, ?_⟩
          · rw [writeVariant, hproject]
            rfl
          · rw [FitsVariant, hproject]
      | none =>
          have hrest : ∃ w ∈ rest, (w.project a).isSome := by
            obtain ⟨w, hw, hsome⟩ := h
            rcases List.mem_cons.1 hw with rfl | hw
            · rw [hproject] at hsome
              cases hsome
            · exact ⟨w, hw, hsome⟩
          obtain ⟨i, w, content, hw, hcontent, hwrite, hfits⟩ := ih hrest (start + 1)
          refine ⟨i + 1, w, content, hw, hcontent, ?_, ?_⟩
          · rw [writeVariant, hproject, show start + (i + 1) = start + 1 + i by omega]
            exact hwrite
          · rw [FitsVariant, hproject]
            exact hfits

/-- What a variant builds fits if its content does: no earlier variant takes it. -/
theorem fitsVariant_inject
    (apart : variants.Pairwise fun v w => ∀ content, v.project (w.inject content) = none)
    {i : Nat} {v : Variant α} (hv : variants[i]? = some v) (sound : v.Sound)
    (content : v.Content) : FitsVariant (v.inject content) variants ↔ v.codec.Fits content := by
  induction variants generalizing i with
  | nil => cases hv
  | cons w rest ih =>
      obtain ⟨hhead, hrest⟩ := List.pairwise_cons.1 apart
      cases i with
      | zero =>
          cases hv
          rw [FitsVariant, (sound.project_eq_some_iff _ content).2 rfl]
      | succ i =>
          rw [List.getElem?_cons_succ] at hv
          rw [FitsVariant, hhead v (List.mem_of_getElem? hv) content]
          exact ih hrest hv

/-- Values of a type with several variants are read back as the variants read their contents. -/
theorem Lawful.choice (sound : ∀ v ∈ variants, v.Sound) (partitions : Partitions variants)
    (count : variants.length ≤ capacity 4 := by decide) : (choice variants).Lawful where
  decode_encode {a} h tail := by
    obtain ⟨i, v, content, hv, hproject, hwrite, hfits⟩ :=
      exists_writeVariant (partitions.covers a) 0
    have hsound : v.Sound := sound v (List.mem_of_getElem? hv)
    have hindex : i < capacity 4 :=
      Nat.lt_of_lt_of_le (List.getElem?_eq_some_iff.1 hv).1 count
    change (Codec.choice variants).decode (writeVariant a 0 variants ++ tail) = .ok (a, tail)
    rw [hwrite, Nat.zero_add, List.append_assoc]
    exact choice_decode_eq_ok_iff.2 ⟨i, v, _, content, readLow_writeLow hindex _, hv,
      hsound.faithful.decode_encode (hfits.1 h) tail,
      ((hsound.project_eq_some_iff a content).1 hproject).symm⟩
  fits_of_decode h := by
    obtain ⟨i, v, mid, content, -, hv, hcontent, rfl⟩ := choice_decode_eq_ok_iff.1 h
    have hsound : v.Sound := sound v (List.mem_of_getElem? hv)
    exact (fitsVariant_inject partitions.apart hv hsound content).2
      (hsound.faithful.fits_of_decode hcontent)
  fits_of_length {a} h := by
    obtain ⟨i, v, content, hv, -, hwrite, hfits⟩ := exists_writeVariant (partitions.covers a) 0
    change (writeVariant a 0 variants).length < capacity 8 at h
    rw [hwrite, List.length_append] at h
    exact hfits.2 ((sound v (List.mem_of_getElem? hv)).faithful.fits_of_length (by omega))
  encode_ne_nil a := by
    obtain ⟨i, v, content, -, -, hwrite, -⟩ := exists_writeVariant (partitions.covers a) 0
    change writeVariant a 0 variants ≠ []
    rw [hwrite]
    exact List.append_ne_nil_of_left_ne_nil (List.cons_ne_nil _ _) _

end Variants

/-- A variant may be written as its position alone. -/
theorem Faithful.unit : unit.Faithful where
  decode_encode _ _ := rfl
  fits_of_decode _ := trivial
  fits_of_length _ := trivial

end LedgerClient.Codec
