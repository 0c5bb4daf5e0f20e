import LedgerClient.Proofs.Codec.Choice
import LedgerClient.Proofs.Codec.Reading

/-!
# One encoding for each value

A codec is canonical if it accepts for each value only the bytes that it writes for it. The
combinators hand this on from the parts to the whole. Maps are the exception: their entries are
read in any order.

## Main results

* `Codec.Canonical.record`, `Codec.Canonical.list`, `Codec.Canonical.choice`, …: what is canonical.
-/

namespace LedgerClient.Codec

variable {α β : Type}

/-- A value is read only from the bytes that are written for it. -/
class Canonical (c : Codec α) : Prop where
  eq_encode_append : ∀ {bytes rest : Bytes} {a : α},
    c.decode bytes = .ok (a, rest) → bytes = c.encode a ++ rest

namespace Canonical

/-! ### Words and texts -/

/-- Words are written as the numbers they stand for. -/
theorem word {width : Nat} {pack : Nat → α} {unpack : α → Nat}
    (unpack_pack : ∀ n < capacity width, unpack (pack n) = n) :
    ((fixed width).iso pack unpack).Canonical where
  eq_encode_append {bytes rest a} h := by
    obtain ⟨n, hn, rfl⟩ := iso_decode_eq_ok_iff.1 h
    obtain ⟨hlt, rfl⟩ := readLow_eq_ok_iff.1 hn
    change _ = writeLow width (unpack (pack n)) ++ rest
    rw [unpack_pack n hlt]

instance u8 : u8.Canonical := .word fun _ => UInt8.toNat_ofNat_of_lt'

instance u16 : u16.Canonical := .word fun _ => UInt16.toNat_ofNat_of_lt'

instance u32 : u32.Canonical := .word fun _ => UInt32.toNat_ofNat_of_lt'

instance u64 : u64.Canonical := .word fun _ => UInt64.toNat_ofNat_of_lt'

/-- The fields of a record are read as a tuple. -/
theorem record {c : Codec α} {pack : α → β} {unpack : β → α}
    (hc : c.Canonical := by infer_instance)
    (unpack_pack : ∀ a, unpack (pack a) = a := by intro a; rfl) :
    (c.iso pack unpack).Canonical where
  eq_encode_append {bytes rest b} h := by
    obtain ⟨a, ha, rfl⟩ := iso_decode_eq_ok_iff.1 h
    change bytes = c.encode (unpack (pack a)) ++ rest
    rw [unpack_pack, ← hc.eq_encode_append ha]

instance i32 : i32.Canonical := .record

instance i64 : i64.Canonical := .record

instance bool : bool.Canonical where
  eq_encode_append {bytes rest b} h := by
    cases bytes with
    | nil => cases h
    | cons byte bytes =>
        simp only [Codec.bool] at h
        split at h
        · next hbyte =>
          cases h
          rw [hbyte]
          rfl
        split at h
        · next hbyte =>
          cases h
          rw [hbyte]
          rfl
        · cases h

instance text : text.Canonical where
  eq_encode_append {bytes rest s} h := by
    obtain ⟨-, rfl⟩ := readLow_eq_ok_iff.1 (text_decode_eq_ok_iff.1 h)
    exact (List.append_assoc ..).symm

/-! ### Sequences -/

section Sequences

variable {c : Codec α}

/-- As many values are read as were asked for, from the bytes written for them. -/
theorem eq_flatMap_append [hc : c.Canonical] {count : Nat} {bytes rest : Bytes} {as : List α}
    (h : readMany c count bytes = .ok (as, rest)) :
    as.length = count ∧ bytes = as.flatMap c.encode ++ rest := by
  induction count generalizing bytes as with
  | zero =>
      cases h
      exact ⟨rfl, rfl⟩
  | succ count ih =>
      obtain ⟨a, as', mid, rfl, ha, has⟩ := readMany_succ_eq_ok_iff.1 h
      obtain ⟨hlength, hmid⟩ := ih has
      refine ⟨by rw [List.length_cons, hlength], ?_⟩
      rw [hc.eq_encode_append ha, hmid, List.flatMap_cons, List.append_assoc]

instance list [c.Canonical] : (list c).Canonical where
  eq_encode_append {bytes rest as} h := by
    obtain ⟨n, mid, hn, has⟩ := list_decode_eq_ok_iff.1 h
    obtain ⟨-, rfl⟩ := readLow_eq_ok_iff.1 hn
    obtain ⟨rfl, rfl⟩ := eq_flatMap_append has
    exact (List.append_assoc ..).symm

instance bytes : bytes.Canonical := Canonical.list

instance option [hc : c.Canonical] : (option c).Canonical where
  eq_encode_append {bytes rest o} h := by
    obtain ⟨rfl, rfl⟩ | ⟨a, mid, rfl, rfl, ha⟩ := option_decode_eq_ok_iff.1 h
    · rfl
    · rw [hc.eq_encode_append ha]
      rfl

instance pair {d : Codec β} [hc : c.Canonical] [hd : d.Canonical] : (c.pair d).Canonical where
  eq_encode_append {bytes rest p} h := by
    obtain ⟨mid, ha, hb⟩ := pair_decode_eq_ok_iff.1 h
    rw [hc.eq_encode_append ha, hd.eq_encode_append hb]
    exact (List.append_assoc ..).symm

end Sequences

/-! ### Choices -/

instance unit : unit.Canonical where
  eq_encode_append h := by
    cases h
    rfl

/-- A position belongs to one value if no value has two positions. -/
theorem enumeration [BEq α] [LawfulBEq α] {values : List α}
    (nodup : values.Nodup := by decide) : (enumeration values).Canonical where
  eq_encode_append {bytes rest a} h := by
    obtain ⟨i, hi, ha⟩ := enumeration_decode_eq_ok_iff.1 h
    obtain ⟨-, rfl⟩ := readLow_eq_ok_iff.1 hi
    obtain ⟨hlt, rfl⟩ := List.getElem?_eq_some_iff.1 ha
    change _ = writeLow 4 (values.idxOf values[i]) ++ rest
    rw [nodup.idxOf_getElem]

/-- What a variant builds is written as the position of this variant. -/
theorem writeVariant_inject {variants : List (Variant α)}
    (apart : variants.Pairwise fun v w => ∀ content, v.project (w.inject content) = none)
    {i : Nat} {v : Variant α} (hv : variants[i]? = some v) (sound : v.Sound)
    (content : v.Content) (start : Nat) :
    writeVariant (v.inject content) start variants =
      writeLow 4 (start + i) ++ v.codec.encode content := by
  induction variants generalizing i start with
  | nil => cases hv
  | cons w rest ih =>
      obtain ⟨hhead, hrest⟩ := List.pairwise_cons.1 apart
      cases i with
      | zero =>
          cases hv
          rw [writeVariant, (sound.project_eq_some_iff _ content).2 rfl]
          rfl
      | succ i =>
          rw [List.getElem?_cons_succ] at hv
          rw [writeVariant, hhead v (List.mem_of_getElem? hv) content]
          rw [show start + (i + 1) = start + 1 + i by omega]
          exact ih hrest hv (start + 1)

/-- A type with several variants is canonical if their contents are. -/
theorem choice {variants : List (Variant α)} (sound : ∀ v ∈ variants, v.Sound)
    (partitions : Partitions variants) (contents : ∀ v ∈ variants, v.codec.Canonical) :
    (choice variants).Canonical where
  eq_encode_append {bytes rest a} h := by
    obtain ⟨i, v, mid, content, hi, hv, hcontent, rfl⟩ := choice_decode_eq_ok_iff.1 h
    have hmem : v ∈ variants := List.mem_of_getElem? hv
    obtain ⟨-, rfl⟩ := readLow_eq_ok_iff.1 hi
    rw [(contents v hmem).eq_encode_append hcontent]
    change _ = writeVariant (v.inject content) 0 variants ++ rest
    rw [writeVariant_inject partitions.apart hv (sound v hmem), Nat.zero_add, List.append_assoc]

/-- If no value is written as nothing, every value that is read takes up a byte. -/
theorem wide {c : Codec α} [hc : c.Canonical] [hl : c.Lawful] : c.Wide 1 where
  length_le {bytes rest a} h := by
    have hpos : 0 < (c.encode a).length := hl.length_encode_pos a
    rw [hc.eq_encode_append h, List.length_append]
    omega

end Canonical

end LedgerClient.Codec
