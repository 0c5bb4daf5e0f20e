import LedgerClient.Proofs.Codec.Reading

/-!
# The laws of a codec

A codec is faithful if it reads back what it wrote, with anything behind it left alone, for
every value that fits its widths. The combinators hand the laws on from the parts to the
whole, so a record or a list of lawful parts is lawful without a proof of its own.

Not fitting is out of reach in practice: only an encoding of at least `capacity 8` bytes can
belong to a value that does not fit. This needs every element of a list to take up a byte,
which is why `Lawful` asks that no value is written as nothing.

## Main results

* `Codec.Lawful.word`, `Codec.Lawful.text`: the laws of numbers and texts.
* `Codec.Lawful.record`, `Codec.Lawful.list`, `Codec.Lawful.sortedMap`, …: the laws of the
  combinators.
-/

namespace LedgerClient.Codec

variable {α β : Type}

/-- The laws that hold of every part of a message. -/
structure Faithful (c : Codec α) : Prop where
  /-- A value that fits is read back, and what stands behind it is left alone. -/
  decode_encode : ∀ {a : α}, c.Fits a → ∀ tail, c.decode (c.encode a ++ tail) = .ok (a, tail)
  /-- What is read fits. -/
  fits_of_decode : ∀ {bytes rest : Bytes} {a : α}, c.decode bytes = .ok (a, rest) → c.Fits a
  /-- A value that is written in fewer bytes than a length can count fits. -/
  fits_of_length : ∀ {a : α}, (c.encode a).length < capacity 8 → c.Fits a

/-- The laws of a type of the wire format: its values take up at least one byte. -/
class Lawful (c : Codec α) : Prop extends Faithful c where
  encode_ne_nil : ∀ a : α, c.encode a ≠ []

theorem Lawful.length_encode_pos {c : Codec α} (hc : c.Lawful) (a : α) :
    0 < (c.encode a).length :=
  List.length_pos_iff.2 (hc.encode_ne_nil a)

/-! ### Values that stand for others -/

section Iso

variable {c : Codec α} {pack : α → β} {unpack : β → α}

/-- Values that stand for others are as faithful as these. -/
theorem Faithful.iso (hc : c.Faithful) (pack_unpack : ∀ b, pack (unpack b) = b)
    (fits : ∀ a, c.Fits a → c.Fits (unpack (pack a))) : (c.iso pack unpack).Faithful where
  decode_encode {b} h tail := by
    change (c.decode (c.encode (unpack b) ++ tail)).map pack = .ok (b, tail)
    rw [hc.decode_encode h, Decoded.map, pack_unpack]
  fits_of_decode h := by
    obtain ⟨a, ha, rfl⟩ := iso_decode_eq_ok_iff.1 h
    exact fits a (hc.fits_of_decode ha)
  fits_of_length h := hc.fits_of_length h

/-- The fields of a record are written as a tuple. -/
theorem Lawful.record (hc : c.Lawful := by infer_instance)
    (pack_unpack : ∀ b, pack (unpack b) = b := by intro b; rfl)
    (unpack_pack : ∀ a, unpack (pack a) = a := by intro a; rfl) : (c.iso pack unpack).Lawful where
  toFaithful := hc.toFaithful.iso pack_unpack fun a h => (unpack_pack a).symm ▸ h
  encode_ne_nil b := hc.encode_ne_nil (unpack b)

/-- Words are written as the numbers they stand for, which are all within the width. -/
theorem Lawful.word {width : Nat} {pack : Nat → α} {unpack : α → Nat} (hwidth : 0 < width)
    (pack_unpack : ∀ a, pack (unpack a) = a) (hlt : ∀ a, unpack a < capacity width) :
    ((fixed width).iso pack unpack).Lawful where
  decode_encode {a} _ tail := by
    change (readLow width (writeLow width (unpack a) ++ tail)).map pack = .ok (a, tail)
    rw [readLow_writeLow (hlt a), Decoded.map, pack_unpack]
  fits_of_decode {_ _ a} _ := hlt a
  fits_of_length {a} _ := hlt a
  encode_ne_nil a := by
    apply List.ne_nil_of_length_pos
    change 0 < (writeLow width (unpack a)).length
    rw [length_writeLow]
    exact hwidth

end Iso

instance Lawful.u8 : u8.Lawful :=
  .word (by decide) (fun _ => UInt8.ofNat_toNat) fun a => a.toNat_lt

instance Lawful.u16 : u16.Lawful :=
  .word (by decide) (fun _ => UInt16.ofNat_toNat) fun a => a.toNat_lt

instance Lawful.u32 : u32.Lawful :=
  .word (by decide) (fun _ => UInt32.ofNat_toNat) fun a => a.toNat_lt

instance Lawful.u64 : u64.Lawful :=
  .word (by decide) (fun _ => UInt64.ofNat_toNat) fun a => a.toNat_lt

instance Lawful.i32 : i32.Lawful := .record

instance Lawful.i64 : i64.Lawful := .record

/-! ### Truth values and texts -/

instance Lawful.bool : bool.Lawful where
  decode_encode {b} _ _ := by cases b <;> rfl
  fits_of_decode _ := trivial
  fits_of_length _ := trivial
  encode_ne_nil _ := List.cons_ne_nil _ _

instance Lawful.text : text.Lawful where
  decode_encode {s} h tail := by
    change Codec.text.decode (writeLow 8 (Utf8.encode s).length ++ Utf8.encode s ++ tail) = _
    rw [text_decode_eq_ok_iff, List.append_assoc]
    exact readLow_writeLow h _
  fits_of_decode h := (readLow_eq_ok_iff.1 (text_decode_eq_ok_iff.1 h)).1
  fits_of_length {s} h := by
    change (writeLow 8 (Utf8.encode s).length ++ Utf8.encode s).length < capacity 8 at h
    rw [List.length_append] at h
    change (Utf8.encode s).length < capacity 8
    omega
  encode_ne_nil s := List.append_ne_nil_of_left_ne_nil (List.cons_ne_nil _ _) _

/-! ### Sequences -/

section Sequences

variable {c : Codec α}

/-- Values that fit are read back one after another. -/
theorem Faithful.readMany_flatMap (hc : c.Faithful) {as : List α} (h : ∀ a ∈ as, c.Fits a)
    (tail : Bytes) : readMany c as.length (as.flatMap c.encode ++ tail) = .ok (as, tail) := by
  induction as with
  | nil => rfl
  | cons a as ih =>
      have ha : c.Fits a := h a List.mem_cons_self
      have has : ∀ b ∈ as, c.Fits b := fun b hb => h b (List.mem_cons_of_mem a hb)
      rw [List.flatMap_cons, List.length_cons, List.append_assoc]
      exact readMany_succ_eq_ok_iff.2 ⟨a, as, _, rfl, hc.decode_encode ha _, ih has⟩

/-- As many values are read as were asked for, and all of them fit. -/
theorem Faithful.fits_of_readMany (hc : c.Faithful) {count : Nat} {bytes rest : Bytes}
    {as : List α} (h : readMany c count bytes = .ok (as, rest)) :
    as.length = count ∧ ∀ a ∈ as, c.Fits a := by
  induction count generalizing bytes as with
  | zero =>
      cases h
      exact ⟨rfl, fun _ ha => absurd ha List.not_mem_nil⟩
  | succ count ih =>
      obtain ⟨a, as', mid, rfl, ha, has⟩ := readMany_succ_eq_ok_iff.1 h
      obtain ⟨hlength, hfits⟩ := ih has
      refine ⟨by rw [List.length_cons, hlength], ?_⟩
      intro b hb
      rcases List.mem_cons.1 hb with rfl | hb
      · exact hc.fits_of_decode ha
      · exact hfits b hb

/-- A list takes up at least one byte for each element. -/
theorem Lawful.length_le_length_flatMap (hc : c.Lawful) (as : List α) :
    as.length ≤ (as.flatMap c.encode).length := by
  induction as with
  | nil => exact Nat.le_refl 0
  | cons a as ih =>
      have ha : 0 < (c.encode a).length := hc.length_encode_pos a
      rw [List.flatMap_cons, List.length_append, List.length_cons]
      omega

/-- A list takes up at least the bytes of each element. -/
theorem length_encode_le_length_flatMap {a : α} {as : List α} (h : a ∈ as) :
    (c.encode a).length ≤ (as.flatMap c.encode).length := by
  obtain ⟨before, after, rfl⟩ := List.append_of_mem h
  rw [List.flatMap_append, List.flatMap_cons, List.length_append, List.length_append]
  omega

instance Lawful.list [hc : c.Lawful] : (list c).Lawful where
  decode_encode {as} h tail := by
    obtain ⟨hlength, hfits⟩ : as.length < capacity 8 ∧ ∀ a ∈ as, c.Fits a := h
    change (Codec.list c).decode (writeLow 8 as.length ++ as.flatMap c.encode ++ tail) = _
    rw [List.append_assoc]
    exact list_decode_eq_ok_iff.2
      ⟨_, _, readLow_writeLow hlength _, hc.readMany_flatMap hfits tail⟩
  fits_of_decode h := by
    obtain ⟨n, mid, hn, has⟩ := list_decode_eq_ok_iff.1 h
    obtain ⟨hlength, hfits⟩ := hc.fits_of_readMany has
    exact ⟨hlength ▸ (readLow_eq_ok_iff.1 hn).1, hfits⟩
  fits_of_length {as} h := by
    change (writeLow 8 as.length ++ as.flatMap c.encode).length < capacity 8 at h
    rw [List.length_append] at h
    refine ⟨?_, ?_⟩
    · have := hc.length_le_length_flatMap as
      omega
    · intro a ha
      have := length_encode_le_length_flatMap (c := c) ha
      exact hc.fits_of_length (by omega)
  encode_ne_nil _ := List.append_ne_nil_of_left_ne_nil (List.cons_ne_nil _ _) _

instance Lawful.bytes : bytes.Lawful := Lawful.list

instance Lawful.option [hc : c.Lawful] : (option c).Lawful where
  decode_encode {o} h tail := by
    cases o with
    | none => rfl
    | some a =>
        change (c.decode (c.encode a ++ tail)).map some = .ok (some a, tail)
        rw [hc.decode_encode (h a rfl), Decoded.map]
  fits_of_decode h := by
    intro a ha
    obtain ⟨rfl, -⟩ | ⟨a', mid, rfl, -, hdecode⟩ := option_decode_eq_ok_iff.1 h
    · cases ha
    · cases ha
      exact hc.fits_of_decode hdecode
  fits_of_length {o} h := by
    intro a ha
    cases ha
    change (1 :: c.encode a).length < capacity 8 at h
    rw [List.length_cons] at h
    exact hc.fits_of_length (by omega)
  encode_ne_nil o := by cases o <;> exact List.cons_ne_nil _ _

instance Lawful.pair {d : Codec β} [hc : c.Lawful] [hd : d.Lawful] : (c.pair d).Lawful where
  decode_encode {p} h tail := by
    change (c.pair d).decode (c.encode p.1 ++ d.encode p.2 ++ tail) = .ok ((p.1, p.2), tail)
    rw [List.append_assoc]
    exact pair_decode_eq_ok_iff.2 ⟨_, hc.decode_encode h.1 _, hd.decode_encode h.2 _⟩
  fits_of_decode h := by
    obtain ⟨mid, ha, hb⟩ := pair_decode_eq_ok_iff.1 h
    exact ⟨hc.fits_of_decode ha, hd.fits_of_decode hb⟩
  fits_of_length {p} h := by
    change (c.encode p.1 ++ d.encode p.2).length < capacity 8 at h
    rw [List.length_append] at h
    exact ⟨hc.fits_of_length (by omega), hd.fits_of_length (by omega)⟩
  encode_ne_nil p := List.append_ne_nil_of_left_ne_nil (hc.encode_ne_nil p.1) _

end Sequences

/-- A map is read back although pairs could be read in another order or repeat a key. -/
instance Lawful.sortedMap {κ ν : Type} [Ord κ] [Std.TransOrd κ] [Std.LawfulEqOrd κ]
    {key : Codec κ} {value : Codec ν} [key.Lawful] [value.Lawful] :
    (sortedMap key value).Lawful where
  toFaithful := (Lawful.list (c := key.pair value)).toFaithful.iso SortedMap.ofList_entries <| by
    rintro pairs ⟨hlength, hfits⟩
    refine ⟨Nat.lt_of_le_of_lt (SortedMap.length_ofList_le pairs) hlength, ?_⟩
    intro e he
    exact hfits e (SortedMap.mem_of_mem_ofList he)
  encode_ne_nil m := (Lawful.list (c := key.pair value)).encode_ne_nil m.entries

end LedgerClient.Codec
