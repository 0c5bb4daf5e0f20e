import LedgerClient.Codec.Basic
import LedgerClient.Proofs.Codec.Utf8

/-!
# Readers as chains

A reader of the wire format reads one part after another, each from where the last one stopped.
Numbers are read from the bytes that are written for them, and only from these. Every part takes
up a least number of bytes, so a length that asks for more parts than the bytes can hold is never
read.

## Main results

* `Codec.readLow_eq_ok_iff`: how numbers are read.
* `Codec.pair_decode`, `Codec.list_decode`, `Codec.choice_decode`, …: the combinators as chains.
* `Codec.pair_decode_eq_ok_iff`, `Codec.list_decode_eq_ok_iff`, …: what they read.
* `Codec.text_decode_error`, `Codec.Wide.list_decode_error`: lengths that are too large.
-/

namespace LedgerClient

variable {α β γ : Type}

namespace Decoded

/-- Goes on reading where a reader stopped; faults stay as they are. -/
def andThen (r : Decoded α) (next : α → Bytes → Decoded β) : Decoded β :=
  match r with
  | .ok (a, rest) => next a rest
  | .error fault => .error fault

theorem andThen_assoc (r : Decoded α) (next : α → Bytes → Decoded β)
    (last : β → Bytes → Decoded γ) :
    (r.andThen next).andThen last = r.andThen fun a rest => (next a rest).andThen last := by
  cases r <;> rfl

/-- A chain is read to its end if each reader succeeds. -/
theorem andThen_eq_ok_iff {r : Decoded α} {next : α → Bytes → Decoded β} {b : β} {rest : Bytes} :
    r.andThen next = .ok (b, rest) ↔ ∃ a mid, r = .ok (a, mid) ∧ next a mid = .ok (b, rest) := by
  cases r with
  | error =>
      constructor
      · intro h
        cases h
      · rintro ⟨a, mid, hr, -⟩
        cases hr
  | ok r =>
      constructor
      · intro h
        exact ⟨r.1, r.2, rfl, h⟩
      · rintro ⟨a, mid, hr, h⟩
        cases hr
        exact h

end Decoded

namespace Codec

variable {c : Codec α} {d : Codec β} {bytes rest : Bytes}

/-! ### Integers -/

theorem length_writeLow (width n : Nat) : (writeLow width n).length = width := by
  induction width generalizing n with
  | zero => rfl
  | succ width ih => rw [writeLow, List.length_cons, ih]

/-- A number within the width is read back. -/
theorem readLow_writeLow {width n : Nat} (h : n < capacity width) (tail : Bytes) :
    readLow width (writeLow width n ++ tail) = .ok (n, tail) := by
  induction width generalizing n with
  | zero =>
      rw [capacity] at h
      obtain rfl : n = 0 := by omega
      rfl
  | succ width ih =>
      rw [capacity] at h
      have hlow : (UInt8.ofNat (n % 256)).toNat = n % 256 :=
        Utf8.toNat_ofNat_of_lt (Nat.mod_lt n (by decide))
      have hhigh : n / 256 < capacity width := by omega
      rw [writeLow, List.cons_append, readLow, ih hhigh]
      simp only [hlow]
      rw [show n % 256 + 256 * (n / 256) = n by omega]

/-- Numbers are read in the one way in which they are written, and within the width. -/
theorem readLow_eq_ok_iff {width n : Nat} :
    readLow width bytes = .ok (n, rest) ↔
      n < capacity width ∧ bytes = writeLow width n ++ rest := by
  constructor
  · intro h
    induction width generalizing bytes n with
    | zero =>
        cases h
        exact ⟨Nat.one_pos, rfl⟩
    | succ width ih =>
        cases bytes with
        | nil => cases h
        | cons b bytes =>
            rw [readLow] at h
            split at h
            · next m rest' hm =>
              cases h
              obtain ⟨hlt, hbytes⟩ := ih hm
              have hb : b.toNat < 256 := b.toNat_lt
              rw [capacity, writeLow, show (b.toNat + 256 * m) % 256 = b.toNat by omega,
                show (b.toNat + 256 * m) / 256 = m by omega, UInt8.ofNat_toNat, List.cons_append,
                ← hbytes]
              exact ⟨by omega, rfl⟩
            · cases h
  · rintro ⟨h, rfl⟩
    exact readLow_writeLow h rest

/-! ### The combinators as chains -/

theorem iso_decode {pack : α → β} {unpack : β → α} (bytes : Bytes) :
    (c.iso pack unpack).decode bytes =
      (c.decode bytes).andThen fun a rest => .ok (pack a, rest) := rfl

theorem pair_decode (c : Codec α) (d : Codec β) (bytes : Bytes) :
    (c.pair d).decode bytes = (c.decode bytes).andThen fun a mid =>
      (d.decode mid).andThen fun b rest => .ok ((a, b), rest) := by
  simp only [pair, Decoded.andThen]
  cases c.decode bytes with
  | error => rfl
  | ok r => cases hd : d.decode r.2 <;> simp only [hd]

theorem readMany_succ (c : Codec α) (count : Nat) (bytes : Bytes) :
    readMany c (count + 1) bytes = (c.decode bytes).andThen fun a mid =>
      (readMany c count mid).andThen fun as rest => .ok (a :: as, rest) := by
  simp only [readMany, Decoded.andThen]
  cases c.decode bytes with
  | error => rfl
  | ok r => cases hd : readMany c count r.2 <;> simp only [hd]

theorem readMany_add (c : Codec α) (m n : Nat) (bytes : Bytes) :
    readMany c (m + n) bytes = (readMany c m bytes).andThen fun as mid =>
      (readMany c n mid).andThen fun as' rest => .ok (as ++ as', rest) := by
  induction m generalizing bytes with
  | zero =>
      rw [Nat.zero_add, readMany]
      change _ = (readMany c n bytes).andThen fun as' rest => .ok (as', rest)
      cases readMany c n bytes <;> rfl
  | succ m ih =>
      rw [Nat.add_right_comm, readMany_succ, readMany_succ, Decoded.andThen_assoc]
      congr 1
      funext a mid
      rw [ih, Decoded.andThen_assoc, Decoded.andThen_assoc]
      congr 1
      funext as mid
      rw [Decoded.andThen_assoc]
      rfl

theorem list_decode (c : Codec α) (bytes : Bytes) :
    (list c).decode bytes = (readLow 8 bytes).andThen fun n rest => readMany c n rest := by
  simp only [list]
  cases readLow 8 bytes <;> rfl

theorem option_decode_some (c : Codec α) (rest : Bytes) :
    (option c).decode (1 :: rest) = (c.decode rest).andThen fun a rest => .ok (some a, rest) := rfl

theorem enumeration_decode [BEq α] (values : List α) (bytes : Bytes) :
    (enumeration values).decode bytes = (readLow 4 bytes).andThen fun i rest =>
      match values[i]? with
      | some a => .ok (a, rest)
      | none => .error (.variantIndex i values.length) := by
  simp only [enumeration]
  cases readLow 4 bytes <;> rfl

theorem choice_decode (variants : List (Variant α)) (bytes : Bytes) :
    (choice variants).decode bytes = (readLow 4 bytes).andThen fun i rest =>
      match variants[i]? with
      | none => .error (.variantIndex i variants.length)
      | some v =>
        (v.codec.decode rest).andThen fun content rest => .ok (v.inject content, rest) := by
  simp only [choice]
  cases readLow 4 bytes <;> rfl

theorem text_decode (bytes : Bytes) :
    text.decode bytes = (readLow 8 bytes).andThen fun n rest =>
      if rest.length < n then .error .textPastEnd
      else
        match Utf8.decode (rest.take n) with
        | .ok s => .ok (s, rest.drop n)
        | .error fault => .error (.invalidUtf8 fault) := by
  simp only [text]
  cases readLow 8 bytes <;> rfl

/-! ### What is read -/

theorem iso_decode_eq_ok_iff {pack : α → β} {unpack : β → α} {b : β} :
    (c.iso pack unpack).decode bytes = .ok (b, rest) ↔
      ∃ a, c.decode bytes = .ok (a, rest) ∧ pack a = b := by
  rw [iso_decode, Decoded.andThen_eq_ok_iff]
  constructor
  · rintro ⟨a, mid, ha, h⟩
    cases h
    exact ⟨a, ha, rfl⟩
  · rintro ⟨a, ha, rfl⟩
    exact ⟨a, rest, ha, rfl⟩

theorem pair_decode_eq_ok_iff {a : α} {b : β} :
    (c.pair d).decode bytes = .ok ((a, b), rest) ↔
      ∃ mid, c.decode bytes = .ok (a, mid) ∧ d.decode mid = .ok (b, rest) := by
  simp only [pair_decode, Decoded.andThen_eq_ok_iff]
  constructor
  · rintro ⟨a', mid, ha, b', rest', hb, h⟩
    cases h
    exact ⟨mid, ha, hb⟩
  · rintro ⟨mid, ha, hb⟩
    exact ⟨a, mid, ha, b, rest, hb, rfl⟩

theorem readMany_succ_eq_ok_iff {count : Nat} {as : List α} :
    readMany c (count + 1) bytes = .ok (as, rest) ↔
      ∃ a as' mid, as = a :: as' ∧ c.decode bytes = .ok (a, mid) ∧
        readMany c count mid = .ok (as', rest) := by
  simp only [readMany_succ, Decoded.andThen_eq_ok_iff]
  constructor
  · rintro ⟨a, mid, ha, as', rest', has, h⟩
    cases h
    exact ⟨a, as', mid, rfl, ha, has⟩
  · rintro ⟨a, as', mid, rfl, ha, has⟩
    exact ⟨a, mid, ha, as', rest, has, rfl⟩

theorem list_decode_eq_ok_iff {as : List α} :
    (list c).decode bytes = .ok (as, rest) ↔
      ∃ n mid, readLow 8 bytes = .ok (n, mid) ∧ readMany c n mid = .ok (as, rest) := by
  rw [list_decode, Decoded.andThen_eq_ok_iff]

/-- An optional value stands behind a byte that tells whether there is one. -/
theorem option_decode_eq_ok_iff {o : Option α} :
    (option c).decode bytes = .ok (o, rest) ↔
      (o = none ∧ bytes = 0 :: rest) ∨
        ∃ a mid, o = some a ∧ bytes = 1 :: mid ∧ c.decode mid = .ok (a, rest) := by
  constructor
  · intro h
    cases bytes with
    | nil => cases h
    | cons b bytes =>
        simp only [option] at h
        split at h
        · next hb =>
          cases h
          exact .inl ⟨rfl, by rw [hb]⟩
        split at h
        · next hb =>
          obtain ⟨a, mid, ha, h⟩ := Decoded.andThen_eq_ok_iff.1 h
          cases h
          exact .inr ⟨a, bytes, rfl, by rw [hb], ha⟩
        · cases h
  · rintro (⟨rfl, rfl⟩ | ⟨a, mid, rfl, rfl, ha⟩)
    · rfl
    · rw [option_decode_some, ha]
      rfl

theorem enumeration_decode_eq_ok_iff [BEq α] {values : List α} {a : α} :
    (enumeration values).decode bytes = .ok (a, rest) ↔
      ∃ i, readLow 4 bytes = .ok (i, rest) ∧ values[i]? = some a := by
  rw [enumeration_decode, Decoded.andThen_eq_ok_iff]
  constructor
  · rintro ⟨i, mid, hi, h⟩
    split at h
    · next a' ha =>
      cases h
      exact ⟨i, hi, ha⟩
    · cases h
  · rintro ⟨i, hi, ha⟩
    exact ⟨i, rest, hi, by rw [ha]⟩

theorem choice_decode_eq_ok_iff {variants : List (Variant α)} {a : α} :
    (choice variants).decode bytes = .ok (a, rest) ↔
      ∃ i v mid content, readLow 4 bytes = .ok (i, mid) ∧ variants[i]? = some v ∧
        v.codec.decode mid = .ok (content, rest) ∧ v.inject content = a := by
  rw [choice_decode, Decoded.andThen_eq_ok_iff]
  constructor
  · rintro ⟨i, mid, hi, h⟩
    split at h
    · cases h
    · next v hv =>
      obtain ⟨content, rest', hcontent, h⟩ := Decoded.andThen_eq_ok_iff.1 h
      cases h
      exact ⟨i, v, mid, content, hi, hv, hcontent, rfl⟩
  · rintro ⟨i, v, mid, content, hi, hv, hcontent, rfl⟩
    refine ⟨i, mid, hi, ?_⟩
    simp only [hv]
    exact Decoded.andThen_eq_ok_iff.2 ⟨content, rest, hcontent, rfl⟩

/-- A text is read where its length and its bytes stand. -/
theorem text_decode_eq_ok_iff {s : String} :
    text.decode bytes = .ok (s, rest) ↔
      readLow 8 bytes = .ok ((Utf8.encode s).length, Utf8.encode s ++ rest) := by
  rw [text_decode, Decoded.andThen_eq_ok_iff]
  constructor
  · rintro ⟨n, mid, hn, h⟩
    split at h
    · cases h
    · next hlength =>
      split at h
      · next s' hs =>
        cases h
        rw [← Utf8.decode_eq_ok_iff.1 hs, List.take_append_drop, List.length_take, hn]
        rw [Nat.min_eq_left (Nat.le_of_not_lt hlength)]
      · cases h
  · intro h
    refine ⟨_, _, h, ?_⟩
    have hlength : ¬ (Utf8.encode s ++ rest).length < (Utf8.encode s).length := by
      rw [List.length_append]
      omega
    rw [if_neg hlength, List.take_left, List.drop_left, Utf8.decode_eq_ok_iff.2 rfl]

/-! ### Lengths that are too large -/

/-- A text's length that exceeds what is left is never read. -/
theorem text_decode_error {n : Nat} (hn : n < capacity 8) (h : rest.length < n) :
    text.decode (writeLow 8 n ++ rest) = .error .textPastEnd := by
  rw [text_decode, readLow_writeLow hn]
  exact if_pos h

/-- Every value that is read takes up at least some number of bytes. -/
structure Wide (c : Codec α) (width : Nat) : Prop where
  length_le : ∀ {bytes rest : Bytes} {a : α}, c.decode bytes = .ok (a, rest) →
    rest.length + width ≤ bytes.length

namespace Wide

variable {width width' : Nat}

theorem fixed (width : Nat) : (fixed width).Wide width where
  length_le h := by
    obtain ⟨-, rfl⟩ := readLow_eq_ok_iff.1 h
    rw [List.length_append, length_writeLow]
    omega

theorem iso {pack : α → β} {unpack : β → α} (h : c.Wide width) :
    (c.iso pack unpack).Wide width where
  length_le hdecode := by
    obtain ⟨a, ha, -⟩ := iso_decode_eq_ok_iff.1 hdecode
    exact h.length_le ha

theorem pair (h : c.Wide width) (h' : d.Wide width') : (c.pair d).Wide (width + width') where
  length_le hdecode := by
    obtain ⟨mid, ha, hb⟩ := pair_decode_eq_ok_iff.1 hdecode
    have hmid := h.length_le ha
    have hrest := h'.length_le hb
    omega

/-- Many values take up many times as much. -/
theorem readMany (h : c.Wide width) {count : Nat} {as : List α}
    (hdecode : readMany c count bytes = .ok (as, rest)) :
    rest.length + count * width ≤ bytes.length := by
  induction count generalizing bytes as with
  | zero =>
      cases hdecode
      omega
  | succ count ih =>
      obtain ⟨a, as', mid, -, ha, has⟩ := readMany_succ_eq_ok_iff.1 hdecode
      have hmid := h.length_le ha
      have hrest := ih has
      rw [Nat.succ_mul]
      omega

theorem list (h : c.Wide width) : (list c).Wide 8 where
  length_le hdecode := by
    obtain ⟨n, mid, hn, has⟩ := list_decode_eq_ok_iff.1 hdecode
    have hmid := (fixed 8).length_le hn
    have hrest := h.readMany has
    omega

/-- A count that asks for more values than the bytes can hold is never read. -/
theorem list_decode_error (h : c.Wide width) {n : Nat} (hn : n < capacity 8)
    (hlength : rest.length < n * width) :
    ∃ fault, (Codec.list c).decode (writeLow 8 n ++ rest) = .error fault := by
  rw [list_decode, readLow_writeLow hn]
  change ∃ fault, Codec.readMany c n rest = .error fault
  cases hread : Codec.readMany c n rest with
  | error fault => exact ⟨fault, rfl⟩
  | ok r =>
      obtain ⟨as, rest'⟩ := r
      have hle := h.readMany hread
      omega

end Wide

end Codec

end LedgerClient
