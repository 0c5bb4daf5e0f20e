import LedgerClient.Text.Utf8

/-!
# Strict reading of UTF-8

Strict reading accepts exactly the bytes that writing produces, so each text has one form.

## Main results

* `Utf8.decode_eq_ok_iff`: bytes are read as a text exactly if they are what writing the text
  gives.
-/

namespace LedgerClient.Utf8

/-! ### One character -/

theorem width_eq_one_iff (b : Nat) : width b = 1 ↔ b < 0x80 := by
  unfold width
  repeat' split
  all_goals omega

theorem width_eq_two_iff (b : Nat) : width b = 2 ↔ 0xC2 ≤ b ∧ b ≤ 0xDF := by
  unfold width
  repeat' split
  all_goals omega

theorem width_eq_three_iff (b : Nat) : width b = 3 ↔ 0xE0 ≤ b ∧ b ≤ 0xEF := by
  unfold width
  repeat' split
  all_goals omega

theorem width_eq_four_iff (b : Nat) : width b = 4 ↔ 0xF0 ≤ b ∧ b ≤ 0xF4 := by
  unfold width
  repeat' split
  all_goals omega

theorem width_le_four (b : Nat) : width b ≤ 4 := by
  unfold width
  repeat' split
  all_goals omega

/-- Second bytes lie between 0x80 and 0xBF, with four exceptions. -/
theorem secondOk_iff (first second : Nat) :
    secondOk first second = true ↔ (0x80 ≤ second ∧ second ≤ 0xBF) ∧
      (first = 0xE0 → 0xA0 ≤ second) ∧ (first = 0xF0 → 0x90 ≤ second) ∧
      (first = 0xED → second ≤ 0x9F) ∧ (first = 0xF4 → second ≤ 0x8F) := by
  simp only [secondOk, Bool.and_eq_true, decide_eq_true_eq]
  repeat' split
  all_goals omega

theorem continues_iff (b : Nat) : continues b = true ↔ 0x80 ≤ b ∧ b ≤ 0xBF := by
  simp only [continues, Bool.and_eq_true, decide_eq_true_eq]

section PieceAt

variable {first second third fourth : UInt8} {rest : Bytes}

theorem pieceAt_of_width_one (h : width first.toNat = 1) :
    pieceAt first rest = .char (Char.ofNat first.toNat) := by
  rw [pieceAt, h]
  rfl

theorem pieceAt_of_width_two (h : width first.toNat = 2) :
    pieceAt first (second :: rest) =
      if secondOk first.toNat second.toNat then
        .char (Char.ofNat ((first.toNat - 0xC0) * 64 + (second.toNat - 0x80)))
      else .malformed 1 := by
  rw [pieceAt, h]
  rfl

theorem pieceAt_of_width_three (h : width first.toNat = 3) :
    pieceAt first (second :: third :: rest) =
      if !secondOk first.toNat second.toNat then .malformed 1
      else if !continues third.toNat then .malformed 2
      else .char (Char.ofNat ((first.toNat - 0xE0) * 4096 + (second.toNat - 0x80) * 64 +
        (third.toNat - 0x80))) := by
  rw [pieceAt, h]
  rfl

theorem pieceAt_of_width_four (h : width first.toNat = 4) :
    pieceAt first (second :: third :: fourth :: rest) =
      if !secondOk first.toNat second.toNat then .malformed 1
      else if !continues third.toNat then .malformed 2
      else if !continues fourth.toNat then .malformed 3
      else .char (Char.ofNat ((first.toNat - 0xF0) * 262144 + (second.toNat - 0x80) * 4096 +
        (third.toNat - 0x80) * 64 + (fourth.toNat - 0x80))) := by
  rw [pieceAt, h]
  rfl

end PieceAt

/-- A code that is the value of a byte. -/
theorem toNat_ofNat_of_lt {n : Nat} (h : n < 256) : (UInt8.ofNat n).toNat = n := by
  rw [UInt8.toNat_ofNat']
  omega

/-! ### Written characters are read -/

section Written

variable {n : Nat} (tail : Bytes)

theorem pieceAt_written_one (h : n < 0x80) :
    width (UInt8.ofNat n).toNat = 1 ∧ pieceAt (UInt8.ofNat n) tail = .char (Char.ofNat n) := by
  have hfirst : (UInt8.ofNat n).toNat = n := toNat_ofNat_of_lt (by omega)
  have hwidth : width (UInt8.ofNat n).toNat = 1 := by
    rw [hfirst, width_eq_one_iff]
    exact h
  refine ⟨hwidth, ?_⟩
  rw [pieceAt_of_width_one hwidth, hfirst]

theorem pieceAt_written_two (h : 0x80 ≤ n) (h' : n < 0x800) :
    width (UInt8.ofNat (0xC0 + n / 64)).toNat = 2 ∧
      pieceAt (UInt8.ofNat (0xC0 + n / 64)) (UInt8.ofNat (0x80 + n % 64) :: tail) =
        .char (Char.ofNat n) := by
  have hfirst : (UInt8.ofNat (0xC0 + n / 64)).toNat = 0xC0 + n / 64 :=
    toNat_ofNat_of_lt (by omega)
  have hsecond : (UInt8.ofNat (0x80 + n % 64)).toNat = 0x80 + n % 64 :=
    toNat_ofNat_of_lt (by omega)
  have hwidth : width (UInt8.ofNat (0xC0 + n / 64)).toNat = 2 := by
    rw [hfirst, width_eq_two_iff]
    omega
  have hok : secondOk (0xC0 + n / 64) (0x80 + n % 64) = true := by
    rw [secondOk_iff]
    omega
  refine ⟨hwidth, ?_⟩
  rw [pieceAt_of_width_two hwidth, hfirst, hsecond, if_pos hok,
    show (0xC0 + n / 64 - 0xC0) * 64 + (0x80 + n % 64 - 0x80) = n by omega]

theorem pieceAt_written_three (h : 0x800 ≤ n) (h' : n < 0xD800 ∨ 0xDFFF < n ∧ n < 0x10000) :
    width (UInt8.ofNat (0xE0 + n / 4096)).toNat = 3 ∧
      pieceAt (UInt8.ofNat (0xE0 + n / 4096))
        (UInt8.ofNat (0x80 + n / 64 % 64) :: UInt8.ofNat (0x80 + n % 64) :: tail) =
          .char (Char.ofNat n) := by
  have hfirst : (UInt8.ofNat (0xE0 + n / 4096)).toNat = 0xE0 + n / 4096 :=
    toNat_ofNat_of_lt (by omega)
  have hsecond : (UInt8.ofNat (0x80 + n / 64 % 64)).toNat = 0x80 + n / 64 % 64 :=
    toNat_ofNat_of_lt (by omega)
  have hthird : (UInt8.ofNat (0x80 + n % 64)).toNat = 0x80 + n % 64 :=
    toNat_ofNat_of_lt (by omega)
  have hwidth : width (UInt8.ofNat (0xE0 + n / 4096)).toNat = 3 := by
    rw [hfirst, width_eq_three_iff]
    omega
  have hok : secondOk (0xE0 + n / 4096) (0x80 + n / 64 % 64) = true := by
    rw [secondOk_iff]
    omega
  have hcontinues : continues (0x80 + n % 64) = true := by
    rw [continues_iff]
    omega
  refine ⟨hwidth, ?_⟩
  rw [pieceAt_of_width_three hwidth, hfirst, hsecond, hthird, hok, hcontinues]
  simp only [Bool.not_true, Bool.false_eq_true, if_false]
  rw [show (0xE0 + n / 4096 - 0xE0) * 4096 + (0x80 + n / 64 % 64 - 0x80) * 64 +
    (0x80 + n % 64 - 0x80) = n by omega]

theorem pieceAt_written_four (h : 0x10000 ≤ n) (h' : n < 0x110000) :
    width (UInt8.ofNat (0xF0 + n / 262144)).toNat = 4 ∧
      pieceAt (UInt8.ofNat (0xF0 + n / 262144))
        (UInt8.ofNat (0x80 + n / 4096 % 64) :: UInt8.ofNat (0x80 + n / 64 % 64) ::
          UInt8.ofNat (0x80 + n % 64) :: tail) = .char (Char.ofNat n) := by
  have hfirst : (UInt8.ofNat (0xF0 + n / 262144)).toNat = 0xF0 + n / 262144 :=
    toNat_ofNat_of_lt (by omega)
  have hsecond : (UInt8.ofNat (0x80 + n / 4096 % 64)).toNat = 0x80 + n / 4096 % 64 :=
    toNat_ofNat_of_lt (by omega)
  have hthird : (UInt8.ofNat (0x80 + n / 64 % 64)).toNat = 0x80 + n / 64 % 64 :=
    toNat_ofNat_of_lt (by omega)
  have hfourth : (UInt8.ofNat (0x80 + n % 64)).toNat = 0x80 + n % 64 :=
    toNat_ofNat_of_lt (by omega)
  have hwidth : width (UInt8.ofNat (0xF0 + n / 262144)).toNat = 4 := by
    rw [hfirst, width_eq_four_iff]
    omega
  have hok : secondOk (0xF0 + n / 262144) (0x80 + n / 4096 % 64) = true := by
    rw [secondOk_iff]
    omega
  have hcontinues : continues (0x80 + n / 64 % 64) = true := by
    rw [continues_iff]
    omega
  have hcontinues' : continues (0x80 + n % 64) = true := by
    rw [continues_iff]
    omega
  refine ⟨hwidth, ?_⟩
  rw [pieceAt_of_width_four hwidth, hfirst, hsecond, hthird, hfourth, hok, hcontinues,
    hcontinues']
  simp only [Bool.not_true, Bool.false_eq_true, if_false]
  rw [show (0xF0 + n / 262144 - 0xF0) * 262144 + (0x80 + n / 4096 % 64 - 0x80) * 4096 +
    (0x80 + n / 64 % 64 - 0x80) * 64 + (0x80 + n % 64 - 0x80) = n by omega]

end Written

/-- The bytes of a character are cut off as this character, whatever follows them. -/
theorem pieceAt_encodeCode (c : Char) :
    ∃ first more, encodeCode c.toNat = first :: more ∧ width first.toNat = more.length + 1 ∧
      ∀ tail, pieceAt first (more ++ tail) = .char c := by
  have hvalid : c.toNat < 0xD800 ∨ 0xDFFF < c.toNat ∧ c.toNat < 0x110000 := c.valid
  have hchar : Char.ofNat c.toNat = c := Char.ofNat_toNat c
  generalize c.toNat = n at hvalid hchar ⊢
  subst hchar
  unfold encodeCode
  split
  · exact ⟨_, _, rfl, (pieceAt_written_one [] ‹_›).1, fun tail =>
      (pieceAt_written_one tail ‹_›).2⟩
  split
  · exact ⟨_, _, rfl, (pieceAt_written_two [] (by omega) ‹_›).1, fun tail =>
      (pieceAt_written_two tail (by omega) ‹_›).2⟩
  split
  · exact ⟨_, _, rfl, (pieceAt_written_three [] (by omega) (by omega)).1, fun tail =>
      (pieceAt_written_three tail (by omega) (by omega)).2⟩
  · exact ⟨_, _, rfl, (pieceAt_written_four [] (by omega) (by omega)).1, fun tail =>
      (pieceAt_written_four tail (by omega) (by omega)).2⟩

/-! ### Read characters were written -/

theorem toNat_charOfNat {n : Nat} (h : n < 0xD800 ∨ 0xDFFF < n ∧ n < 0x110000) :
    (Char.ofNat n).toNat = n := by
  rw [Char.ofNat, dif_pos h]
  rfl

theorem ofNat_eq_of_toNat_eq {b : UInt8} {n : Nat} (h : n = b.toNat) : UInt8.ofNat n = b := by
  rw [h, UInt8.ofNat_toNat]

section Read

variable {first : UInt8} {rest : Bytes} {c : Char}

theorem encodeCode_of_width_one (hwidth : width first.toNat = 1)
    (h : pieceAt first rest = .char c) : encodeCode c.toNat = [first] := by
  rw [pieceAt_of_width_one hwidth] at h
  obtain rfl := Piece.char.inj h
  rw [width_eq_one_iff] at hwidth
  rw [toNat_charOfNat (by omega), encodeCode, if_pos hwidth, UInt8.ofNat_toNat]

theorem encodeCode_of_width_two (hwidth : width first.toNat = 2)
    (h : pieceAt first rest = .char c) :
    ∃ second tail, rest = second :: tail ∧ encodeCode c.toNat = [first, second] := by
  match rest, h with
  | [], h =>
    rw [pieceAt, hwidth] at h
    exact absurd h (by simp)
  | second :: tail, h =>
    rw [pieceAt_of_width_two hwidth] at h
    split at h
    · next hok =>
      obtain rfl := Piece.char.inj h
      rw [width_eq_two_iff] at hwidth
      rw [secondOk_iff] at hok
      refine ⟨second, tail, rfl, ?_⟩
      rw [toNat_charOfNat (by omega), encodeCode, if_neg (by omega), if_pos (by omega),
        ofNat_eq_of_toNat_eq (b := first) (by omega), ofNat_eq_of_toNat_eq (b := second) (by omega)]
    · exact absurd h (by simp)

theorem encodeCode_of_width_three (hwidth : width first.toNat = 3)
    (h : pieceAt first rest = .char c) :
    ∃ second third tail, rest = second :: third :: tail ∧
      encodeCode c.toNat = [first, second, third] := by
  match rest, h with
  | [], h =>
    rw [pieceAt, hwidth] at h
    exact absurd h (by simp)
  | [second], h =>
    rw [pieceAt, hwidth] at h
    simp only [List.map_cons, List.map_nil] at h
    split at h <;> exact absurd h (by simp)
  | second :: third :: tail, h =>
    rw [pieceAt_of_width_three hwidth] at h
    split at h
    · exact absurd h (by simp)
    split at h
    · exact absurd h (by simp)
    · next hok hcontinues =>
      obtain rfl := Piece.char.inj h
      rw [width_eq_three_iff] at hwidth
      rw [Bool.not_eq_true, Bool.not_eq_false', secondOk_iff] at hok
      rw [Bool.not_eq_true, Bool.not_eq_false', continues_iff] at hcontinues
      refine ⟨second, third, tail, rfl, ?_⟩
      rw [toNat_charOfNat (by omega), encodeCode, if_neg (by omega), if_neg (by omega),
        if_pos (by omega), ofNat_eq_of_toNat_eq (b := first) (by omega),
        ofNat_eq_of_toNat_eq (b := second) (by omega),
        ofNat_eq_of_toNat_eq (b := third) (by omega)]

theorem encodeCode_of_width_four (hwidth : width first.toNat = 4)
    (h : pieceAt first rest = .char c) :
    ∃ second third fourth tail, rest = second :: third :: fourth :: tail ∧
      encodeCode c.toNat = [first, second, third, fourth] := by
  match rest, h with
  | [], h =>
    rw [pieceAt, hwidth] at h
    exact absurd h (by simp)
  | [second], h =>
    rw [pieceAt, hwidth] at h
    simp only [List.map_cons, List.map_nil] at h
    split at h <;> exact absurd h (by simp)
  | [second, third], h =>
    rw [pieceAt, hwidth] at h
    simp only [List.map_cons, List.map_nil] at h
    repeat' split at h
    all_goals exact absurd h (by simp)
  | second :: third :: fourth :: tail, h =>
    rw [pieceAt_of_width_four hwidth] at h
    split at h
    · exact absurd h (by simp)
    split at h
    · exact absurd h (by simp)
    split at h
    · exact absurd h (by simp)
    · next hok hcontinues hcontinues' =>
      obtain rfl := Piece.char.inj h
      rw [width_eq_four_iff] at hwidth
      rw [Bool.not_eq_true, Bool.not_eq_false', secondOk_iff] at hok
      rw [Bool.not_eq_true, Bool.not_eq_false', continues_iff] at hcontinues hcontinues'
      refine ⟨second, third, fourth, tail, rfl, ?_⟩
      rw [toNat_charOfNat (by omega), encodeCode, if_neg (by omega), if_neg (by omega),
        if_neg (by omega), ofNat_eq_of_toNat_eq (b := first) (by omega),
        ofNat_eq_of_toNat_eq (b := second) (by omega),
        ofNat_eq_of_toNat_eq (b := third) (by omega),
        ofNat_eq_of_toNat_eq (b := fourth) (by omega)]

/-- What is cut off as a character is what writing the character gives. -/
theorem encodeCode_of_pieceAt (h : pieceAt first rest = .char c) :
    ∃ more tail, rest = more ++ tail ∧ width first.toNat = more.length + 1 ∧
      encodeCode c.toNat = first :: more := by
  have hwidth : width first.toNat ≤ 4 := width_le_four _
  have hzero : width first.toNat ≠ 0 := by
    intro hzero
    rw [pieceAt, hzero] at h
    exact absurd h (by simp)
  obtain h₁ | h₂ | h₃ | h₄ : width first.toNat = 1 ∨ width first.toNat = 2 ∨
      width first.toNat = 3 ∨ width first.toNat = 4 := by omega
  · exact ⟨[], rest, rfl, h₁, encodeCode_of_width_one h₁ h⟩
  · obtain ⟨second, tail, rfl, hcode⟩ := encodeCode_of_width_two h₂ h
    exact ⟨[second], tail, rfl, h₂, hcode⟩
  · obtain ⟨second, third, tail, rfl, hcode⟩ := encodeCode_of_width_three h₃ h
    exact ⟨[second, third], tail, rfl, h₃, hcode⟩
  · obtain ⟨second, third, fourth, tail, rfl, hcode⟩ := encodeCode_of_width_four h₄ h
    exact ⟨[second, third, fourth], tail, rfl, h₄, hcode⟩

end Read

/-! ### Texts -/

/-- Bytes that belong to a piece already taken are passed over. -/
theorem piecesAfter_append (more tail : Bytes) :
    piecesAfter more.length (more ++ tail) = pieces tail := by
  induction more with
  | nil => rfl
  | cons b more ih => exact ih

/-- The pieces of a written text are its characters. -/
theorem pieces_written (cs : List Char) :
    pieces (cs.flatMap fun c => encodeCode c.toNat) = cs.map .char := by
  induction cs with
  | nil => rfl
  | cons c cs ih =>
      obtain ⟨first, more, hcode, hwidth, hpiece⟩ := pieceAt_encodeCode c
      have hmore : more.length ≤ 3 := by
        have := width_le_four first.toNat
        omega
      rw [List.flatMap_cons, hcode, List.cons_append, pieces, piecesAfter, List.take_append,
        List.take_of_length_le hmore, hpiece]
      simp only [hwidth, Nat.add_sub_cancel, List.map_cons]
      rw [piecesAfter_append, ih]

/-- If all pieces are characters, the bytes are what writing them gives. -/
theorem written_of_pieces {bytes : Bytes} {cs : List Char} (h : pieces bytes = cs.map .char) :
    bytes = cs.flatMap fun c => encodeCode c.toNat := by
  induction cs generalizing bytes with
  | nil =>
      cases bytes with
      | nil => rfl
      | cons b rest =>
          rw [pieces, piecesAfter] at h
          split at h <;> exact absurd h (by simp)
  | cons c cs ih =>
      cases bytes with
      | nil => exact absurd h (by simp [pieces, piecesAfter])
      | cons b rest =>
          rw [pieces, piecesAfter] at h
          split at h
          · next c' hpiece =>
            rw [List.map_cons, List.cons.injEq, Piece.char.injEq] at h
            obtain ⟨rfl, h⟩ := h
            obtain ⟨more, tail, hrest, hwidth, hcode⟩ := encodeCode_of_pieceAt hpiece
            obtain ⟨tail', rfl⟩ : ∃ tail', rest = more ++ tail' := by
              refine ⟨tail ++ rest.drop 3, ?_⟩
              rw [← List.append_assoc, ← hrest, List.take_append_drop]
            rw [hwidth, Nat.add_sub_cancel, piecesAfter_append] at h
            rw [List.flatMap_cons, hcode, ← ih h, List.cons_append]
          · exact absurd h (by simp)
          · exact absurd h (by simp)

theorem charsOf_map_char (index : Nat) (cs : List Char) :
    charsOf index (cs.map .char) = .ok cs := by
  induction cs generalizing index with
  | nil => rfl
  | cons c cs ih => rw [List.map_cons, charsOf, ih]

/-- Strict reading succeeds only if all pieces are characters. -/
theorem map_char_of_charsOf {index : Nat} {ps : List Piece} {cs : List Char}
    (h : charsOf index ps = .ok cs) : ps = cs.map .char := by
  induction ps generalizing index cs with
  | nil => cases h; rfl
  | cons p ps ih =>
      cases p with
      | char c =>
          rw [charsOf] at h
          split at h
          · next cs' hcs =>
            cases h
            rw [ih hcs, List.map_cons]
          · exact absurd h (by simp)
      | malformed n => exact absurd h (by simp [charsOf])
      | truncated => exact absurd h (by simp [charsOf])

/-- Bytes are read as a text exactly if they are what writing the text gives. -/
theorem decode_eq_ok_iff {bytes : Bytes} {s : String} :
    decode bytes = .ok s ↔ bytes = encode s := by
  constructor
  · intro h
    rw [decode] at h
    cases hcs : charsOf 0 (pieces bytes) with
    | error f => rw [hcs] at h; cases h
    | ok cs =>
        rw [hcs] at h
        cases h
        rw [encode, String.toList_ofList]
        exact written_of_pieces (map_char_of_charsOf hcs)
  · rintro rfl
    rw [decode, encode, pieces_written, charsOf_map_char]
    exact congrArg Except.ok String.ofList_toList

end LedgerClient.Utf8
