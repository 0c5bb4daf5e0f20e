import LedgerClient.Node.Endpoint
import Mathlib.Logic.Basic

/-!
# Addresses and their spellings

An address is split at its last colon, and what follows the colon is a numeral: digits, behind a
plus sign or not, whose value is a port. The text for a port is such a numeral, but a port has
others besides, with leading zeros or a plus sign.

## Main results

* `Decimal.parseU16?_eq_some_iff`, `Decimal.ofChars?_eq_some_iff`: the numerals for a port.
* `splitAddress?_eq_some_iff`: which texts are addresses, and of what host and port.
* `addresses_toString`: the usual text for a host and a port is one.
-/

namespace LedgerClient

/-! ### Numerals -/

namespace Decimal

/-- What is read on to is the value of the digits. -/
theorem readOn_eq_some_iff {acc n : Nat} {cs : List Char} :
    readOn acc cs = some n ↔ (∀ c ∈ cs, c.isDigit = true) ∧ Nat.ofDigitChars 10 cs acc = n := by
  induction cs generalizing acc with
  | nil => simp [readOn]
  | cons c cs ih =>
      by_cases hc : c.isDigit = true
      · rw [readOn, digit?, if_pos hc, Option.bind_eq_bind, Option.bind_some, ih,
          Nat.ofDigitChars_cons, List.forall_mem_cons, and_iff_right hc]
      · rw [readOn, digit?, if_neg hc]
        simp [hc]

theorem ofDigits?_eq_some_iff {n : Nat} {cs : List Char} :
    ofDigits? cs = some n ↔
      cs ≠ [] ∧ (∀ c ∈ cs, c.isDigit = true) ∧ Nat.ofDigitChars 10 cs 0 = n := by
  cases cs with
  | nil => simp [ofDigits?]
  | cons c cs => rw [ofDigits?, readOn_eq_some_iff, and_iff_right (List.cons_ne_nil c cs)]; simp

/-- A numeral is a run of digits, behind a plus sign or not. -/
theorem ofChars?_eq_some_iff {n : Nat} {cs : List Char} :
    ofChars? cs = some n ↔ ∃ digits, (cs = digits ∨ cs = '+' :: digits) ∧ digits ≠ [] ∧
      (∀ c ∈ digits, c.isDigit = true) ∧ Nat.ofDigitChars 10 digits 0 = n := by
  simp only [← ofDigits?_eq_some_iff]
  constructor
  · intro h
    rw [ofChars?.eq_def] at h
    split at h
    · next rest => exact ⟨rest, .inr rfl, h⟩
    · exact ⟨cs, .inl rfl, h⟩
  · rintro ⟨digits, rfl | rfl, h⟩
    · -- A plus sign is no digit, so it is not in front of the digits.
      rw [ofChars?.eq_def]
      split
      · next rest =>
        have hplus := (ofDigits?_eq_some_iff.mp h).2.1 '+' List.mem_cons_self
        exact absurd hplus (by decide)
      · exact h
    · exact h

/-- A numeral for a port has the value of the port. -/
theorem parseU16?_eq_some_iff {s : String} {port : UInt16} :
    parseU16? s = some port ↔ ofChars? s.toList = some port.toNat := by
  rw [parseU16?, parse?, Option.map_eq_some_iff]
  constructor
  · rintro ⟨n, h, rfl⟩
    obtain ⟨n', hn', h⟩ := Option.bind_eq_some_iff.mp h
    split at h
    · next hlt =>
      obtain rfl := Option.some.inj h
      rw [hn', UInt16.toNat_ofNat_of_lt' hlt]
    · cases h
  · intro h
    refine ⟨port.toNat, ?_, UInt16.ofNat_toNat⟩
    rw [h]
    exact if_pos port.toNat_lt

/-- The text for a port is read as this port. -/
theorem parseU16?_toString (port : UInt16) : parseU16? (toString port.toNat) = some port := by
  have hchars : (toString port.toNat).toList = Nat.toDigits 10 port.toNat := Nat.toList_repr
  rw [parseU16?_eq_some_iff, ofChars?_eq_some_iff, hchars]
  exact ⟨_, .inl rfl, Nat.toDigits_ne_nil,
    fun _ hc => Nat.isDigit_of_mem_toDigits (by decide) (by decide) hc, Nat.ofDigitChars_ten_toDigits⟩

end Decimal

/-! ### The last colon -/

section SplitLast

variable {α : Type} {p : α → Bool} {l before after : List α}

/-- A list is not split if no element has the property. -/
theorem splitLast?_eq_none_iff : splitLast? p l = none ↔ ∀ a ∈ l, ¬ p a = true := by
  induction l with
  | nil => simp [splitLast?]
  | cons a l ih =>
      rw [splitLast?, List.forall_mem_cons, ← ih]
      cases splitLast? p l <;> simp

theorem splitLast?_append_cons (before : List α) {a : α} (ha : p a = true)
    (hafter : ∀ b ∈ after, ¬ p b = true) :
    splitLast? p (before ++ a :: after) = some (before, after) := by
  induction before with
  | nil => rw [List.nil_append, splitLast?, splitLast?_eq_none_iff.mpr hafter, if_pos ha]
  | cons b before ih => rw [List.cons_append, splitLast?, ih]

/-- A list is split at the last element with the property: those behind it do not have it. -/
theorem splitLast?_eq_some_iff :
    splitLast? p l = some (before, after) ↔
      ∃ a, l = before ++ a :: after ∧ p a = true ∧ ∀ b ∈ after, ¬ p b = true := by
  constructor
  · intro h
    induction l generalizing before with
    | nil => cases h
    | cons a l ih =>
        rw [splitLast?] at h
        split at h
        · next hrest =>
          obtain ⟨rfl, rfl⟩ := Prod.mk.inj (Option.some.inj h)
          obtain ⟨a', rfl, ha', hafter⟩ := ih hrest
          exact ⟨a', rfl, ha', hafter⟩
        · next hrest =>
          split at h
          · next ha =>
            obtain ⟨rfl, rfl⟩ := Prod.mk.inj (Option.some.inj h)
            exact ⟨a, rfl, ha, splitLast?_eq_none_iff.mp hrest⟩
          · cases h
  · rintro ⟨a, rfl, ha, hafter⟩
    exact splitLast?_append_cons before ha hafter

end SplitLast

/-- A text addresses a host and a port if it is the host, which is not empty, then a colon, the
last one, and then a numeral for the port. -/
def Addresses (text host : String) (port : UInt16) : Prop :=
  ∃ numeral : String, text = host ++ ":" ++ numeral ∧ ':' ∉ numeral.toList ∧ host ≠ "" ∧
    Decimal.parseU16? numeral = some port

/-- The texts that are split into a host and a port are those that address them. -/
theorem splitAddress?_eq_some_iff {text host : String} {port : UInt16} :
    splitAddress? text.toList = some (host, port) ↔ Addresses text host port := by
  rw [splitAddress?, Option.bind_eq_bind, Option.bind_eq_some_iff]
  constructor
  · rintro ⟨⟨before, after⟩, hsplit, h⟩
    obtain ⟨colon, htext, hcolon, hafter⟩ := splitLast?_eq_some_iff.mp hsplit
    obtain rfl : colon = ':' := by simpa using hcolon
    dsimp only at h
    by_cases hbefore : before.isEmpty = true
    · rw [if_pos hbefore] at h
      cases h
    · rw [if_neg hbefore] at h
      obtain ⟨port', hport, h⟩ := Option.bind_eq_some_iff.mp h
      obtain ⟨rfl, rfl⟩ := Prod.mk.inj (Option.some.inj h)
      refine ⟨String.ofList after, ?_, ?_, ?_, hport⟩
      · exact String.toList_injective (by simp [htext])
      · intro hmem
        exact hafter ':' (by simpa using hmem) rfl
      · intro hempty
        exact hbefore (by simpa using congrArg String.toList hempty)
  · rintro ⟨numeral, rfl, hnumeral, hhost, hport⟩
    refine ⟨(host.toList, numeral.toList), ?_, ?_⟩
    · have hlast : ∀ c ∈ numeral.toList, ¬ (c == ':') = true := fun c hc hcolon =>
        hnumeral (beq_iff_eq.mp hcolon ▸ hc)
      simpa using splitLast?_append_cons (p := (· == ':')) host.toList (beq_self_eq_true ':') hlast
    · have hne : host.toList.isEmpty = false := by simpa using hhost
      simp [hne, hport]

/-- A text addresses one host and one port. -/
theorem Addresses.unique {text host host' : String} {port port' : UInt16}
    (h : Addresses text host port) (h' : Addresses text host' port') :
    host = host' ∧ port = port' := by
  rw [← splitAddress?_eq_some_iff] at h h'
  exact Prod.mk.inj (Option.some.inj (h.symm.trans h'))

/-- The usual text for a host and a port addresses them. -/
theorem addresses_toString {host : String} {port : UInt16} (hhost : host ≠ "") :
    Addresses s!"{host}:{port.toNat}" host port := by
  refine ⟨toString port.toNat, rfl, fun hcolon => ?_, hhost, Decimal.parseU16?_toString port⟩
  have hdigit : ':' ∈ Nat.toDigits 10 port.toNat := Nat.toList_repr ▸ hcolon
  exact absurd (Nat.isDigit_of_mem_toDigits (by decide) (by decide) hdigit) (by decide)

end LedgerClient
