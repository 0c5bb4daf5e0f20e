import LedgerClient.Proofs.Codec.Canonical
import LedgerClient.Proofs.Codec.Place

/-!
# Encodings that show their own end

A codec is self-delimiting if what it reads off the front of some bytes it reads off these bytes
alone, whatever stands behind them. Then nothing that is missing at the end of an encoding can be
made up for: of the beginnings of an encoding only the whole is read as a value.

Where each value has one encoding this comes with the laws of the codec. A map may be spelled in
many ways, so types with maps get it from their parts.

## Main results

* `Codec.SelfDelimiting.pair`, `Codec.SelfDelimiting.list`, …: the combinators hand it on.
* `Codec.SelfDelimiting.decode_error_of_cut`: an encoding that is cut short is not read.
-/

namespace LedgerClient.Codec

variable {α β : Type}

/-- What is read takes up bytes that are read the same whatever stands behind them. -/
class SelfDelimiting (c : Codec α) : Prop where
  exists_spells : ∀ {bytes rest : Bytes} {a : α}, c.decode bytes = .ok (a, rest) →
    ∃ front, bytes = front ++ rest ∧ Spells c.decode front a

namespace SelfDelimiting

/-- If a value is read from its encoding only, this is what it takes up. -/
instance canonical {c : Codec α} [hc : c.Canonical] [hl : c.Lawful] : c.SelfDelimiting where
  exists_spells {_ _ a} h :=
    ⟨c.encode a, hc.eq_encode_append h, hl.decode_encode (hl.fits_of_decode h)⟩

/-- A value that stands for another one takes up what the other one does. -/
instance iso {c : Codec α} [hc : c.SelfDelimiting] {pack : α → β} {unpack : β → α} :
    (c.iso pack unpack).SelfDelimiting where
  exists_spells h := by
    obtain ⟨a, ha, rfl⟩ := iso_decode_eq_ok_iff.1 h
    obtain ⟨front, hfront, hspells⟩ := hc.exists_spells ha
    exact ⟨front, hfront, fun tail => iso_decode_eq_ok_iff.2 ⟨a, hspells tail, rfl⟩⟩

/-! ### Sequences -/

instance pair {c : Codec α} {d : Codec β} [hc : c.SelfDelimiting] [hd : d.SelfDelimiting] :
    (c.pair d).SelfDelimiting where
  exists_spells {_ _ p} h := by
    obtain ⟨mid, ha, hb⟩ := pair_decode_eq_ok_iff.1 h
    obtain ⟨front, rfl, hfront⟩ := hc.exists_spells ha
    obtain ⟨front', rfl, hfront'⟩ := hd.exists_spells hb
    refine ⟨front ++ front', (List.append_assoc ..).symm, fun tail => ?_⟩
    rw [List.append_assoc]
    exact pair_decode_eq_ok_iff.2 ⟨_, hfront _, hfront' tail⟩

variable {c : Codec α} [hc : c.SelfDelimiting]

/-- Values that are read one after another take up what each of them does. -/
theorem exists_spells_readMany {count : Nat} {bytes rest : Bytes} {as : List α}
    (h : readMany c count bytes = .ok (as, rest)) :
    ∃ front, bytes = front ++ rest ∧ Spells (readMany c count) front as := by
  induction count generalizing bytes as with
  | zero =>
      cases h
      exact ⟨[], rfl, fun _ => rfl⟩
  | succ count ih =>
      obtain ⟨a, as', mid, rfl, ha, has⟩ := readMany_succ_eq_ok_iff.1 h
      obtain ⟨front, rfl, hfront⟩ := hc.exists_spells ha
      obtain ⟨front', rfl, hfront'⟩ := ih has
      refine ⟨front ++ front', (List.append_assoc ..).symm, fun tail => ?_⟩
      rw [List.append_assoc]
      exact readMany_succ_eq_ok_iff.2 ⟨a, as', _, rfl, hfront _, hfront' tail⟩

instance list : (list c).SelfDelimiting where
  exists_spells h := by
    obtain ⟨n, mid, hn, has⟩ := list_decode_eq_ok_iff.1 h
    obtain ⟨hlt, rfl⟩ := readLow_eq_ok_iff.1 hn
    obtain ⟨front, rfl, hfront⟩ := exists_spells_readMany has
    refine ⟨writeLow 8 n ++ front, (List.append_assoc ..).symm, fun tail => ?_⟩
    rw [List.append_assoc]
    exact list_decode_eq_ok_iff.2 ⟨n, _, readLow_writeLow hlt _, hfront tail⟩

/-- A map takes up what the list of its pairs does, in whatever order they stand. -/
instance sortedMap {κ ν : Type} [Ord κ] [Std.TransOrd κ] [Std.LawfulEqOrd κ] {key : Codec κ}
    {value : Codec ν} [key.SelfDelimiting] [value.SelfDelimiting] :
    (sortedMap key value).SelfDelimiting :=
  SelfDelimiting.iso

/-- A variant takes up its position and its content. -/
theorem choice {variants : List (Variant α)}
    (contents : ∀ v ∈ variants, v.codec.SelfDelimiting) : (choice variants).SelfDelimiting where
  exists_spells h := by
    obtain ⟨i, v, mid, content, hi, hv, hcontent, rfl⟩ := choice_decode_eq_ok_iff.1 h
    obtain ⟨hlt, rfl⟩ := readLow_eq_ok_iff.1 hi
    obtain ⟨front, rfl, hfront⟩ := (contents v (List.mem_of_getElem? hv)).exists_spells hcontent
    refine ⟨writeLow 4 i ++ front, (List.append_assoc ..).symm, fun tail => ?_⟩
    rw [List.append_assoc]
    exact choice_decode_eq_ok_iff.2
      ⟨i, v, _, content, readLow_writeLow hlt _, hv, hfront tail, rfl⟩

/-! ### Encodings that are cut short -/

/-- Of the beginnings of an encoding only the whole is read: a value that was read from a shorter
one would be read from the whole as well, with something left over. -/
theorem decode_error_of_cut [hl : c.Lawful] {a : α} (ha : c.Fits a) {cut : Bytes}
    (hcut : cut <+: c.encode a) (hne : cut ≠ c.encode a) : ∃ fault, c.decode cut = .error fault := by
  obtain ⟨missing, hmissing⟩ := hcut
  cases hdecode : c.decode cut with
  | error fault => exact ⟨fault, rfl⟩
  | ok read =>
      obtain ⟨a', rest⟩ := read
      obtain ⟨front, rfl, hfront⟩ := hc.exists_spells hdecode
      have hwhole := hl.decode_encode ha []
      rw [List.append_nil, ← hmissing, List.append_assoc, hfront] at hwhole
      have hnothing : rest ++ missing = [] := congrArg Prod.snd (Except.ok.inj hwhole)
      rw [(List.append_eq_nil_iff.1 hnothing).2, List.append_nil] at hmissing
      exact absurd hmissing hne

end SelfDelimiting

end LedgerClient.Codec
