import LedgerClient.Codec.Basic
import LedgerClient.Text.Blank
import LedgerClient.Text.Decimal

/-!
# Block numbers and positions

A block number is a 64-bit word; what lies behind the largest one is held at it. A position is
where a stream of blocks starts or ends: at a number, at the oldest or newest block, or
behind the last block that was seen, which `BlockPosition.resolve` turns into one of the
others.

## Main results

* `BlockNumber.toNat_next`: the successor in natural numbers, held at the largest word.
* `BlockNumber.ahead_lt_iff`: holding a number at the largest word does not show when it is
  compared with another one from below.
* `BlockPosition.resolve_ne_lastSeen`: a resolved position no longer depends on what was
  seen.
-/

namespace LedgerClient

/-- The number of a block in its chain. -/
structure BlockNumber where
  value : UInt64
  deriving DecidableEq, Repr, Inhabited

namespace BlockNumber

instance : Ord BlockNumber := ⟨fun a b => compare a.value b.value⟩

instance : LE BlockNumber := ⟨fun a b => a.value ≤ b.value⟩

instance : LT BlockNumber := ⟨fun a b => a.value < b.value⟩

instance (a b : BlockNumber) : Decidable (a ≤ b) :=
  inferInstanceAs (Decidable (a.value ≤ b.value))

instance (a b : BlockNumber) : Decidable (a < b) :=
  inferInstanceAs (Decidable (a.value < b.value))

/-- Block numbers are ordered as natural numbers are. -/
theorem le_iff_toNat_le {a b : BlockNumber} : a ≤ b ↔ a.value.toNat ≤ b.value.toNat :=
  UInt64.le_iff_toNat_le

theorem lt_iff_toNat_lt {a b : BlockNumber} : a < b ↔ a.value.toNat < b.value.toNat :=
  UInt64.lt_iff_toNat_lt

instance : Max BlockNumber := .leftLeaningOfLE BlockNumber

instance : Std.IsLinearOrder BlockNumber := .of_le
  { antisymm := fun ⟨_⟩ ⟨_⟩ h h' => congrArg _ (UInt64.le_antisymm h h') }
  ⟨UInt64.le_trans⟩ ⟨fun a b => UInt64.le_total a.value b.value⟩

instance : ToString BlockNumber := ⟨fun n => n.value.toNat.repr⟩

def zero : BlockNumber := ⟨0⟩

/-- The largest block number. -/
def max : BlockNumber := ⟨18446744073709551615⟩

/-- The number behind; the largest one is its own successor. -/
def next (n : BlockNumber) : BlockNumber :=
  if n = max then n else ⟨n.value + 1⟩

/-- The successor in natural numbers, held at the largest word. -/
theorem toNat_next (n : BlockNumber) :
    n.next.value.toNat = min (n.value.toNat + 1) max.value.toNat := by
  obtain ⟨v⟩ := n
  simp only [next, max, BlockNumber.mk.injEq]
  have hmax : (18446744073709551615 : UInt64).toNat = 18446744073709551615 := rfl
  split
  · next h =>
    subst h
    rw [hmax]
    omega
  · next h =>
    have hv : v.toNat ≠ 18446744073709551615 := fun e => h (UInt64.toNat_inj.1 (e.trans hmax.symm))
    have hb := v.toNat_lt
    rw [hmax, UInt64.toNat_add]
    change (v.toNat + 1) % 2 ^ 64 = _
    omega

/-- The number that is a gap ahead, or the largest one if there is none that far ahead. -/
def ahead (n : BlockNumber) (gap : UInt64) : BlockNumber :=
  if n.value + gap < n.value then max else ⟨n.value + gap⟩

/-- Going ahead in natural numbers, held at the largest word. -/
theorem toNat_ahead (n : BlockNumber) (gap : UInt64) :
    (n.ahead gap).value.toNat = min (n.value.toNat + gap.toNat) max.value.toNat := by
  have hmax : max.value.toNat = 18446744073709551615 := rfl
  have hn := n.value.toNat_lt
  have hgap := gap.toNat_lt
  have hsum : (n.value + gap).toNat = (n.value.toNat + gap.toNat) % 2 ^ 64 :=
    UInt64.toNat_add n.value gap
  rw [ahead]
  split
  · next h =>
    rw [UInt64.lt_iff_toNat_lt] at h
    rw [hmax]
    omega
  · next h =>
    rw [UInt64.lt_iff_toNat_lt] at h
    rw [hmax, hsum]
    omega

/-- A number is below another one by more than a gap as natural numbers are, though the sum is
held at the largest word. -/
theorem ahead_lt_iff {n m : BlockNumber} {gap : UInt64} :
    n.ahead gap < m ↔ n.value.toNat + gap.toNat < m.value.toNat := by
  have hmax : max.value.toNat = 18446744073709551615 := rfl
  have hm := m.value.toNat_lt
  rw [lt_iff_toNat_lt, toNat_ahead, hmax]
  omega

/-- Reads a number with white space around it. -/
def parse? (s : String) : Option BlockNumber :=
  (Decimal.parseU64? (Text.trim s)).map (⟨·⟩)

def codec : Codec BlockNumber := Codec.u64.iso (⟨·⟩) value

end BlockNumber

/-- A text that is neither a block number nor a position. -/
structure BlockNumberError where
  text : String
  deriving DecidableEq, Repr

/-- The wording of the error. -/
def BlockNumberError.message (e : BlockNumberError) : String :=
  s!"Invalid block number: {e.text}"

/-- The block number a text spells. -/
def BlockNumber.parse (s : String) : Except BlockNumberError BlockNumber :=
  match BlockNumber.parse? s with
  | some n => .ok n
  | none => .error ⟨s⟩

/-- Where a stream of blocks starts or ends. -/
inductive BlockPosition where
  | newest
  | oldest
  /-- The last block that was seen. -/
  | lastSeen
  | number (n : BlockNumber)
  deriving DecidableEq, Repr, Inhabited

namespace BlockPosition

/-- The position as users type it. -/
def label : BlockPosition → String
  | .newest => "newest"
  | .oldest => "oldest"
  | .lastSeen => "last_seen"
  | .number n => toString n

/-- The position a text spells, whatever its case and the white space around it. -/
def parse (s : String) : Except BlockNumberError BlockPosition :=
  match Text.keyword s with
  | "newest" => .ok .newest
  | "oldest" => .ok .oldest
  | "last_seen" => .ok .lastSeen
  | other => (BlockNumber.parse other).map .number

/-- The position with the last block filled in: the newest one if none was seen. -/
def resolve (p : BlockPosition) (last : Option BlockNumber) : BlockPosition :=
  match p, last with
  | .lastSeen, some n => .number n
  | .lastSeen, none => .newest
  | p, _ => p

/-- A resolved position no longer depends on what was seen. -/
theorem resolve_ne_lastSeen (p : BlockPosition) (last : Option BlockNumber) :
    p.resolve last ≠ .lastSeen := by
  cases p <;> cases last <;> simp [resolve]

/-- The block number, for a position that is one. -/
def number? : BlockPosition → Option BlockNumber
  | .number n => some n
  | _ => none

def variants : List (Codec.Variant BlockPosition) :=
  [⟨fun () => .newest, fun | .newest => some () | _ => none, .unit⟩,
    ⟨fun () => .oldest, fun | .oldest => some () | _ => none, .unit⟩,
    ⟨fun () => .lastSeen, fun | .lastSeen => some () | _ => none, .unit⟩,
    ⟨.number, number?, BlockNumber.codec⟩]

def codec : Codec BlockPosition := .choice variants

end BlockPosition

end LedgerClient
