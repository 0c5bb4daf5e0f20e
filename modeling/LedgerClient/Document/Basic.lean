import LedgerClient.Data.SortedMap
import LedgerClient.Text.Bytes
import LedgerClient.Text.Decimal

/-!
# Documents

A document is the readable form of a value: texts, whole numbers, truth values, lists and
objects with named fields. People write documents to say what a client shall do, and read
documents to see what it did.

`Shown` gives the document of a value and `Form` reads it back as well. Byte strings are
written in hexadecimal, and 64 bit numbers as texts, since readers of numbers tend to lose
digits beyond 53 bits. A field that is missing or null stands for the value that its type
has by default, if it has one.

The document of a record lists its fields. `Fields` says both directions at once, so that
a field's name is written down once.
-/

namespace LedgerClient

/-- The readable form of a value. -/
inductive Document where
  | null
  | bool (value : Bool)
  | number (value : Int)
  | text (value : String)
  | list (items : List Document)
  | object (fields : List (String × Document))
  deriving Inhabited, Repr

/-- A type whose values can be shown. -/
class Shown (α : Type) where
  document : α → Document

/-- The document of a value. -/
def shown {α : Type} [Shown α] (a : α) : Document :=
  Shown.document a

/-- A type whose values can be shown and read. -/
class Form (α : Type) extends Shown α where
  read? : Document → Option α
  /-- What a field stands for that is missing or null. -/
  absent? : Option α

namespace Document

/-- The document of a number. -/
def ofNat (n : Nat) : Document :=
  .number n

/-- A field of an object; one that is null counts as missing. -/
def field? (d : Document) (key : String) : Option Document :=
  match d with
  | .object fields =>
    match fields.lookup key with
    | some .null => none
    | found => found
  | _ => none

/-- The value of a field, or what a missing field stands for. -/
def get? {α : Type} [Form α] (d : Document) (key : String) : Option α :=
  match d.field? key with
  | some value => Form.read? value
  | none => Form.absent?

/-- The value of a field, if the field is there. -/
def find? {α : Type} [Form α] (d : Document) (key : String) : Option (Option α) :=
  match d.field? key with
  | some value => (Form.read? value).map some
  | none => some none

/-- The elements of a list. -/
def items? : Document → Option (List Document)
  | .list items => some items
  | _ => none

/-- The fields of an object. -/
def fields? : Document → Option (List (String × Document))
  | .object fields => some fields
  | _ => none

/-- A variant of a type: its name, or an object whose only field is named for it and holds
its content. -/
def variant? : Document → Option (String × Document)
  | .object [(name, content)] => some (name, content)
  | .text name => some (name, .null)
  | _ => none

/-- A whole number between two bounds. -/
def int? (low high : Int) : Document → Option Int
  | .number n => if low ≤ n ∧ n ≤ high then some n else none
  | _ => none

/-- A natural number below a bound, as a number or as a numeral. -/
def nat? (bound : Nat) : Document → Option Nat
  | .text s => Decimal.parse? bound s
  | d => (d.int? 0 (bound - 1 : Nat)).map Int.toNat

end Document

/-! ### Values -/

instance : Form Document where
  document := id
  read? := some
  absent? := some .null

instance : Form String where
  document := .text
  read?
    | .text s => some s
    | _ => none
  absent? := some ""

instance : Form Bool where
  document := .bool
  read?
    | .bool b => some b
    | _ => none
  absent? := some false

instance : Form UInt64 where
  document n := .text (toString n.toNat)
  read? d := (d.nat? UInt64.size).map UInt64.ofNat
  absent? := some 0

instance : Form UInt32 where
  document n := .ofNat n.toNat
  read? d := (d.nat? UInt32.size).map UInt32.ofNat
  absent? := some 0

instance : Form UInt16 where
  document n := .ofNat n.toNat
  read? d := (d.nat? UInt16.size).map UInt16.ofNat
  absent? := some 0

instance : Form UInt8 where
  document n := .ofNat n.toNat
  read? d := (d.nat? UInt8.size).map UInt8.ofNat
  absent? := some 0

instance : Form Int32 where
  document n := .number n.toInt
  read? d := (d.int? Int32.minValue.toInt Int32.maxValue.toInt).map Int32.ofInt
  absent? := some 0

instance : Form Int64 where
  document n := .number n.toInt
  read? d := (d.int? Int64.minValue.toInt Int64.maxValue.toInt).map Int64.ofInt
  absent? := some 0

/-- Milliseconds are shown like 64 bit numbers. -/
instance : Form Nat where
  document n := .text (toString n)
  read? d := d.nat? UInt64.size
  absent? := some 0

instance {α : Type} [Shown α] : Shown (Option α) where
  document
    | some a => shown a
    | none => .null

instance {α : Type} [Form α] : Form (Option α) where
  read?
    | .null => some none
    | d => (Form.read? d).map some
  absent? := some none

instance {α : Type} [Shown α] : Shown (List α) where
  document items := .list (items.map shown)

instance {α : Type} [Form α] : Form (List α) where
  read?
    | .list items => items.mapM Form.read?
    | _ => none
  absent? := some []

/-- Byte strings are not shown as lists. -/
instance : Shown Bytes where
  document b := .text (Hex.encode b)

instance : Form Bytes where
  read?
    | .text s => Hex.decode? s
    | _ => none
  absent? := some []

instance {α β : Type} [Shown α] [Shown β] : Shown (α × β) where
  document p := .list [shown p.1, shown p.2]

instance {α β : Type} [Form α] [Form β] : Form (α × β) where
  read?
    | .list [a, b] => do return (← Form.read? a, ← Form.read? b)
    | _ => none
  absent? := none

instance {α : Type} [Shown α] : Shown (SortedMap String α) where
  document m := .object (m.entries.map fun e => (e.1, shown e.2))

instance {α : Type} [Form α] : Form (SortedMap String α) where
  read? d := do
    let pairs ← (← d.fields?).mapM fun e => return (e.1, ← Form.read? e.2)
    return SortedMap.ofList pairs
  absent? := some ∅

instance {α : Type} [Shown α] : Shown (SortedMap UInt64 α) where
  document m := .object (m.entries.map fun e => (toString e.1.toNat, shown e.2))

instance {α : Type} [Form α] : Form (SortedMap UInt64 α) where
  read? d := do
    let pairs ← (← d.fields?).mapM fun e =>
      return (← Decimal.parseU64? e.1, ← Form.read? e.2)
    return SortedMap.ofList pairs
  absent? := some ∅

/-! ### Words -/

namespace Form

/-- The form of a type whose values are words. -/
abbrev words {α : Type} (all : List α) (name : α → String) (absent? : Option α) : Form α where
  document a := .text (name a)
  read?
    | .text s => all.find? fun a => name a == s
    | _ => none
  absent?

/-- A label in capitals with its words run together: `SOME_LABEL` is written `SomeLabel`. -/
def camel (label : String) : String :=
  String.join ((label.splitOn "_").map fun w => w.toLower.capitalize)

end Form

/-! ### Records -/

/-- Fields of a record of type `ρ`: how they are written, and how a value is made of them. -/
structure Fields (ρ α : Type) where
  write : ρ → List (String × Document)
  read? : Document → Option α

namespace Fields

variable {ρ α β : Type}

instance : Functor (Fields ρ) where
  map f x := ⟨x.write, fun d => (x.read? d).map f⟩

instance : Seq (Fields ρ) where
  seq f x := ⟨fun r => f.write r ++ (x ()).write r, fun d => do (← f.read? d) (← (x ()).read? d)⟩

end Fields

/-- A single field of a record. -/
def field {ρ α : Type} [Form α] (key : String) (get : ρ → α) : Fields ρ α :=
  ⟨fun r => [(key, shown (get r))], fun d => d.get? key⟩

/-- The form of a record. It has a default if all its fields have one. -/
abbrev Form.record {ρ : Type} (fields : Fields ρ ρ) : Form ρ where
  document r := .object (fields.write r)
  read?
    | .object given => fields.read? (.object given)
    | _ => none
  absent? := fields.read? (.object [])

end LedgerClient
