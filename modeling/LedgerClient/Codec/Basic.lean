import LedgerClient.Data.SortedMap
import LedgerClient.Text.Utf8

/-!
# Binary codecs

A codec writes a value as bytes and reads one off the front of a byte string, handing
back what it did not read. The combinators below describe the wire format: integers of
fixed width with the low byte first, lengths in eight bytes, the choice among the
variants of a type in four bytes, one byte for an option's presence or a truth value, and
maps as lists of key and value in key order.

A reader that asks for more than the input holds fails; it never makes up a missing part,
and it leaves any bytes after the value alone.

Widths are limits: a list of more elements than eight bytes can count has no encoding that
says so. Each codec therefore tells which values fit its widths.
-/

namespace LedgerClient

/-- Why bytes could not be read as a value. -/
inductive DecodeFault where
  /-- A read of known width hit the end of the input. -/
  | endOfInput
  /-- A text's length exceeds what is left of the input. -/
  | textPastEnd
  | invalidUtf8 (fault : Utf8.Fault)
  /-- The byte in front of an optional value was neither zero nor one. -/
  | optionTag (found : UInt8)
  /-- The byte of a truth value was neither zero nor one. -/
  | truthByte (found : UInt8)
  /-- The variant index was not below the number of variants. -/
  | variantIndex (found count : Nat)
  deriving DecidableEq, Repr

/-- The wording of a fault. -/
def DecodeFault.message : DecodeFault → String
  | .endOfInput => "io error: unexpected end of file"
  | .textPastEnd => "io error: "
  | .invalidUtf8 fault => s!"string is not valid utf8: {fault.message}"
  | .optionTag found => s!"tag for enum is not valid, found {found.toNat}"
  | .truthByte found =>
    s!"invalid u8 while decoding bool, expected 0 or 1, found {found.toNat}"
  | .variantIndex found count =>
    s!"invalid value: integer `{found}`, expected variant index 0 <= i < {count}"

/-- A reader's answer: a value and the bytes behind it, or a fault. -/
abbrev Decoded (α : Type) := Except DecodeFault (α × Bytes)

/-- The answer with its value changed by `f`; faults stay as they are. -/
def Decoded.map {α β : Type} (f : α → β) : Decoded α → Decoded β
  | .ok (a, rest) => .ok (f a, rest)
  | .error fault => .error fault

/-- A way to write values of a type as bytes and to read them back. -/
structure Codec (α : Type) where
  encode : α → Bytes
  decode : Bytes → Decoded α
  /-- Whether no number in a value is too large for its width in bytes, and no text, list or
  map too long for the width of its length. -/
  Fits : α → Prop

namespace Codec

/-! ### Integers -/

/-- The `width` low bytes of a number, lowest first. -/
def writeLow : (width : Nat) → Nat → Bytes
  | 0, _ => []
  | width + 1, n => UInt8.ofNat (n % 256) :: writeLow width (n / 256)

/-- Reads a number of `width` bytes, lowest first. -/
def readLow : (width : Nat) → Bytes → Decoded Nat
  | 0, bytes => .ok (0, bytes)
  | _ + 1, [] => .error .endOfInput
  | width + 1, b :: rest =>
    match readLow width rest with
    | .ok (n, rest) => .ok (b.toNat + 256 * n, rest)
    | .error fault => .error fault

/-- How many numbers have at most a given width in bytes. -/
def capacity : (width : Nat) → Nat
  | 0 => 1
  | width + 1 => 256 * capacity width

/-- A number of a fixed width in bytes. -/
def fixed (width : Nat) : Codec Nat where
  encode := writeLow width
  decode := readLow width
  Fits n := n < capacity width

/-- The codec of a type whose values stand for values of another one. -/
def iso {α β : Type} (c : Codec α) (pack : α → β) (unpack : β → α) : Codec β where
  encode b := c.encode (unpack b)
  decode bytes := (c.decode bytes).map pack
  Fits b := c.Fits (unpack b)

def u8 : Codec UInt8 := (fixed 1).iso UInt8.ofNat UInt8.toNat

def u16 : Codec UInt16 := (fixed 2).iso UInt16.ofNat UInt16.toNat

def u32 : Codec UInt32 := (fixed 4).iso UInt32.ofNat UInt32.toNat

def u64 : Codec UInt64 := (fixed 8).iso UInt64.ofNat UInt64.toNat

/-- Signed integers are written in two's complement. -/
def i32 : Codec Int32 := u32.iso UInt32.toInt32 Int32.toUInt32

def i64 : Codec Int64 := u64.iso UInt64.toInt64 Int64.toUInt64

/-! ### Truth values, texts and sequences -/

/-- One byte, zero or one. -/
def bool : Codec Bool where
  encode b := [if b then 1 else 0]
  decode
    | [] => .error .endOfInput
    | b :: rest =>
      if b = 0 then .ok (false, rest)
      else if b = 1 then .ok (true, rest)
      else .error (.truthByte b)
  Fits _ := True

/-- The number of bytes and the text in UTF-8. -/
def text : Codec String where
  encode s := writeLow 8 (Utf8.encode s).length ++ Utf8.encode s
  decode bytes :=
    match readLow 8 bytes with
    | .error fault => .error fault
    | .ok (n, rest) =>
      if rest.length < n then .error .textPastEnd
      else
        match Utf8.decode (rest.take n) with
        | .ok s => .ok (s, rest.drop n)
        | .error fault => .error (.invalidUtf8 fault)
  Fits s := (Utf8.encode s).length < capacity 8

/-- Reads `count` values one after another. -/
def readMany {α : Type} (c : Codec α) : (count : Nat) → Bytes → Decoded (List α)
  | 0, bytes => .ok ([], bytes)
  | count + 1, bytes =>
    match c.decode bytes with
    | .error fault => .error fault
    | .ok (a, rest) =>
      match readMany c count rest with
      | .error fault => .error fault
      | .ok (as, rest) => .ok (a :: as, rest)

/-- The number of elements and the elements in order. -/
def list {α : Type} (c : Codec α) : Codec (List α) where
  encode as := writeLow 8 as.length ++ as.flatMap c.encode
  decode bytes :=
    match readLow 8 bytes with
    | .error fault => .error fault
    | .ok (n, rest) => readMany c n rest
  Fits as := as.length < capacity 8 ∧ ∀ a ∈ as, c.Fits a

/-- A byte string, as the list of its bytes. -/
def bytes : Codec Bytes := list u8

/-- One byte that tells whether there is a value, and the value. -/
def option {α : Type} (c : Codec α) : Codec (Option α) where
  encode
    | none => [0]
    | some a => 1 :: c.encode a
  decode
    | [] => .error .endOfInput
    | b :: rest =>
      if b = 0 then .ok (none, rest)
      else if b = 1 then (c.decode rest).map some
      else .error (.optionTag b)
  Fits o := ∀ a ∈ o, c.Fits a

/-- Two values, one behind the other. -/
def pair {α β : Type} (c : Codec α) (d : Codec β) : Codec (α × β) where
  encode p := c.encode p.1 ++ d.encode p.2
  decode bytes :=
    match c.decode bytes with
    | .error fault => .error fault
    | .ok (a, rest) =>
      match d.decode rest with
      | .error fault => .error fault
      | .ok (b, rest) => .ok ((a, b), rest)
  Fits p := c.Fits p.1 ∧ d.Fits p.2

/-- A map, as the list of its entries in key order. Entries may be read in any order; of
several with one key the last one counts. -/
def sortedMap {κ ν : Type} [Ord κ] [Std.TransOrd κ] [Std.LawfulEqOrd κ]
    (key : Codec κ) (value : Codec ν) : Codec (SortedMap κ ν) :=
  (list (key.pair value)).iso SortedMap.ofList SortedMap.entries

/-! ### Choices -/

/-- No bytes at all. -/
def unit : Codec Unit where
  encode _ := []
  decode bytes := .ok ((), bytes)
  Fits _ := True

/-- A type without data of its own: the position of the value among `values`. -/
def enumeration {α : Type} [BEq α] (values : List α) : Codec α where
  encode a := writeLow 4 (values.idxOf a)
  decode bytes :=
    match readLow 4 bytes with
    | .error fault => .error fault
    | .ok (i, rest) =>
      match values[i]? with
      | some a => .ok (a, rest)
      | none => .error (.variantIndex i values.length)
  Fits a := values.contains a

/-- One variant of a type: what it holds, how it is built, and how it is recognised. -/
structure Variant (α : Type) where
  {Content : Type}
  inject : Content → α
  project : α → Option Content
  codec : Codec Content

/-- The position and content of the first variant that recognises a value. -/
def writeVariant {α : Type} (a : α) : (index : Nat) → List (Variant α) → Bytes
  | _, [] => []
  | index, v :: rest =>
    match v.project a with
    | some content => writeLow 4 index ++ v.codec.encode content
    | none => writeVariant a (index + 1) rest

/-- Whether the content fits that the first variant to recognise a value finds in it. -/
def FitsVariant {α : Type} (a : α) : List (Variant α) → Prop
  | [] => False
  | v :: rest =>
    match v.project a with
    | some content => v.codec.Fits content
    | none => FitsVariant a rest

/-- A type with several variants: the variant's position and its content. -/
def choice {α : Type} (variants : List (Variant α)) : Codec α where
  encode a := writeVariant a 0 variants
  decode bytes :=
    match readLow 4 bytes with
    | .error fault => .error fault
    | .ok (i, rest) =>
      match variants[i]? with
      | none => .error (.variantIndex i variants.length)
      | some v => (v.codec.decode rest).map v.inject
  Fits a := FitsVariant a variants

end Codec

end LedgerClient
