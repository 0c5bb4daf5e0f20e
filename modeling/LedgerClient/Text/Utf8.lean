import LedgerClient.Text.Bytes

/-!
# UTF-8

Reading and writing of UTF-8. `pieces` cuts any byte string into characters and
maximal malformed runs; the strict reader `decode` stops at the first malformed run and
says where it is and how long, the lenient reader `decodeLossy` puts U+FFFD in its
place.

A malformed run is the longest prefix of a well-formed character that the following byte
breaks, or one byte where no character can start. If the input ends inside a character
the rest is a truncated run.
-/

namespace LedgerClient.Utf8

/-- Where strict reading stopped: the number of well-formed bytes before the fault and,
unless the input merely ended too early, the length of the malformed run. -/
structure Fault where
  index : Nat
  length : Option Nat
  deriving DecidableEq, Repr

/-- The wording of a fault. -/
def Fault.message (f : Fault) : String :=
  match f.length with
  | some n => s!"invalid utf-8 sequence of {n} bytes from index {f.index}"
  | none => s!"incomplete utf-8 byte sequence from index {f.index}"

/-- The bytes of one character, given by its code. -/
def encodeCode (c : Nat) : Bytes :=
  if c < 0x80 then [UInt8.ofNat c]
  else if c < 0x800 then
    [UInt8.ofNat (0xC0 + c / 64), UInt8.ofNat (0x80 + c % 64)]
  else if c < 0x10000 then
    [UInt8.ofNat (0xE0 + c / 4096), UInt8.ofNat (0x80 + c / 64 % 64),
      UInt8.ofNat (0x80 + c % 64)]
  else
    [UInt8.ofNat (0xF0 + c / 262144), UInt8.ofNat (0x80 + c / 4096 % 64),
      UInt8.ofNat (0x80 + c / 64 % 64), UInt8.ofNat (0x80 + c % 64)]

/-- The bytes of a text. -/
def encode (s : String) : Bytes :=
  s.toList.flatMap fun c => encodeCode c.toNat

/-- A stretch of a byte string: a character, a malformed run, or the truncated end. -/
inductive Piece where
  | char (c : Char)
  | malformed (length : Nat)
  | truncated
  deriving DecidableEq, Repr

/-- The number of bytes a character has by its first byte; zero if none starts so. -/
def width (b : Nat) : Nat :=
  if b < 0x80 then 1
  else if 0xC2 ≤ b ∧ b ≤ 0xDF then 2
  else if 0xE0 ≤ b ∧ b ≤ 0xEF then 3
  else if 0xF0 ≤ b ∧ b ≤ 0xF4 then 4
  else 0

/-- Which second bytes may follow a first byte. The first byte decides the range where
overlong forms, surrogates and codes above U+10FFFF are kept out. -/
def secondOk (first second : Nat) : Bool :=
  let low := if first = 0xE0 then 0xA0 else if first = 0xF0 then 0x90 else 0x80
  let high := if first = 0xED then 0x9F else if first = 0xF4 then 0x8F else 0xBF
  low ≤ second && second ≤ high

/-- Whether a byte may stand third or fourth. -/
def continues (b : Nat) : Bool :=
  0x80 ≤ b && b ≤ 0xBF

/-- The piece that starts with byte `first` and goes on with bytes of `rest`. -/
def pieceAt (first : UInt8) (rest : Bytes) : Piece :=
  let b := first.toNat
  match width b, rest.map UInt8.toNat with
  | 0, _ => .malformed 1
  | 1, _ => .char (Char.ofNat b)
  | 2, [] => .truncated
  | 2, c :: _ =>
    if secondOk b c then .char (Char.ofNat ((b - 0xC0) * 64 + (c - 0x80)))
    else .malformed 1
  | 3, [] => .truncated
  | 3, [c] => if secondOk b c then .truncated else .malformed 1
  | 3, c :: d :: _ =>
    if !secondOk b c then .malformed 1
    else if !continues d then .malformed 2
    else .char (Char.ofNat ((b - 0xE0) * 4096 + (c - 0x80) * 64 + (d - 0x80)))
  | _, [] => .truncated
  | _, [c] => if secondOk b c then .truncated else .malformed 1
  | _, [c, d] =>
    if !secondOk b c then .malformed 1
    else if !continues d then .malformed 2
    else .truncated
  | _, c :: d :: e :: _ =>
    if !secondOk b c then .malformed 1
    else if !continues d then .malformed 2
    else if !continues e then .malformed 3
    else .char (Char.ofNat
      ((b - 0xF0) * 262144 + (c - 0x80) * 4096 + (d - 0x80) * 64 + (e - 0x80)))

/-- Cuts a byte string into pieces; the first `skip` bytes belong to a piece already
taken. -/
def piecesAfter : (skip : Nat) → Bytes → List Piece
  | _, [] => []
  | skip + 1, _ :: rest => piecesAfter skip rest
  | 0, b :: rest =>
    match pieceAt b (rest.take 3) with
    | .char c => .char c :: piecesAfter (width b.toNat - 1) rest
    | .malformed n => .malformed n :: piecesAfter (n - 1) rest
    | .truncated => [.truncated]

/-- The pieces of a byte string, in order. -/
def pieces (bytes : Bytes) : List Piece :=
  piecesAfter 0 bytes

/-- The characters of pieces that are all well formed, or the first fault; `index` bytes
went before. -/
def charsOf (index : Nat) : List Piece → Except Fault (List Char)
  | [] => .ok []
  | .char c :: rest =>
    match charsOf (index + (encodeCode c.toNat).length) rest with
    | .ok cs => .ok (c :: cs)
    | .error f => .error f
  | .malformed n :: _ => .error ⟨index, some n⟩
  | .truncated :: _ => .error ⟨index, none⟩

/-- Strict reading: the text of the bytes, or the first fault. -/
def decode (bytes : Bytes) : Except Fault String :=
  (charsOf 0 (pieces bytes)).map String.ofList

/-- The character a piece has in lenient reading. -/
def Piece.lenient : Piece → Char
  | .char c => c
  | .malformed _ | .truncated => Char.ofNat 0xFFFD

/-- Lenient reading: each malformed run becomes one U+FFFD. -/
def decodeLossy (bytes : Bytes) : String :=
  String.ofList ((pieces bytes).map Piece.lenient)

end LedgerClient.Utf8
