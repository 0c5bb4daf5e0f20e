import LedgerClient.Text.Bytes

/-!
# TOML scalars

Reads the strings, numbers and points in time of TOML from the start of a text, with what
follows them.
-/

namespace LedgerClient.Toml

/-- Reads something from the start of a text. -/
abbrev Reader (α : Type) := List Char → Option (α × List Char)

/-- Reads the given characters. -/
def expect (word : List Char) (cs : List Char) : Option (List Char) :=
  if word.isPrefixOf cs then some (cs.drop word.length) else none

/-- Tries a reader, and another one if it fails. -/
def orElse {α : Type} (first second : Reader α) : Reader α := fun cs =>
  match first cs with
  | some r => some r
  | none => second cs

/-! ### Blanks -/

/-- Whether a character separates within a line. -/
def isSpace (c : Char) : Bool := c == ' ' || c == '\t'

/-- Drops blanks of the line. -/
def skipSpace (cs : List Char) : List Char := cs.dropWhile isSpace

/-- Reads the end of a line. -/
def newline? : List Char → Option (List Char)
  | '\n' :: rest => some rest
  | '\r' :: '\n' :: rest => some rest
  | _ => none

/-- Whether a character may stand in a comment. -/
def isPrintable (c : Char) : Bool :=
  c == '\t' || (' ' ≤ c && c.toNat ≠ 0x7F)

/-- Drops a comment, if there is one. -/
def skipComment : List Char → List Char
  | '#' :: rest => rest.dropWhile isPrintable
  | cs => cs

/-- Drops blanks, comments and ends of lines, as far as they are well formed; `fuel` is the
length of the text. -/
def skipLines : (fuel : Nat) → List Char → List Char
  | 0, cs => cs
  | fuel + 1, cs =>
    let rest := skipComment (skipSpace cs)
    match newline? rest with
    | some rest => skipLines fuel rest
    | none => rest

/-! ### Strings -/

/-- The number that hexadecimal digits spell. -/
def hexNumber? (digits : List Char) : Option Nat :=
  digits.foldlM (fun n c => (Hex.digitValue? c).map (16 * n + ·)) 0

/-- Reads the code of a character in so many hexadecimal digits. -/
def readCode (width : Nat) (cs : List Char) : Option (Char × List Char) := do
  let digits := cs.take width
  let n ← hexNumber? digits
  if h : n.isValidChar then
    if digits.length = width then some (Char.ofNatAux n h, cs.drop width) else none
  else none

/-- Reads what follows a backslash. -/
def readEscape : Reader Char
  | 'b' :: rest => some ('\x08', rest)
  | 't' :: rest => some ('\t', rest)
  | 'n' :: rest => some ('\n', rest)
  | 'f' :: rest => some ('\x0c', rest)
  | 'r' :: rest => some ('\r', rest)
  | '"' :: rest => some ('"', rest)
  | '\\' :: rest => some ('\\', rest)
  | 'u' :: rest => readCode 4 rest
  | 'U' :: rest => readCode 8 rest
  | _ => none

/-- Reads on in a string up to its closing quote; `fuel` is the length of the text. -/
def readBasic : (fuel : Nat) → Reader (List Char)
  | _, '"' :: rest => some ([], rest)
  | fuel + 1, '\\' :: rest => do
    let (c, rest) ← readEscape rest
    let (cs, rest) ← readBasic fuel rest
    return (c :: cs, rest)
  | fuel + 1, c :: rest =>
    if isPrintable c then do
      let (cs, rest) ← readBasic fuel rest
      return (c :: cs, rest)
    else none
  | _, _ => none

/-- Reads on in a literal string up to its closing apostrophe. -/
def readLiteral : Reader (List Char)
  | '\'' :: rest => some ([], rest)
  | c :: rest =>
    if isPrintable c then do
      let (cs, rest) ← readLiteral rest
      return (c :: cs, rest)
    else none
  | [] => none

/-- Drops blank space and ends of lines. -/
def skipBlankLines : List Char → List Char
  | '\r' :: '\n' :: rest => skipBlankLines rest
  | c :: rest => if isSpace c || c == '\n' then skipBlankLines rest else c :: rest
  | [] => []

/-- Drops the end of a line and the blank space at the start of what follows. -/
def skipFolded (cs : List Char) : Option (List Char) :=
  (newline? (skipSpace cs)).map skipBlankLines

/-- The quotes that belong to the text of a string of several lines when it ends, at most two,
and what follows the closing ones. -/
def closing (quote : Char) (cs : List Char) : Option (List Char × List Char) :=
  let run := (cs.takeWhile (· == quote)).length
  if run < 3 then none
  else
    let extra := min 2 (run - 3)
    some (List.replicate extra quote, cs.drop (extra + 3))

/-- Reads on in a string of several lines up to its closing quotes; `quote` is a quote or, for
literal strings, an apostrophe. -/
def readLong (quote : Char) : (fuel : Nat) → Reader (List Char)
  | 0, _ => none
  | fuel + 1, cs =>
    match closing quote cs with
    | some r => some r
    | none =>
      match cs with
      | [] => none
      | c :: rest =>
        if c == '\\' && quote == '"' then
          match skipFolded rest with
          | some rest => readLong quote fuel rest
          | none => do
            let (c, rest) ← readEscape rest
            let (cs, rest) ← readLong quote fuel rest
            return (c :: cs, rest)
        else
          match newline? cs with
          | some rest => do
            let (cs, rest) ← readLong quote fuel rest
            return ('\n' :: cs, rest)
          | none =>
            if isPrintable c then do
              let (cs, rest) ← readLong quote fuel rest
              return (c :: cs, rest)
            else none

/-- Reads on in a string of several lines; an end of the line right at its start does not
count. -/
def readMultiline (quote : Char) : Reader (List Char) := fun cs =>
  let body := (newline? cs).getD cs
  readLong quote (body.length + 1) body

/-- Reads a string of one line. -/
def readShortString : Reader String
  | '"' :: rest => (readBasic rest.length rest).map fun (s, rest) => (String.ofList s, rest)
  | '\'' :: rest => (readLiteral rest).map fun (s, rest) => (String.ofList s, rest)
  | _ => none

/-- Reads a string. -/
def readString : Reader String
  | '"' :: '"' :: '"' :: rest =>
    (readMultiline '"' rest).map fun (s, rest) => (String.ofList s, rest)
  | '\'' :: '\'' :: '\'' :: rest =>
    (readMultiline '\'' rest).map fun (s, rest) => (String.ofList s, rest)
  | cs => readShortString cs

/-! ### Numbers -/

/-- Reads on in a run of digits, which single underscores may divide. -/
def moreDigits (isDigit : Char → Bool) : List Char → List Char × List Char
  | '_' :: c :: rest =>
    if isDigit c then
      let (ds, rest) := moreDigits isDigit rest
      (c :: ds, rest)
    else ([], '_' :: c :: rest)
  | c :: rest =>
    if isDigit c then
      let (ds, rest) := moreDigits isDigit rest
      (c :: ds, rest)
    else ([], c :: rest)
  | [] => ([], [])

/-- Reads a run of digits. -/
def readDigits (isDigit : Char → Bool) : Reader (List Char)
  | c :: rest =>
    if isDigit c then
      let (ds, rest) := moreDigits isDigit rest
      some (c :: ds, rest)
    else none
  | [] => none

/-- Reads a sign, if there is one; tells whether it is a minus. -/
def readSign : List Char → Bool × List Char
  | '+' :: rest => (false, rest)
  | '-' :: rest => (true, rest)
  | cs => (false, cs)

/-- Reads decimal digits without leading zeros. -/
def readWhole : Reader (List Char)
  | '0' :: rest => some (['0'], rest)
  | cs => readDigits Char.isDigit cs

/-- The number that digits spell. -/
def number (base : Nat) (digits : List Char) : Nat :=
  digits.foldl (fun n c => base * n + (Hex.digitValue? c).getD 0) 0

/-- A number within 64 bits. -/
def bounded (negative : Bool) (n : Nat) : Option Int :=
  let value : Int := if negative then -(n : Int) else n
  if Int64.minValue.toInt ≤ value ∧ value ≤ Int64.maxValue.toInt then some value else none

/-- Reads digits of a base. -/
def readBase (base : Nat) (cs : List Char) : Option (Int × List Char) := do
  let isDigit (c : Char) : Bool := (Hex.digitValue? c).any (· < base)
  let (ds, rest) ← readDigits isDigit cs
  return (← bounded false (number base ds), rest)

/-- Reads an integer. -/
def readInteger : Reader Int
  | '0' :: 'x' :: rest => readBase 16 rest
  | '0' :: 'o' :: rest => readBase 8 rest
  | '0' :: 'b' :: rest => readBase 2 rest
  | cs => do
    let (negative, cs) := readSign cs
    let (ds, rest) ← readWhole cs
    return (← bounded negative (number 10 ds), rest)

/-- Reads the places behind the point. -/
def readFraction : Reader (List Char)
  | '.' :: rest => readDigits Char.isDigit rest
  | _ => none

/-- Reads an exponent. -/
def readExponent (cs : List Char) : Option (Int × List Char) :=
  match cs with
  | c :: rest =>
    if c == 'e' || c == 'E' then do
      let (negative, rest) := readSign rest
      let (ds, rest) ← readDigits Char.isDigit rest
      let n : Int := number 10 ds
      return (if negative then -n else n, rest)
    else none
  | [] => none

/-- Whether a decimal number is too large for a double: it is nearer to `2 ^ 1024` than to the
largest double. -/
def overflows (mantissa : Nat) (exponent : Int) : Bool :=
  let size : Int := (Nat.toDigits 10 mantissa).length + exponent
  if mantissa = 0 ∨ size < 300 then false
  else if 400 < size then true
  else
    let bound := 1 <<< 1024 - 1 <<< 970
    if 0 ≤ exponent then bound ≤ mantissa * Nat.pow 10 exponent.toNat
    else bound * Nat.pow 10 (-exponent).toNat ≤ mantissa

/-- Reads a number with a point or an exponent, or one that is infinite or no number. A
number that is too large is refused, unless it is negative. -/
def readFloat (cs : List Char) : Option (List Char) := do
  let (negative, cs) := readSign cs
  match orElse (fun cs => (expect ['i', 'n', 'f'] cs).map ((), ·))
      (fun cs => (expect ['n', 'a', 'n'] cs).map ((), ·)) cs with
  | some (_, rest) => some rest
  | none =>
    let (whole, rest) ← readWhole cs
    let (places, exponent, rest) ←
      match readExponent rest with
      | some (e, rest) => some ([], e, rest)
      | none => do
        let (places, rest) ← readFraction rest
        match rest with
        | c :: _ =>
          if c == 'e' || c == 'E' then do
            let (e, rest) ← readExponent rest
            some (places, e, rest)
          else some (places, 0, rest)
        | [] => some (places, 0, rest)
    let mantissa := number 10 (whole ++ places)
    if !negative && overflows mantissa (exponent - places.length) then none else some rest

/-! ### Points in time -/

/-- Reads so many decimal digits as a number from `low` to `high`. -/
def readField (width low high : Nat) (cs : List Char) : Option (Nat × List Char) :=
  let ds := cs.take width
  let n := number 10 ds
  if ds.length = width ∧ ds.all Char.isDigit ∧ low ≤ n ∧ n ≤ high then some (n, cs.drop width)
  else none

/-- The number of days of a month. -/
def daysIn (year month : Nat) : Nat :=
  if month = 2 then
    if year % 4 = 0 ∧ (year % 100 ≠ 0 ∨ year % 400 = 0) then 29 else 28
  else if month = 4 ∨ month = 6 ∨ month = 9 ∨ month = 11 then 30
  else 31

/-- Reads a date. -/
def readDate (cs : List Char) : Option (List Char) := do
  let (year, cs) ← readField 4 0 9999 cs
  let cs ← expect ['-'] cs
  let (month, cs) ← readField 2 1 12 cs
  let cs ← expect ['-'] cs
  let (_, cs) ← readField 2 1 (daysIn year month) cs
  return cs

/-- Reads a time of the day. -/
def readTime (cs : List Char) : Option (List Char) := do
  let (_, cs) ← readField 2 0 23 cs
  let cs ← expect [':'] cs
  let (_, cs) ← readField 2 0 59 cs
  let cs ← expect [':'] cs
  let (_, cs) ← readField 2 0 60 cs
  match cs with
  | '.' :: rest =>
    let digits := rest.takeWhile Char.isDigit
    if digits.isEmpty then return cs else return rest.drop digits.length
  | cs => return cs

/-- Reads the distance to universal time, if there is one. -/
def readOffset (cs : List Char) : Option (List Char) :=
  match cs with
  | 'Z' :: rest | 'z' :: rest => some rest
  | '+' :: rest | '-' :: rest => do
    let (_, rest) ← readField 2 0 23 rest
    let rest ← expect [':'] rest
    let (_, rest) ← readField 2 0 59 rest
    return rest
  | cs => some cs

/-- Reads a date, a time of the day, or both with or without the distance to universal
time. -/
def readMoment (cs : List Char) : Option (List Char) :=
  match readDate cs with
  | some rest =>
    match rest with
    | c :: time =>
      if c == 'T' || c == 't' || c == ' ' then
        match readTime time with
        | some after => readOffset after
        | none => some rest
      else some rest
    | [] => some rest
  | none => readTime cs

end LedgerClient.Toml
