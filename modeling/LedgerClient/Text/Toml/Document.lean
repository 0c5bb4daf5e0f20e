import LedgerClient.Text.Toml.Scalar
import LedgerClient.Text.Toml.Value

/-!
# TOML documents

Reads whole documents: lines with a key and a value, headers of tables, comments. Any fault
makes the document unreadable. Lists and inline tables may be nested to a limited depth.

Readers that call each other take a bound on the number of their steps, for which twice the
length of the text is enough, since at most every second step leaves the text as it was.
-/

namespace LedgerClient.Toml

/-- The depth to which values may be nested. -/
def maxDepth : Nat := 79

/-! ### Keys -/

/-- Whether a character may stand in a key without quotes. -/
def isBare (c : Char) : Bool :=
  c.isAlphanum || c == '-' || c == '_'

/-- Reads one part of a key. -/
def readKeyPart (cs : List Char) : Option (String × List Char) :=
  match cs with
  | '"' :: _ | '\'' :: _ => readShortString cs
  | _ =>
    let part := cs.takeWhile isBare
    if part.isEmpty then none else some (String.ofList part, cs.dropWhile isBare)

/-- Reads a key with the blanks around its parts; `fuel` is the length of the text. The parts
before the last one are the path to it. -/
def readKey : (fuel : Nat) → Reader (List String × String)
  | 0, _ => none
  | fuel + 1, cs => do
    let (part, rest) ← readKeyPart (skipSpace cs)
    match skipSpace rest with
    | '.' :: rest => do
      let ((path, last), rest) ← readKey fuel rest
      if path.length + 2 ≤ maxDepth then return ((part :: path, last), rest) else none
    | rest => return (([], part), rest)

/-! ### Values -/

/-- Reads a value of one word. -/
def readWord : Reader Value
  | 't' :: 'r' :: 'u' :: 'e' :: rest => some (.boolean true, rest)
  | 'f' :: 'a' :: 'l' :: 's' :: 'e' :: rest => some (.boolean false, rest)
  | cs =>
    match cs with
    | '"' :: _ | '\'' :: _ => (readString cs).map fun (s, rest) => (.text s, rest)
    | _ =>
      match readMoment cs with
      | some rest => some (.moment, rest)
      | none =>
        match readFloat cs with
        | some rest => some (.float, rest)
        | none => (readInteger cs).map fun (n, rest) => (.integer n, rest)

mutual

/-- Reads a value that may be nested to the given depth. -/
def readValue : (fuel depth : Nat) → Reader Value
  | 0, _, _ => none
  | fuel + 1, depth, '[' :: rest =>
    match depth with
    | 0 => none
    | depth + 1 => (readItems fuel depth rest).map fun (items, rest) => (.list items, rest)
  | fuel + 1, depth, '{' :: rest =>
    match depth with
    | 0 => none
    | depth + 1 =>
      match skipSpace rest with
      | '}' :: rest => some (.table .inline [], rest)
      | rest => do
        let (pairs, rest) ← readPairs fuel depth rest
        return (← inlineTable pairs, rest)
  | _ + 1, _, cs => readWord cs

/-- Reads the items of a list up to its closing bracket. -/
def readItems : (fuel depth : Nat) → Reader (List Value)
  | 0, _, _ => none
  | fuel + 1, depth, cs =>
    match skipLines (cs.length + 1) cs with
    | ']' :: rest => some ([], rest)
    | cs => do
      let (item, rest) ← readValue fuel depth cs
      match skipLines (rest.length + 1) rest with
      | ',' :: rest => do
        let (items, rest) ← readItems fuel depth rest
        return (item :: items, rest)
      | ']' :: rest => return ([item], rest)
      | _ => none

/-- Reads the keys and values of an inline table up to its closing brace. -/
def readPairs : (fuel depth : Nat) → Reader (List (List String × String × Value))
  | 0, _, _ => none
  | fuel + 1, depth, cs => do
    let ((path, key), rest) ← readKey (cs.length + 1) cs
    let rest ← expect ['='] rest
    let (v, rest) ← readValue fuel depth (skipSpace rest)
    match skipSpace rest with
    | ',' :: rest => do
      let (pairs, rest) ← readPairs fuel depth rest
      return ((path, key, v) :: pairs, rest)
    | '}' :: rest => return ([(path, key, v)], rest)
    | _ => none

end

/-! ### Lines -/

/-- What a line of a document says. -/
inductive Line where
  | blank
  | header (path : List String) (key : String)
  | element (path : List String) (key : String)
  | pair (path : List String) (key : String) (v : Value)

/-- Reads what a line says. -/
def readStatement (cs : List Char) : Option (Line × List Char) :=
  match skipSpace cs with
  | '[' :: '[' :: rest => do
    let ((path, key), rest) ← readKey (rest.length + 1) rest
    return (.element path key, ← expect [']', ']'] rest)
  | '[' :: rest => do
    let ((path, key), rest) ← readKey (rest.length + 1) rest
    return (.header path key, ← expect [']'] rest)
  | '#' :: rest => some (.blank, '#' :: rest)
  | [] => some (.blank, [])
  | cs =>
    match newline? cs with
    | some _ => some (.blank, cs)
    | none => do
      let ((path, key), rest) ← readKey (cs.length + 1) cs
      let rest ← expect ['='] rest
      let (v, rest) ← readValue (2 * rest.length + 2) maxDepth (skipSpace rest)
      return (.pair path key v, rest)

/-- Reads a line with its end. -/
def readLine (cs : List Char) : Option (Line × List Char) := do
  let (line, rest) ← readStatement cs
  match skipComment (skipSpace rest) with
  | [] => return (line, [])
  | rest => return (line, ← newline? rest)

/-- Reads the lines of a document; `fuel` is more than its length. -/
def readLines : (fuel : Nat) → List Char → Option (List Line)
  | _, [] => some []
  | 0, _ => none
  | fuel + 1, cs => do
    let (line, rest) ← readLine cs
    return line :: (← readLines fuel rest)

/-- A document as far as it has been built: its root, and the path of the table that lines
with a key belong to. -/
structure Draft where
  origin : Origin := .header
  entries : Entries := []
  current : List String := []

/-- Edits the root. -/
def Draft.edit (e : Edit) (d : Draft) : Option Draft := do
  let (origin, entries) ← e d.origin d.entries
  return { d with origin, entries }

/-- Takes in a line. -/
def Draft.add (d : Draft) : Line → Option Draft
  | .blank => some d
  | .header path key => do
    let d ← d.edit (openTable path key)
    return { d with current := path ++ [key] }
  | .element path key => do
    let d ← d.edit (appendTable path key)
    return { d with current := path ++ [key] }
  | .pair path key v => d.edit (within false (define path key v) d.current)

/-- Drops a byte order mark. -/
def skipMark : List Char → List Char
  | '\uFEFF' :: rest => rest
  | cs => cs

/-- The root table of a document, if it is well formed. -/
def parse? (s : String) : Option Value := do
  let cs := skipMark s.toList
  let lines ← readLines (cs.length + 1) cs
  let d ← lines.foldlM Draft.add {}
  return .table d.origin d.entries

end LedgerClient.Toml
