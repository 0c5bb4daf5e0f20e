import LedgerClient.Text.Pattern.Property
import LedgerClient.Text.Pattern.Size

/-!
# The notation of patterns

Reads patterns in the usual notation: alternatives, groups with flags or names,
repetition, classes in brackets with nested classes and set operations, escapes and
assertions. There are no back references and no look-around. A pattern that is not well
formed, or too large, has no meaning and is refused as a whole.

Every recursive reader takes a bound on its depth, which the length of the pattern
provides, as each call has read at least one character more than its caller.
-/

namespace LedgerClient.Pattern

/-- The modes that `(?…)` switches. -/
structure Flags where
  caseless : Bool := false
  multiLine : Bool := false
  dotAll : Bool := false
  /-- Classes and word boundaries know ASCII only. -/
  ascii : Bool := false
  crlf : Bool := false
  /-- Blanks and comments are skipped. -/
  verbose : Bool := false
  deriving DecidableEq, Repr, Inhabited

/-- What an escape sequence stands for. -/
inductive Escape where
  | literal (c : Char)
  | charClass (c : CharClass)
  | assertion (a : Assertion)

/-! ### Blanks and numbers -/

/-- Skips blanks and comments; inside a comment all up to the end of the line. -/
def skipVerbose : (comment : Bool) → List Char → List Char
  | _, [] => []
  | true, c :: rest => skipVerbose (c != '\n') rest
  | false, c :: rest =>
    if Text.isBlank c then skipVerbose false rest
    else if c == '#' then skipVerbose true rest
    else c :: rest

/-- Skips blanks and comments if the mode asks for it. -/
def Flags.skip (f : Flags) (cs : List Char) : List Char :=
  if f.verbose then skipVerbose false cs else cs

/-- Reads a number below `2 ^ 32` with blanks around it. -/
def readCount (cs : List Char) : Option (Nat × List Char) :=
  let cs := cs.dropWhile Text.isBlank
  let digits := cs.takeWhile Char.isDigit
  let rest := (cs.dropWhile Char.isDigit).dropWhile Text.isBlank
  let value := digits.foldl (fun n c => 10 * n + (c.toNat - '0'.toNat)) 0
  if digits.isEmpty || value ≥ UInt32.size then none else some (value, rest)

/-- Drops the mark of a repetition that takes as little as it can. -/
def skipLazy : List Char → List Char
  | '?' :: rest => rest
  | cs => cs

/-- Reads the bounds of a counted repetition, behind its opening brace. -/
def readBounds (f : Flags) (cs : List Char) : Option ((Nat × Option Nat) × List Char) := do
  let (low, rest) ← readCount (f.skip cs)
  match rest with
  | '}' :: rest => return ((low, some low), skipLazy rest)
  | ',' :: rest =>
    match f.skip rest with
    | '}' :: rest => return ((low, none), skipLazy rest)
    | rest => do
      let (high, rest) ← readCount rest
      match rest with
      | '}' :: rest => if low ≤ high then return ((low, some high), skipLazy rest) else none
      | _ => none
  | _ => none

/-! ### Escapes -/

/-- The value of a hexadecimal digit. -/
def hexValue? (c : Char) : Option Nat :=
  if c.isDigit then some (c.toNat - '0'.toNat)
  else if 'a' ≤ c ∧ c ≤ 'f' then some (c.toNat - 'a'.toNat + 10)
  else if 'A' ≤ c ∧ c ≤ 'F' then some (c.toNat - 'A'.toNat + 10)
  else none

/-- The character of a nonempty run of hexadecimal digits. -/
def hexChar? (digits : List Char) : Option Char := do
  let values ← digits.mapM hexValue?
  let code := values.foldl (fun n d => min (16 * n + d) 0x110000) 0
  if digits.isEmpty || !code.isValidChar then none else return Char.ofNat code

/-- Reads a character by its code: a fixed number of digits, or any number in braces. -/
def readHex (width : Nat) (cs : List Char) : Option (Char × List Char) :=
  match cs with
  | '{' :: rest =>
    match rest.dropWhile (· != '}') with
    | '}' :: after => do return (← hexChar? (rest.takeWhile (· != '}')), after)
    | _ => none
  | cs =>
    if cs.length < width then none
    else do return (← hexChar? (cs.take width), cs.drop width)

/-- Reads the kind of a word boundary in braces, if there is one: braces that hold no name
are left to be read as a repetition. -/
def readBoundary (f : Flags) (cs : List Char) : Option (Assertion × List Char) :=
  let plain := Assertion.wordBoundary f.ascii
  match cs with
  | '{' :: rest =>
    let body := f.skip rest
    let name := body.takeWhile fun c => c.isAlpha || c == '-'
    if name.isEmpty then some (plain, cs)
    else
      match f.skip (body.drop name.length) with
      | '}' :: after =>
        match String.ofList name with
        | "start" => some (.wordStart f.ascii, after)
        | "end" => some (.wordEnd f.ascii, after)
        | "start-half" => some (.wordStartHalf f.ascii, after)
        | "end-half" => some (.wordEndHalf f.ascii, after)
        | _ => none
      | _ => none
  | cs => some (plain, cs)

/-- Reads the name of a property, a single letter or a text in braces, in which blanks may be
skipped. Where case does not count, every case of its characters is meant. -/
def readProperty (f : Flags) (negated : Bool) (cs : List Char) : Option (Escape × List Char) := do
  if f.ascii then none
  let (name, after) ← match f.skip cs with
    | '{' :: rest =>
      match rest.dropWhile (· != '}') with
      | '}' :: after =>
        let name := rest.takeWhile (· != '}')
        some (if f.verbose then name.filter fun c => !Text.isBlank c else name, after)
      | _ => none
    | '\\' :: _ => none
    | c :: after => some ([c], after)
    | [] => none
  let cls ← Property.ofText? name
  let cls := if f.caseless then cls.fold else cls
  return (.charClass (if negated then CharClass.all.diff cls else cls), after)

/-- Reads an escape sequence behind its backslash. -/
def readEscape (f : Flags) : List Char → Option (Escape × List Char)
  | [] => none
  | c :: rest =>
    let byLetter (cls : CharClass) : Option (Escape × List Char) :=
      some (.charClass cls, rest)
    let negated (cls : CharClass) : Option (Escape × List Char) :=
      if f.ascii then none else some (.charClass cls.compl, rest)
    let hex (width : Nat) : Option (Escape × List Char) := do
      let (ch, after) ← readHex width rest
      if f.ascii && width == 2 && ch.toNat ≥ 0x80 && rest.head? != some '{' then none
      else return (.literal ch, after)
    match c with
    | 'd' => byLetter (.digit f.ascii)
    | 's' => byLetter (.space f.ascii)
    | 'w' => byLetter (.word f.ascii)
    | 'D' => negated (.digit f.ascii)
    | 'S' => negated (.space f.ascii)
    | 'W' => negated (.word f.ascii)
    | 'p' => readProperty f false rest
    | 'P' => readProperty f true rest
    | 'x' => hex 2
    | 'u' => hex 4
    | 'U' => hex 8
    | 'a' => some (.literal '\x07', rest)
    | 'f' => some (.literal '\x0C', rest)
    | 't' => some (.literal '\t', rest)
    | 'n' => some (.literal '\n', rest)
    | 'r' => some (.literal '\r', rest)
    | 'v' => some (.literal '\x0B', rest)
    | 'A' => some (.assertion .textStart, rest)
    | 'z' => some (.assertion .textEnd, rest)
    | 'b' => (readBoundary f rest).map fun (a, after) => (.assertion a, after)
    | 'B' => some (.assertion (.noWordBoundary f.ascii), rest)
    | '<' => some (.assertion (.wordStart f.ascii), rest)
    | '>' => some (.assertion (.wordEnd f.ascii), rest)
    | c =>
      if c.toNat < 0x80 && !c.isAlphanum then some (.literal c, rest) else none

/-! ### Classes -/

/-- The set that a name between `[:` and `:]` stands for. -/
def namedClass? : String → Option CharClass
  | "alnum" => some (((CharClass.range 0x30 0x39).union (.range 0x41 0x5A)).union
      (.range 0x61 0x7A))
  | "alpha" => some ((CharClass.range 0x41 0x5A).union (.range 0x61 0x7A))
  | "ascii" => some (.range 0 0x7F)
  | "blank" => some ((CharClass.single '\t').union (.single ' '))
  | "cntrl" => some ((CharClass.range 0 0x1F).union (.range 0x7F 0x7F))
  | "digit" => some (.range 0x30 0x39)
  | "graph" => some (.range 0x21 0x7E)
  | "lower" => some (.range 0x61 0x7A)
  | "print" => some (.range 0x20 0x7E)
  | "punct" => some ((((CharClass.range 0x21 0x2F).union (.range 0x3A 0x40)).union
      (.range 0x5B 0x60)).union (.range 0x7B 0x7E))
  | "space" => some ((CharClass.range 0x09 0x0D).union (.single ' '))
  | "upper" => some (.range 0x41 0x5A)
  | "word" => some (.word true)
  | "xdigit" => some (((CharClass.range 0x30 0x39).union (.range 0x41 0x46)).union
      (.range 0x61 0x66))
  | _ => none

/-- Reads a named class behind its opening bracket. -/
def readNamed (cs : List Char) : Option (CharClass × List Char) :=
  match cs with
  | ':' :: rest =>
    let (negated, body) := match rest with
      | '^' :: body => (true, body)
      | body => (false, body)
    match body.dropWhile (· != ':') with
    | ':' :: ']' :: after => do
      let cls ← namedClass? (String.ofList (body.takeWhile (· != ':')))
      return (if negated then CharClass.all.diff cls else cls, after)
    | _ => none
  | _ => none

/-- One item of a class: a character, which may start a range, or a set. -/
def readClassItem (f : Flags) : List Char → Option ((Char ⊕ CharClass) × List Char)
  | [] => none
  | '\\' :: rest => do
    match ← readEscape f rest with
    | (.literal c, after) => return (.inl c, after)
    | (.charClass c, after) => return (.inr c, after)
    | (.assertion _, _) => none
  | c :: rest => some (.inl c, rest)

/-- An operation between two classes. -/
inductive SetOp where
  | union
  | inter
  | diff
  | symDiff

/-- The result of an operation. -/
def SetOp.apply : SetOp → CharClass → CharClass → CharClass
  | .union, a, b => a.union b
  | .inter, a, b => a.inter b
  | .diff, a, b => a.diff b
  | .symDiff, a, b => a.symDiff b

/-- Reads the start of a class behind its opening bracket: whether it is negated, and the
dashes or the closing bracket that stand first and are members themselves. -/
def openClass (f : Flags) (cs : List Char) : Bool × CharClass × List Char :=
  let (negated, body) := match f.skip cs with
    | '^' :: body => (true, f.skip body)
    | body => (false, body)
  match body with
  | '-' :: _ => (negated, .single '-', body.dropWhile (· == '-'))
  | ']' :: after => (negated, .single ']', after)
  | body => (negated, .none, body)

/-- A class whose members have been read. -/
def closeClass (f : Flags) (negated : Bool) (members : CharClass) : CharClass :=
  let members := if f.caseless then members.fold else members
  if negated then CharClass.all.diff members else members

/-- Reads the members of a class up to its closing bracket: `left` is what stands before
the last operation `op`, `here` what has been read since. -/
def readMembers (f : Flags) : (depth : Nat) → (left : CharClass) → SetOp → (here : CharClass) →
    List Char → Option (CharClass × List Char)
  | 0, _, _, _, _ => none
  | depth + 1, left, op, here, cs =>
    match f.skip cs with
    | [] => none
    | ']' :: rest => some (op.apply left here, rest)
    | '&' :: '&' :: rest => readMembers f depth (op.apply left here) .inter .none rest
    | '-' :: '-' :: rest => readMembers f depth (op.apply left here) .diff .none rest
    | '~' :: '~' :: rest => readMembers f depth (op.apply left here) .symDiff .none rest
    | '[' :: rest =>
      match readNamed rest with
      | some (cls, after) => readMembers f depth left op (here.union cls) after
      | none => do
        let (negated, start, body) := openClass f rest
        if negated && f.ascii then none
        let (inner, after) ← readMembers f depth .none .union start body
        readMembers f depth left op (here.union (closeClass f negated inner)) after
    | cs => do
      let (first, rest) ← readClassItem f cs
      let plain : CharClass := match first with
        | .inl c => .single c
        | .inr cls => cls
      match f.skip rest with
      | '-' :: more =>
        match f.skip more with
        | ']' :: _ | '-' :: _ => readMembers f depth left op (here.union plain) (f.skip rest)
        | more => do
          let (second, after) ← readClassItem f more
          match first, second with
          | .inl low, .inl high =>
            if low ≤ high then
              readMembers f depth left op (here.union (.range low.toNat high.toNat)) after
            else none
          | _, _ => none
      | rest => readMembers f depth left op (here.union plain) rest

/-- Reads a class in brackets, its opening bracket included. -/
def readBracket (f : Flags) : List Char → Option (CharClass × List Char)
  | '[' :: rest => do
    let (negated, start, body) := openClass f rest
    if negated && f.ascii then none
    let (inner, after) ← readMembers f (body.length + 1) .none .union start body
    return (closeClass f negated inner, after)
  | _ => none

/-! ### Groups -/

/-- Switches one flag by its letter. -/
def Flags.set (f : Flags) (on : Bool) : Char → Option Flags
  | 'i' => some { f with caseless := on }
  | 'm' => some { f with multiLine := on }
  | 's' => some { f with dotAll := on }
  | 'u' => some { f with ascii := !on }
  | 'R' => some { f with crlf := on }
  | 'x' => some { f with verbose := on }
  | 'U' => some f
  | _ => none

/-- Reads flags up to the closing parenthesis, which switches them for the rest of the
enclosing group, or a colon, which opens a group of their own. A letter stands at most
once, and one dash at most, before a letter. -/
def readFlags (f : Flags) (on : Bool) (seen : List Char) :
    List Char → Option (Flags × Bool × List Char)
  | [] => none
  | ':' :: rest => if seen.head? == some '-' then none else some (f, true, rest)
  | ')' :: rest =>
    if seen.isEmpty || seen.head? == some '-' then none else some (f, false, rest)
  | '-' :: rest => if on then readFlags f false ('-' :: seen) rest else none
  | c :: rest =>
    if seen.contains c then none
    else
      match f.set on c with
      | some f => readFlags f on (c :: seen) rest
      | none => none

/-- Whether a character may stand in the name of a group, or start it. -/
def isNameChar (first : Bool) (c : Char) : Bool :=
  c == '_' || ((CharClass.word false).has c.toNat && !inRanges digitRanges c.toNat)
    || (!first && (c == '.' || c == '[' || c == ']' || inRanges digitRanges c.toNat))

/-- Reads the name of a group up to its closing angle bracket; names must differ. -/
def readName (names : List (List Char)) (cs : List Char) :
    Option (List (List Char) × List Char) :=
  let name := cs.takeWhile (· != '>')
  match name, cs.dropWhile (· != '>') with
  | first :: others, '>' :: rest =>
    if isNameChar true first && others.all (isNameChar false) && !names.contains name then
      some (name :: names, rest)
    else none
  | _, _ => none

/-- A literal character in a mode. -/
def Flags.literal (f : Flags) (c : Char) : Expr :=
  .one (if f.caseless then (CharClass.single c).fold else .single c)

/-- The pattern of a dot in a mode. -/
def Flags.dot? (f : Flags) : Option Expr :=
  if f.ascii then none
  else
    let all := CharClass.all
    some <| .one <| if f.dotAll then all
      else if f.crlf then all.diff ((CharClass.single '\n').union (.single '\r'))
      else all.diff (.single '\n')

/-- A reader's position in a group: the finished alternatives, what stands before the last
item of the current one, that item, which a repetition applies to, and the names of the
groups so far. -/
structure Progress where
  alternatives : Option Expr := none
  before : Expr := .empty
  last : Option Expr := none
  names : List (List Char) := []

namespace Progress

/-- The current alternative. -/
def current (p : Progress) : Expr :=
  match p.last with
  | some e => .seq p.before e
  | none => p.before

/-- Appends an item. -/
def push (p : Progress) (e : Expr) : Progress :=
  { p with before := p.current, last := some e }

/-- Ends the current alternative. -/
def close (p : Progress) : Expr :=
  match p.alternatives with
  | some a => .alt a p.current
  | none => p.current

/-- Starts the next alternative. -/
def next (p : Progress) : Progress :=
  { p with alternatives := some p.close, before := .empty, last := none }

/-- Repeats the last item; there must be one. -/
def repeat? (p : Progress) (low : Nat) (high : Option Nat) : Option Progress :=
  p.last.map fun e => { p with last := some (.times low high e) }

end Progress

/-- Reads the items of a group up to its closing parenthesis or the end of the pattern. -/
def readItems : (depth : Nat) → Flags → Progress → List Char →
    Option (Expr × List (List Char) × List Char)
  | 0, _, _, _ => none
  | depth + 1, f, p, cs =>
    match f.skip cs with
    | [] => some (p.close, p.names, [])
    | ')' :: rest => some (p.close, p.names, ')' :: rest)
    | '|' :: rest => readItems depth f p.next rest
    | '*' :: rest => do readItems depth f (← p.repeat? 0 none) (skipLazy rest)
    | '+' :: rest => do readItems depth f (← p.repeat? 1 none) (skipLazy rest)
    | '?' :: rest => do readItems depth f (← p.repeat? 0 (some 1)) (skipLazy rest)
    | '{' :: rest => do
      if p.last.isNone then none
      let ((low, high), rest) ← readBounds f rest
      readItems depth f (← p.repeat? low high) rest
    | '.' :: rest => do readItems depth f (p.push (← f.dot?)) rest
    | '^' :: rest =>
      let a : Assertion := if f.multiLine then .lineStart f.crlf else .textStart
      readItems depth f (p.push (.assertion a)) rest
    | '$' :: rest =>
      let a : Assertion := if f.multiLine then .lineEnd f.crlf else .textEnd
      readItems depth f (p.push (.assertion a)) rest
    | '\\' :: rest => do
      match ← readEscape f rest with
      | (.literal c, rest) => readItems depth f (p.push (f.literal c)) rest
      | (.charClass c, rest) => readItems depth f (p.push (.one c)) rest
      | (.assertion a, rest) => readItems depth f (p.push (.assertion a)) rest
    | '[' :: rest => do
      let (cls, rest) ← readBracket f ('[' :: rest)
      readItems depth f (p.push (.one cls)) rest
    | '(' :: rest =>
      let group (f' : Flags) (names : List (List Char)) (body : List Char) := do
        match ← readItems depth f' { names } body with
        | (e, names, ')' :: rest) => readItems depth f { p.push e with names } rest
        | _ => none
      match f.skip rest with
      | '?' :: 'P' :: '<' :: rest => do
        let (names, body) ← readName p.names rest
        group f names body
      | '?' :: '<' :: '=' :: _ | '?' :: '<' :: '!' :: _ => none
      | '?' :: '<' :: rest => do
        let (names, body) ← readName p.names rest
        group f names body
      | '?' :: rest => do
        let (f', opens, rest) ← readFlags f true [] rest
        if opens then group f' p.names rest
        else readItems depth f' { p with before := p.current, last := none } rest
      | body => group f p.names body
    | c :: rest => readItems depth f (p.push (f.literal c)) rest

/-- The meaning of a pattern, if it is well formed and not too large. -/
def parse? (pattern : String) : Option Expr :=
  let cs := pattern.toList
  match readItems (cs.length + 1) {} {} cs with
  | some (e, _, []) => if e.size ≤ Expr.sizeLimit then some e else none
  | _ => none

end LedgerClient.Pattern
