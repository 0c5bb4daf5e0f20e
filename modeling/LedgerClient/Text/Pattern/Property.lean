import LedgerClient.Text.Pattern.Basic
import LedgerClient.Text.Pattern.Category
import LedgerClient.Text.Pattern.Script

/-!
# Properties of characters

The sets of characters that patterns name by a Unicode property: a general category, a
group of categories, a script, or one of a few properties of their own. Letter case, blanks,
dashes and underscores in a name do not count, nor does a leading `is`.
-/

namespace LedgerClient.Pattern.Property

/-- A name as it is looked up. -/
def normalize (name : List Char) : List Char :=
  let kept (cs : List Char) : List Char :=
    (cs.filter fun c => c.toNat < 0x80 && !(c == ' ' || c == '_' || c == '-')).map Char.toLower
  match name with
  | a :: b :: rest =>
    if a.toLower == 'i' && b.toLower == 's' then
      let short := kept rest
      if short = ['c'] then "isc".toList else short
    else kept name
  | _ => kept name

/-- The characters of some runs. -/
def tabulated (tables : List (List Run)) : CharClass :=
  .runs tables.flatten

/-! ### General categories -/

open Category

def letter : CharClass :=
  tabulated [uppercaseLetter, lowercaseLetter, titlecaseLetter, modifierLetter, otherLetter]

def casedLetter : CharClass :=
  tabulated [uppercaseLetter, lowercaseLetter, titlecaseLetter]

def mark : CharClass :=
  tabulated [nonspacingMark, spacingMark, enclosingMark]

def number : CharClass :=
  tabulated [decimalNumber, letterNumber, otherNumber]

def punctuation : CharClass :=
  tabulated [connectorPunctuation, dashPunctuation, openPunctuation, closePunctuation,
    initialPunctuation, finalPunctuation, otherPunctuation]

def symbol : CharClass :=
  tabulated [mathSymbol, currencySymbol, modifierSymbol, otherSymbol]

def separator : CharClass :=
  tabulated [spaceSeparator, lineSeparator, paragraphSeparator]

/-- What is neither letter nor mark, number, punctuation, symbol or separator. -/
def other : CharClass :=
  [letter, mark, number, punctuation, symbol, separator].foldl CharClass.diff .all

def unassigned : CharClass :=
  other.diff (tabulated [control, format, privateUse])

/-- The category of a name. -/
def category? : String → Option CharClass
  | "any" => some .all
  | "assigned" => some (CharClass.all.diff unassigned)
  | "ascii" => some (.range 0 0x7F)
  | "l" | "letter" => some letter
  | "lc" | "casedletter" => some casedLetter
  | "lu" | "uppercaseletter" => some (tabulated [uppercaseLetter])
  | "ll" | "lowercaseletter" => some (tabulated [lowercaseLetter])
  | "lt" | "titlecaseletter" => some (tabulated [titlecaseLetter])
  | "lm" | "modifierletter" => some (tabulated [modifierLetter])
  | "lo" | "otherletter" => some (tabulated [otherLetter])
  | "m" | "mark" | "combiningmark" => some mark
  | "mn" | "nonspacingmark" => some (tabulated [nonspacingMark])
  | "mc" | "spacingmark" => some (tabulated [spacingMark])
  | "me" | "enclosingmark" => some (tabulated [enclosingMark])
  | "n" | "number" => some number
  | "nd" | "decimalnumber" | "digit" => some (tabulated [decimalNumber])
  | "nl" | "letternumber" => some (tabulated [letterNumber])
  | "no" | "othernumber" => some (tabulated [otherNumber])
  | "p" | "punctuation" | "punct" => some punctuation
  | "pc" | "connectorpunctuation" => some (tabulated [connectorPunctuation])
  | "pd" | "dashpunctuation" => some (tabulated [dashPunctuation])
  | "ps" | "openpunctuation" => some (tabulated [openPunctuation])
  | "pe" | "closepunctuation" => some (tabulated [closePunctuation])
  | "pi" | "initialpunctuation" => some (tabulated [initialPunctuation])
  | "pf" | "finalpunctuation" => some (tabulated [finalPunctuation])
  | "po" | "otherpunctuation" => some (tabulated [otherPunctuation])
  | "s" | "symbol" => some symbol
  | "sm" | "mathsymbol" => some (tabulated [mathSymbol])
  | "sc" | "currencysymbol" => some (tabulated [currencySymbol])
  | "sk" | "modifiersymbol" => some (tabulated [modifierSymbol])
  | "so" | "othersymbol" => some (tabulated [otherSymbol])
  | "z" | "separator" => some separator
  | "zs" | "spaceseparator" => some (tabulated [spaceSeparator])
  | "zl" | "lineseparator" => some (tabulated [lineSeparator])
  | "zp" | "paragraphseparator" => some (tabulated [paragraphSeparator])
  | "c" | "other" => some other
  | "cc" | "control" | "cntrl" => some (tabulated [control])
  | "cf" | "format" => some (tabulated [format])
  | "cn" | "unassigned" => some unassigned
  | "co" | "privateuse" => some (tabulated [privateUse])
  | _ => none

/-! ### Other properties -/

/-- The script of a name. -/
def script? (name : String) : Option CharClass :=
  (Script.byName.find? fun s => s.1.contains name).map fun s => .runs s.2

/-- The property of a name that is neither category nor script. -/
def binary? : String → Option CharClass
  | "alpha" | "alphabetic" =>
    some (letter.union (tabulated [letterNumber, otherAlphabetic]))
  | "lower" | "lowercase" => some (tabulated [lowercaseLetter, otherLowercase])
  | "upper" | "uppercase" => some (tabulated [uppercaseLetter, otherUppercase])
  | "space" | "wspace" | "whitespace" => some (.space false)
  | "ahex" | "asciihexdigit" =>
    some (((CharClass.range 0x30 0x39).union (.range 0x41 0x46)).union (.range 0x61 0x66))
  | _ => none

/-- The set of a property that is named without saying of what kind it is. -/
def ofName? (name : List Char) : Option CharClass :=
  let name := String.ofList (normalize name)
  (binary? name).or ((category? name).or (script? name))

/-- The set of a property of a given kind. -/
def ofKind? (kind value : List Char) : Option CharClass :=
  let value := String.ofList (normalize value)
  match String.ofList (normalize kind) with
  | "gc" | "generalcategory" => category? value
  | "sc" | "script" => script? value
  | _ => none

/-- Splits at the first of the separators between kind and value: whether the property is
denied, the kind and the value. -/
def splitKind? (name : List Char) : Option (Bool × List Char × List Char) :=
  let rec upTo (mark : List Char) : List Char → Option (List Char × List Char)
    | [] => none
    | c :: rest =>
      if mark.isPrefixOf (c :: rest) then some ([], (c :: rest).drop mark.length)
      else (upTo mark rest).map fun (before, after) => (c :: before, after)
  match upTo ['!', '='] name with
  | some (kind, value) => some (true, kind, value)
  | none =>
    ((upTo [':'] name).or (upTo ['='] name)).map fun (kind, value) => (false, kind, value)

/-- The set that the text between braces names. -/
def ofText? (name : List Char) : Option CharClass :=
  match splitKind? name with
  | none => ofName? name
  | some (denied, kind, value) => do
    let c ← ofKind? kind value
    return if denied then CharClass.all.diff c else c

end LedgerClient.Pattern.Property
