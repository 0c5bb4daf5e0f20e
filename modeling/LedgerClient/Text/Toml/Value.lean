/-!
# TOML values

The values a TOML document can hold, and how its lines build tables. A table remembers how
it came about, because that decides which later lines may add to it: a table that has a
header of its own is complete with the lines below that header, a table made by dotted keys
takes further dotted keys only, and a table written inline takes nothing more.
-/

namespace LedgerClient.Toml

/-- How a table came about. -/
inductive Origin where
  /-- By a header of its own; also the root. -/
  | header
  /-- By a longer header. -/
  | implied
  | dotted
  | inline
  deriving DecidableEq, Repr

/-- A value. Floating-point numbers and points in time are only known to be well formed. -/
inductive Value where
  | text (s : String)
  | integer (n : Int)
  | boolean (b : Bool)
  | float
  | moment
  | list (items : List Value)
  | table (origin : Origin) (entries : List (String × Value))
  /-- The tables under headers in double brackets. -/
  | tables (elements : List (List (String × Value)))

/-- The keys of a table with their values. -/
abbrev Entries := List (String × Value)

namespace Entries

/-- The value under a key. -/
def get? (key : String) (es : Entries) : Option Value :=
  (es.find? fun e => e.1 == key).map Prod.snd

/-- Puts a value under a key, in place of one that is there. -/
def put (key : String) (v : Value) (es : Entries) : Entries :=
  if es.any fun e => e.1 == key then es.map fun e => if e.1 == key then (key, v) else e
  else es ++ [(key, v)]

end Entries

/-- What is done to a table at the end of a path. -/
abbrev Edit := Origin → Entries → Option (Origin × Entries)

/-- Edits the table at the end of a path, making tables on the way where there are none. A
path through a list of tables goes on in the last one. -/
def within (dotted : Bool) (edit : Edit) : List String → Edit
  | [], origin, es => edit origin es
  | key :: path, origin, es =>
    match es.get? key with
    | none => do
      let (o, child) ← within dotted edit path (if dotted then .dotted else .implied) []
      return (origin, es.put key (.table o child))
    | some (.table o child) =>
      if o = .inline ∨ (dotted ∧ o = .header) then none
      else do
        let (o, child) ← within dotted edit path o child
        return (origin, es.put key (.table o child))
    | some (.tables elements) =>
      match elements.getLast? with
      | none => none
      | some last => do
        let (_, last) ← within dotted edit path .header last
        return (origin, es.put key (.tables (elements.dropLast ++ [last])))
    | some _ => none

/-- Puts a value under a key that is not taken; a path leads to the key by dotted tables
only. -/
def define (path : List String) (key : String) (v : Value) : Edit :=
  within true (fun origin es =>
    if (origin == .dotted) == path.isEmpty then none
    else
      match es.get? key with
      | some _ => none
      | none => some (origin, es ++ [(key, v)])) path

/-- Opens the table of a header: a new one, or one that so far is only implied. -/
def openTable (path : List String) (key : String) : Edit :=
  within false (fun origin es =>
    match es.get? key with
    | none => some (origin, es ++ [(key, .table .header [])])
    | some (.table .implied child) => some (origin, es.put key (.table .header child))
    | some _ => none) path

/-- Appends a table to the list of a header in double brackets. -/
def appendTable (path : List String) (key : String) : Edit :=
  within false (fun origin es =>
    match es.get? key with
    | none => some (origin, es ++ [(key, .tables [[]])])
    | some (.tables elements) => some (origin, es.put key (.tables (elements ++ [[]])))
    | some _ => none) path

/-- The table written inline with the given keys, if they go together. -/
def inlineTable : List (List String × String × Value) → Option Value :=
  let rec go (origin : Origin) (es : Entries) :
      List (List String × String × Value) → Option Entries
    | [] => some es
    | (path, key, v) :: rest => do
      let (origin, es) ← define path key v origin es
      go origin es rest
  fun pairs => (go .inline [] pairs).map (.table .inline)

end LedgerClient.Toml
