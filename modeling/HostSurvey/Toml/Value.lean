/-!
# Values of a configuration text

A configuration text is one table. What a table was made by decides whether it may still grow: one that
a header named stands once, one made on the way to a deeper name may be named later, one made by a
dotted key or written in braces is closed to headers.
-/
namespace HostSurvey.Toml

/-- What a table was made by. -/
inductive Origin where
  /-- It was made on the way to a table deeper inside. -/
  | onTheWay
  /-- A header named it. -/
  | header
  /-- A dotted key made it. -/
  | dotted
  /-- It was written in braces. -/
  | braces
  deriving Repr, DecidableEq

/-- A value of a configuration text. -/
inductive Value where
  | text (s : String)
  | integer (n : Int)
  /-- A number with a fraction or exponent, an infinity or no number. -/
  | float
  | boolean (b : Bool)
  /-- A date, a time, or both. -/
  | moment
  /-- A list in brackets. -/
  | array (items : List Value)
  /-- A list of tables, one for each header in double brackets; each with its entries. -/
  | tables (items : List (List (String × Value)))
  | table (origin : Origin) (entries : List (String × Value))
  deriving Repr

/-- The entries of a table, in the order in which they came. -/
abbrev Entries := List (String × Value)

namespace Entries

/-- The value of a key. -/
def get? (entries : Entries) (key : String) : Option Value :=
  (entries.find? (·.1 == key)).map (·.2)

/-- Puts a value in the place of a key's, or at the end. -/
def put (entries : Entries) (key : String) (value : Value) : Entries :=
  if entries.any (·.1 == key) then
    entries.map fun entry => if entry.1 == key then (key, value) else entry
  else entries ++ [(key, value)]

/-- Puts a value behind a path of keys in one table or value in braces. Tables on the way must have been
made by dotted keys, and the last key must be new. -/
def insertDotted (entries : Entries) (value : Value) : List String → Option Entries
  | [] => none
  | [key] =>
    match entries.get? key with
    | some _ => none
    | none => some (entries.put key value)
  | key :: path =>
    match entries.get? key with
    | none => do some (entries.put key (.table .dotted (← insertDotted [] value path)))
    | some (.table .dotted inner) => do
      some (entries.put key (.table .dotted (← insertDotted inner value path)))
    | some _ => none

/-- Changes the table behind a path of keys, as a header names it: lists of tables stand for their last
one, and tables that are missing are made. -/
def changeAt (entries : Entries) (change : Entries → Option Entries) : List String → Option Entries
  | [] => change entries
  | key :: path =>
    match entries.get? key with
    | none => do some (entries.put key (.table .onTheWay (← changeAt [] change path)))
    | some (.table .braces _) => none
    | some (.table origin inner) => do
      some (entries.put key (.table origin (← changeAt inner change path)))
    | some (.tables items) =>
      match items.getLast? with
      | none => none
      | some last => do
        some (entries.put key (.tables (items.dropLast ++ [← changeAt last change path])))
    | some _ => none

/-- Opens the table that a header names. -/
def openTable (key : String) (entries : Entries) : Option Entries :=
  match entries.get? key with
  | none => some (entries.put key (.table .header []))
  | some (.table .onTheWay inner) => some (entries.put key (.table .header inner))
  | some _ => none

/-- Adds a table to the list that a header in double brackets names. -/
def openItem (key : String) (entries : Entries) : Option Entries :=
  match entries.get? key with
  | none => some (entries.put key (.tables [[]]))
  | some (.tables items) => some (entries.put key (.tables (items ++ [[]])))
  | some _ => none

end Entries
end HostSurvey.Toml
