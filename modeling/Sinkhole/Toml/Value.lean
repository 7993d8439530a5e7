import Sinkhole.Toml.DateTime
import Sinkhole.Toml.FloatNumber

/-! # TOML values

A document is a table. Every table remembers how it came to be, because that decides whether it
may be extended later: a table under a header is closed to dotted keys, one made by dotted keys is
closed to headers, one that only stands on the way to a header is open to both, and an inline table
is closed to all.
-/
namespace Sinkhole.Toml

inductive TableForm where
  /-- Under a header of its own, or the document itself. -/
  | header
  /-- On the way to another table's header. -/
  | implied
  /-- Made by dotted keys. -/
  | dotted
  | inline
deriving DecidableEq, Repr

inductive Value where
  | text (text : String)
  | integer (value : Int)
  | float (value : FloatNumber)
  | boolean (value : Bool)
  | dateTime (value : DateTime)
  | array (items : List Value)
  | table (form : TableForm) (entries : List (String × Value))
  /-- Tables under headers in double brackets. -/
  | tables (items : List Value)
deriving Repr

abbrev Entries := List (String × Value)

def Entries.replace (entries : Entries) (key : String) (value : Value) : Entries :=
  entries.map fun entry => if entry.1 == key then (key, value) else entry

def Entries.add? (entries : Entries) (key : String) (value : Value) : Option Entries :=
  if (entries.lookup key).isSome then none else some (entries ++ [(key, value)])

def changeLast? (change : Entries → Option Entries) : List Value → Option (List Value)
  | [] => none
  | [.table form entries] => (change entries).map fun entries => [.table form entries]
  | [_] => none
  | item :: rest => (changeLast? change rest).map (item :: ·)

namespace Entries

/-- Changes the table that a header's path leads to; missing tables on the way are implied. In a
list of tables the path goes on in the last one. -/
def changeAt? (path : List String) (change : Entries → Option Entries) (entries : Entries) :
    Option Entries :=
  match path with
  | [] => change entries
  | key :: path =>
    match entries.lookup key with
    | none => do
      let inner ← changeAt? path change []
      pure (entries ++ [(key, .table .implied inner)])
    | some (.table .inline _) => none
    | some (.table form inner) => do
      let inner ← changeAt? path change inner
      pure (entries.replace key (.table form inner))
    | some (.tables items) => do
      let items ← changeLast? (changeAt? path change) items
      pure (entries.replace key (.tables items))
    | some _ => none

/-- Sets a dotted key. The tables on the way must not have a header of their own, and the one that
gets the value has to be made by dotted keys. -/
def setDotted? (path : List String) (key : String) (value : Value) (entries : Entries) :
    Option Entries :=
  match path with
  | [] => entries.add? key value
  | first :: path =>
    match entries.lookup first with
    | none => do
      let inner ← setDotted? path key value []
      pure (entries ++ [(first, .table .dotted inner)])
    | some (.table .dotted inner) => do
      let inner ← setDotted? path key value inner
      pure (entries.replace first (.table .dotted inner))
    | some (.table .implied inner) =>
      if path.isEmpty then none
      else do
        let inner ← setDotted? path key value inner
        pure (entries.replace first (.table .implied inner))
    | some (.tables items) => do
      if path.isEmpty then none
      else
        let items ← changeLast? (setDotted? path key value) items
        pure (entries.replace first (.tables items))
    | some _ => none

/-- Opens the table of a header. It may be there only as implied by other headers. -/
def openTable? (key : String) (entries : Entries) : Option Entries :=
  match entries.lookup key with
  | none => some (entries ++ [(key, .table .header [])])
  | some (.table .implied inner) => some (entries.replace key (.table .header inner))
  | some _ => none

/-- Adds a table to the list of tables of a header in double brackets. -/
def appendTable? (key : String) (entries : Entries) : Option Entries :=
  match entries.lookup key with
  | none => some (entries ++ [(key, .tables [.table .header []])])
  | some (.tables items) => some (entries.replace key (.tables (items ++ [.table .header []])))
  | some _ => none

end Entries

end Sinkhole.Toml
