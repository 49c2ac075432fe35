/-!
What a TOML document holds, and the rules by which its lines define tables. A key has one value;
a table has one header; a table made by dotted keys is no longer open to a header.
-/

namespace DocFilter.Toml

/-- How a table came to be. -/
inductive Origin
  /-- It has a header of its own, or is the document. -/
  | header
  /-- It lies on the way to the table of a header. -/
  | implied
  /-- It lies on the way to the value of a dotted key. -/
  | dotted
  deriving DecidableEq, Repr

inductive Item
  | string (s : String)
  | integer (n : Int)
  | float
  | boolean (b : Bool)
  | dateTime
  | array (items : List Item)
  /-- A table written as a value, to which nothing can be added. -/
  | inlineTable (entries : List (String × Item))
  | table (origin : Origin) (entries : List (String × Item))
  /-- Tables that share a header in double brackets. -/
  | tables (items : List (List (String × Item)))
  deriving Repr

abbrev Entries := List (String × Item)

/-- A line of a document that says something. -/
inductive Statement
  | pair (path : List String) (key : String) (value : Item)
  | header (path : List String) (key : String)
  | element (path : List String) (key : String)
  deriving Repr

namespace Entries

def find? (entries : Entries) (key : String) : Option Item :=
  (List.find? (·.1 = key) entries).map (·.2)

/-- Puts a value where the key stands, or at the end. -/
def set : Entries → String → Item → Entries
  | [], key, item => [(key, item)]
  | (k, i) :: entries, key, item =>
    if k = key then (k, item) :: entries else (k, i) :: set entries key item

/-- Changes the table at the end of a path. Tables missing on the way are made; of tables that
share a header the last one is meant. A dotted path does not lead into a table with a header. -/
def within (dotted : Bool) (change : Origin → Entries → Option Entries) :
    List String → Origin → Entries → Option Entries
  | [], origin, entries => change origin entries
  | key :: path, _, entries =>
    match entries.find? key with
    | none => do
      let origin := if dotted then .dotted else .implied
      let inner ← within dotted change path origin []
      pure (entries.set key (.table origin inner))
    | some (.table origin inner) =>
      if dotted ∧ origin = .header then none
      else do
        let inner ← within dotted change path origin inner
        pure (entries.set key (.table origin inner))
    | some (.tables items) => do
      let last ← items.getLast?
      let last ← within dotted change path .header last
      pure (entries.set key (.tables (items.dropLast ++ [last])))
    | some _ => none

/-- Gives a key its value. A dotted key ends in a table that dotted keys have made. -/
def assign (entries : Entries) (path : List String) (key : String) (value : Item) :
    Option Entries :=
  within true
    (fun origin inner =>
      if path ≠ [] ∧ origin ≠ .dotted then none
      else if (inner.find? key).isSome then none
      else some (inner.set key value))
    path .header entries

/-- Opens the table of a header. -/
def openTable (key : String) (entries : Entries) : Option Entries :=
  match entries.find? key with
  | none => some (entries.set key (.table .header []))
  | some (.table .implied inner) => some (entries.set key (.table .header inner))
  | some _ => none

/-- Adds a table to those of a header in double brackets. -/
def openElement (key : String) (entries : Entries) : Option Entries :=
  match entries.find? key with
  | none => some (entries.set key (.tables [[]]))
  | some (.tables items) => some (entries.set key (.tables (items ++ [[]])))
  | some _ => none

/-- The entries of an inline table. -/
def ofPairs (pairs : List (List String × String × Item)) : Option Entries :=
  pairs.foldlM (fun entries (path, key, value) => entries.assign path key value) []

end Entries

/-- A document that has been read in part: what it holds, and the path of the table whose pairs
come next. -/
structure Draft where
  entries : Entries
  current : List String

namespace Draft

def add (d : Draft) : Statement → Option Draft
  | .pair path key value => do
    let entries ←
      d.entries.within false (fun _ inner => inner.assign path key value) d.current .header
    pure { d with entries }
  | .header path key => do
    let entries ← d.entries.within false (fun _ inner => inner.openTable key) path .header
    pure ⟨entries, path ++ [key]⟩
  | .element path key => do
    let entries ← d.entries.within false (fun _ inner => inner.openElement key) path .header
    pure ⟨entries, path ++ [key]⟩

end Draft

/-- What the statements of a document define, if they keep the rules. -/
def define? (statements : List Statement) : Option Entries :=
  (statements.foldlM Draft.add ⟨[], []⟩).map (·.entries)

end DocFilter.Toml
