/-!
# Values of a TOML document

Tables are lists of entries in the order they are written. A table knows how it came about, since
that decides whether it may be extended later in the document.
-/

namespace SyntaxExport

namespace Toml

/-- How a table came about: by a header of its own, as a part of a longer header, by a dotted key,
or written in one line as a value. -/
inductive Origin where
  | header
  | parent
  | dotted
  | inline
  deriving DecidableEq, Repr

/-- A value. Numbers with a fraction and points in time are only known to be well formed. -/
inductive Value where
  | text (s : String)
  | integer (n : Int)
  | float
  | moment
  | boolean (b : Bool)
  | array (items : List Value)
  | table (origin : Origin) (entries : List (String × Value))
  | tables (items : List (List (String × Value)))

/-- The entries of a table. -/
abbrev Entries := List (String × Value)

namespace Entries

/-- The entries with another value for a key that is there. -/
def replace (entries : Entries) (key : String) (value : Value) : Entries :=
  entries.map fun entry => if entry.1 == key then (key, value) else entry

/-- The entries without a key. -/
def remove (entries : Entries) (key : String) : Entries :=
  entries.filter fun entry => entry.1 != key

/-- Changes the table that a path of keys leads to, and makes the tables on the way that are
missing. A path goes on in the last of several tables of one name. It does not lead into a value,
and a path of dotted keys not into a table with a header. -/
def modifyAt (isDotted : Bool) (change : Origin → Entries → Option Entries) :
    (path : List String) → Origin → Entries → Option Entries
  | [], origin, entries => change origin entries
  | key :: rest, _, entries =>
      match entries.lookup key with
      | none =>
          let made := if isDotted then Origin.dotted else .parent
          (modifyAt isDotted change rest made []).map fun inner =>
            entries ++ [(key, .table made inner)]
      | some (.table .inline _) => none
      | some (.table origin inner) =>
          if isDotted && origin == .header then none
          else
            (modifyAt isDotted change rest origin inner).map fun inner =>
              replace entries key (.table origin inner)
      | some (.tables items) =>
          match items.getLast? with
          | none => none
          | some last =>
              (modifyAt isDotted change rest .header last).map fun last =>
                replace entries key (.tables (items.dropLast ++ [last]))
      | some _ => none

/-- The table that a path of keys leads to; empty if it is not there yet. -/
def at? : (path : List String) → Entries → Option Entries
  | [], entries => some entries
  | key :: rest, entries =>
      match entries.lookup key with
      | none => some []
      | some (.table .inline _) => none
      | some (.table _ inner) => at? rest inner
      | some (.tables items) => items.getLast?.bind (at? rest)
      | some _ => none

/-- Adds a value under a path of dotted keys. A key is set once, and dotted keys extend only tables
that dotted keys have made. -/
def insert (entries : Entries) (path : List String) (key : String) (value : Value) :
    Option Entries :=
  let add (origin : Origin) (inner : Entries) : Option Entries :=
    if (origin == .dotted) == path.isEmpty then none
    else if (inner.lookup key).isSome then none
    else some (inner ++ [(key, value)])
  modifyAt true add path .header entries

end Entries

end Toml

end SyntaxExport
