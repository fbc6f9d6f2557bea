import SyntaxExport.Path

/-!
# File trees

`Entry` is a file or a directory with all that is in it, without links. Paths are followed as texts
from the directory at the top, the current one: every part between slashes is a step, and what lies
outside of the tree does not exist.
-/

namespace SyntaxExport

/-- What a file holds: a text, or bytes that are none. -/
inductive Content where
  | text (s : String)
  | binary
  deriving DecidableEq, Repr

/-- A file, or a directory with its entries in the order they are listed. -/
inductive Entry where
  | file (content : Content)
  | directory (entries : List (String × Entry))

namespace Entry

/-- A directory with nothing in it. -/
def empty : Entry :=
  .directory []

/-- The entry is a directory. -/
def isDirectory : Entry → Bool
  | directory _ => true
  | file _ => false

/-- The text of a file. -/
def text? : Entry → Option String
  | file (.text s) => some s
  | _ => none

/-- What a directory lists. -/
def entries : Entry → List (String × Entry)
  | directory entries => entries
  | file _ => []

/-- What names lead to, one directory after the other. -/
def at? (e : Entry) : List String → Option Entry
  | [] => some e
  | name :: rest =>
      match e.entries.lookup name with
      | some child => child.at? rest
      | none => none

/-- Entries with one of them set: in its place if it is there, else at the end. -/
def putIn (name : String) (child : Entry) : List (String × Entry) → List (String × Entry)
  | [] => [(name, child)]
  | (other, e) :: rest =>
      if other == name then (name, child) :: rest else (other, e) :: putIn name child rest

/-- The tree with an entry set where names lead to; the directories on the way are there. -/
def put (e : Entry) (child : Entry) : List String → Option Entry
  | [] => none
  | [name] => if e.isDirectory then some (.directory (putIn name child e.entries)) else none
  | name :: rest =>
      match e.entries.lookup name with
      | some inner =>
          (inner.put child rest).map fun inner => .directory (putIn name inner e.entries)
      | none => none

/-! ## Paths in a tree -/

/-- The names that the parts of a path lead to from a place in the tree. Every step starts from a
directory; the last name need not exist. -/
def placeFrom? (root : Entry) : (place parts : List String) → Option (List String)
  | place, [] => some place
  | place, part :: rest =>
      match root.at? place with
      | some (.directory _) =>
          if part == "" || part == "." then placeFrom? root place rest
          else if part == ".." then
            if place.isEmpty then none else placeFrom? root place.dropLast rest
          else placeFrom? root (place ++ [part]) rest
      | _ => none

/-- The names that a path leads to. -/
def place? (root : Entry) (path : String) : Option (List String) :=
  if path.isEmpty || Path.isAbsolute path then none
  else placeFrom? root [] (Path.pieces '/' path)

/-- What stands at a path. -/
def find? (root : Entry) (path : String) : Option Entry :=
  (root.place? path).bind root.at?

/-! ## Changes -/

/-- A file or directory can have this name. -/
def isName (name : String) : Bool :=
  name != "" && name != "." && name != ".." && name.utf8ByteSize ≤ 255 &&
    !name.toList.contains (Char.ofNat 0)

/-- The tree with a file written, if it can be: its directory is there, and no directory has its
name. -/
def write? (root : Entry) (path content : String) : Option Entry := do
  let name ← (Path.pieces '/' path).getLast?
  let place ← root.place? path
  if !isName name then none
  else
    match root.at? place with
    | some (.directory _) => none
    | _ => root.put (.file (.text content)) place

/-- The tree with the directories on a path made, as far as they are missing. -/
def createFrom? (root : Entry) : (place parts : List String) → Option Entry
  | _, [] => some root
  | place, part :: rest =>
      if part == "" || part == "." then createFrom? root place rest
      else if part == ".." then
        if place.isEmpty then none else createFrom? root place.dropLast rest
      else
        match root.at? (place ++ [part]) with
        | some (.directory _) => createFrom? root (place ++ [part]) rest
        | some (.file _) => none
        | none =>
            if isName part then
              match root.put .empty (place ++ [part]) with
              | some root => createFrom? root (place ++ [part]) rest
              | none => none
            else none

/-- The tree with the directory of a path, if it can be made. An empty path is the current one. -/
def createDirectories? (root : Entry) (path : String) : Option Entry :=
  if Path.isAbsolute path then none else createFrom? root [] (Path.pieces '/' path)

end Entry

end SyntaxExport
