/-!
# Paths

A path is a text. `Path.components` gives its parts: a path goes on from the root or from the
current directory, empty parts and single dots between slashes mean nothing. Paths are ordered by
their parts, so that what is in a directory stands together.
-/

namespace SyntaxExport.Path

/-- The pieces of a text between separators. -/
def pieces (separator : Char) (s : String) : List String :=
  (s.toList.splitOn separator).map String.ofList

/-- The path goes on from the root. -/
def isAbsolute (path : String) : Bool :=
  path.toList.head? == some '/'

/-- A part of a path. -/
inductive Component where
  | root
  | current
  | parent
  | name (text : String)
  deriving DecidableEq, Repr

namespace Component

/-- The kinds of parts in their order. -/
def rank : Component → Nat
  | root => 0
  | current => 1
  | parent => 2
  | name _ => 3

/-- The name that a part is; empty for the other kinds. -/
def text : Component → String
  | name s => s
  | _ => ""

/-- The order of parts: by kind, and names by their code points. -/
def le (a b : Component) : Bool :=
  a.rank < b.rank || a.rank == b.rank && decide (a.text ≤ b.text)

/-- What a part between slashes means, unless it is empty or a single dot. -/
def ofPart? (part : String) : Option Component :=
  if part == "" || part == "." then none
  else if part == ".." then some parent
  else some (name part)

end Component

/-- The parts of a path. A single dot counts only at the beginning. -/
def components (path : String) : List Component :=
  let parts := pieces '/' path
  let start :=
    if isAbsolute path then [Component.root]
    else if parts.head? == some "." then [Component.current]
    else []
  start ++ parts.filterMap Component.ofPart?

/-- The order of lists of parts. -/
def componentsLe : List Component → List Component → Bool
  | [], _ => true
  | _ :: _, [] => false
  | a :: as, b :: bs => if a = b then componentsLe as bs else a.le b

/-- The order of paths. -/
def le (a b : String) : Bool :=
  componentsLe (components a) (components b)

/-- Two paths have the same parts. -/
def same (a b : String) : Bool :=
  components a == components b

/-- The name a path ends with. -/
def fileName? (path : String) : Option String :=
  match (components path).getLast? with
  | some (.name s) => some s
  | _ => none

/-- What follows the last dot of a name. A dot at the beginning does not count. -/
def extensionOf? (name : String) : Option String :=
  let parts := pieces '.' name
  match parts.getLast? with
  | none => none
  | some last =>
      if parts.length < 2 || parts.length == 2 && parts.head? == some "" then none else some last

/-- The extension of the name a path ends with. -/
def extension? (path : String) : Option String :=
  (fileName? path).bind extensionOf?

/-- The path of a name in a directory. -/
def join (directory name : String) : String :=
  if directory.isEmpty then name
  else if directory.toList.getLast? == some '/' then directory ++ name
  else directory ++ "/" ++ name

end SyntaxExport.Path
