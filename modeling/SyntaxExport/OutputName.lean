import SyntaxExport.Format

/-!
# Names of output files

All documents of a batch go into one directory, so a path is made flat. Different paths can have the
same flat name; then a number tells them apart.
-/

namespace SyntaxExport.OutputName

/-- The characters without the marks of the current directory at their beginning. -/
def dropCurrent : List Char → List Char
  | '.' :: '/' :: rest => dropCurrent rest
  | cs => cs

/-- A character of a path in a flat name: separators are written as two underscores, and colons are
left out. -/
def flatChar (c : Char) : List Char :=
  if c = '/' || c = '\\' then ['_', '_'] else if c = ':' then [] else [c]

/-- The flat name of a path, without extension. -/
def stem (path : String) : String :=
  String.ofList (((dropCurrent path.toList).dropWhile (· = '/')).flatMap flatChar)

/-- The name of the document of a path. -/
def flat (path : String) (format : Format) : String :=
  stem path ++ "." ++ format.extension

/-- The name of the document of a path with a number. A number is tried only after the names of all
smaller ones were found taken, so it is at most the number of documents of the batch: a count of 32
bits with a sign could not hold it only in a batch of two thousand million documents. -/
def numbered (path : String) (format : Format) (n : Nat) : String :=
  stem path ++ "-" ++ toString n ++ "." ++ format.extension

/-- The names that the document of a path may get, in the order they are tried: the flat one, then
those with a number, from one on. -/
def candidate (path : String) (format : Format) : Nat → String
  | 0 => flat path format
  | n + 1 => numbered path format (n + 1)

/-- Takes a name, unless it is taken already: whether it was free, and the names that are taken
then. -/
def register (taken : List String) (name : String) : Bool × List String :=
  if taken.contains name then (false, taken) else (true, name :: taken)

/-- Takes the first free name from the `n`-th on, with the names that are taken then. Only `tries`
names are tried. -/
def takeFirst? (name : Nat → String) :
    (tries n : Nat) → (taken : List String) → Option (String × List String)
  | 0, _, _ => none
  | tries + 1, n, taken =>
      match register taken (name n) with
      | (true, taken') => some (name n, taken')
      | (false, taken') => takeFirst? name tries (n + 1) taken'

/-- Takes a name for the document of a path: the flat one, or the one with the least number that is
free. One name more than there are taken ones is tried, so that one is found. -/
def unique (taken : List String) (path : String) (format : Format) : String × List String :=
  (takeFirst? (candidate path format) (taken.length + 1) 0 taken).getD (flat path format, taken)

end SyntaxExport.OutputName
