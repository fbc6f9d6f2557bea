/-!
# Source files to be exported
-/

namespace SyntaxExport

/-- A source file that has been read: its path, the package it belongs to if that is known, and its
text. -/
structure InputFile where
  path : String
  package : Option String
  content : String
  deriving DecidableEq, Repr

end SyntaxExport
