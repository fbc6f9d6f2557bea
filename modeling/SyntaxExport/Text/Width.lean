/-!
# Texts of a least width

Widths count characters. A text that is wide enough already is kept as it is.
-/

namespace SyntaxExport.Text

/-- The text with blanks after it up to `width` characters. -/
def padEnd (s : String) (width : Nat) : String :=
  String.ofList (s.toList ++ List.replicate (width - s.length) ' ')

/-- The text with blanks before it up to `width` characters. -/
def padStart (s : String) (width : Nat) : String :=
  String.ofList (List.replicate (width - s.length) ' ' ++ s.toList)

end SyntaxExport.Text
