/-!
# Names of list items

The items of a list slot go by the slot's name without its plural ending.
-/

namespace SyntaxExport.Text

/-- The characters without one `s` at their end. -/
def dropPlural (cs : List Char) : List Char :=
  if cs.getLast? = some 's' then cs.dropLast else cs

/-- The name without one `s` at its end. Other plurals are not told apart: `entries` gives
`entrie`. -/
def singularize (name : String) : String :=
  String.ofList (dropPlural name.toList)

end SyntaxExport.Text
