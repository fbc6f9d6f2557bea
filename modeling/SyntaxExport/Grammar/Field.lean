import SyntaxExport.Grammar.Expression

/-!
# Visibility, fields and variants
-/

namespace SyntaxExport.Grammar

variable {src : List Char}

/-- Reads the inside of a restricted visibility: a word alone, or a path behind `in`. -/
def restriction : Parser src Unit := do
  if ← word? "in" then
    let _ ← plainPath
  else
    let _ ← wordWhere fun s => s == "crate" || s == "self" || s == "super"

/-- A restriction of the visibility comes next. -/
def restrictionAhead : Ahead src
  | .group .parenthesis [.word w] _ _ :: _ =>
      w.text == "crate" || w.text == "self" || w.text == "super" || w.text == "in"
  | .group .parenthesis (.word w :: _) _ _ :: _ => w.text == "in"
  | _ => false

/-- Reads a visibility; it is empty if it is inherited. -/
def visibility : Parser src Extent := do
  if ← peek (Ahead.word "pub") then
    extentOf do
      let _ ← word "pub"
      if ← peek restrictionAhead then delimited .parenthesis restriction
  else return []

/-- Reads a field with a name. A field without one may have the fields of a struct in place. -/
def namedField (solve : Solve src) : Parser src (Ast src .field .one) :=
  node do
    let attributes ← outerAttributes solve
    let visible ← visibility
    let isNameless ← peek (Ahead.word "_")
    let name ← if isNameless then anyWord else ident
    let _ ← op ":"
    if ← peek fun t => isNameless && (Ahead.word "struct" t ||
        Ahead.word "union" t && Ahead.second (Ahead.group .brace) t) then
      let (_, type) ← withExtent <| raw do
        let _ ← anyWord
        let _ ← solve .namedFields
      return fun extent => .field extent attributes visible name (.typeVerbatim .other type)
    else
      let type ← solve (.type true)
      return fun extent => .field extent attributes visible name type

/-- Reads fields between braces. -/
def namedFields (solve : Solve src) : Parser src (List (Ast src .field .one)) :=
  delimited .brace (terminated (namedField solve))

/-- Reads a field without a name. -/
def tupleField (solve : Solve src) : Parser src (Ast src .field .one) :=
  node do
    let attributes ← outerAttributes solve
    let visible ← visibility
    let type ← solve (.type true)
    return fun extent => .field extent attributes visible none type

/-- Reads fields between parentheses. -/
def tupleFields (solve : Solve src) : Parser src (List (Ast src .field .one)) :=
  delimited .parenthesis (terminated (tupleField solve))

/-- Reads a variant of an enumeration. A visibility before it is not printed. -/
def variant (solve : Solve src) : Parser src (Ast src .variant .one) :=
  node do
    let attributes ← outerAttributes solve
    let _ ← silently visibility
    let name ← ident
    let (style, fields) ← do
      if ← peek (Ahead.group .brace) then pure (FieldStyle.named, ← namedFields solve)
      else if ← peek (Ahead.group .parenthesis) then pure (FieldStyle.tuple, ← tupleFields solve)
      else pure (FieldStyle.unit, [])
    let discriminant ← do
      if ← op? "=" then pure (some (← solve (.expr true))) else pure none
    return fun extent =>
      .variant extent attributes style name (.ofOption discriminant) (.ofList fields)

end SyntaxExport.Grammar
