import SyntaxExport.Grammar.Operator

/-!
# What follows an operand directly

Calls, members, method calls, indices and question marks. Two indices with a dot between them are
read as one number, which is split again.
-/

namespace SyntaxExport.Grammar

variable {src : List Char}

/-- A part of a line. -/
def columns (start : Position) (offset length : Nat) : Span :=
  ⟨⟨start.line, start.column + offset⟩, ⟨start.line, start.column + offset + length⟩⟩

/-- The members that the parts of a number name: the expression with all of them, what was printed
behind the first dot, and the dot behind the last of them. -/
def indexParts (start : Position) : (e : Expr src) → (dot : Extent) → (offset : Nat) →
    List (List Char) → Option (Expr src × Extent)
  | e, _, _, [] => some (e, [])
  | e, dot, offset, part :: rest =>
      let (value, suffix) := Literal.integerValue part
      if Literal.kind part == .int && suffix.isEmpty && value < 0x100000000 then
        let index := [Piece.token (toString value) false (columns start offset part.length)]
        let next := offset + part.length
        let behind : Extent := [.token "." false (columns start next 1)]
        let field := Ast.exprField (Ast.extent e ++ dot ++ index) index e
        match indexParts start field behind (next + 1) rest with
        | some (result, printed) =>
            some (result, index ++ (if rest.isEmpty then [] else behind) ++ printed)
        | none => none
      else none

/-- Reads a member behind its dot: the end of a suspended computation, a method call or a field. -/
def memberTrailer (solve : Solve src) (e : Expr src) (dot : Extent) : Parser src (Expr src) := do
  let (make, behind) ← withExtent do
    if ← word? "await" then return fun extent => Ast.exprAwait extent e
    else
      let m ← member
      let isMethod ← do
        if m.name.isSome && (← peek (Ahead.op "::")) then
          let _ ← op "::"
          let _ ← angleArguments solve
          pure true
        else peek (Ahead.group .parenthesis)
      match m.name, isMethod with
      | some method, true =>
          let arguments ← delimited .parenthesis (terminated (solve (.expr true)))
          return fun extent => .exprMethodCall extent e method (.ofList arguments)
      | _, _ => return fun extent => .exprField extent m.extent e
  return make (Ast.extent e ++ dot ++ behind)

/-- Reads members behind a dot that are written as one number. -/
def numberTrailer (solve : Solve src) (e : Expr src) (dot : Extent) (text : String) (span : Span) :
    Parser src (Expr src) := do
  let chars := text.toList
  let endsInDot := chars.getLast? == some '.'
  let digits := if endsInDot then chars.dropLast else chars
  let parts := (String.ofList digits).splitOn "."
  match indexParts span.start e dot 0 (parts.map String.toList) with
  | none => unexpected
  | some (field, printed) =>
      if endsInDot then
        let last : Extent := [.token "." false (columns span.start digits.length 1)]
        take 1 (printed ++ last)
        memberTrailer solve field last
      else
        take 1 printed
        return field

/-- Reads what stands behind the dot of a member. -/
def dotTrailer (solve : Solve src) (e : Expr src) : Parser src (Expr src) := do
  let dot ← op "."
  match (← get).rest with
  | .literal text span :: _ =>
      if Literal.kind text.toList == .float then numberTrailer solve e dot text span
      else memberTrailer solve e dot
  | _ => memberTrailer solve e dot

/-- Reads one trailer of an expression, if there is one. -/
def trailer (solve : Solve src) (e : Expr src) : Parser src (Option (Expr src)) := do
  if ← peek (Ahead.group .parenthesis) then
    let (arguments, behind) ←
      withExtent (delimited .parenthesis (terminated (solve (.expr true))))
    return some (.exprCall (Ast.extent e ++ behind) e (.ofList arguments))
  else if ← peek fun t => Ahead.op "." t && !Ahead.op ".." t && !Expr.isRange e then
    return some (← dotTrailer solve e)
  else if ← peek (Ahead.group .bracket) then
    let (index, behind) ← withExtent (delimited .bracket (solve (.expr true)))
    return some (.exprIndex (Ast.extent e ++ behind) e index)
  else if ← peek fun t => Ahead.op "?" t && !Expr.isRange e then
    let behind ← op "?"
    return some (.exprTry (Ast.extent e ++ behind) e)
  else return none

/-- Gives an expression the trailers behind it. -/
def trailers (solve : Solve src) (e : Expr src) : Parser src (Expr src) := do
  match ← trailer solve e with
  | some next => solve (.trailers next)
  | none => return e

end SyntaxExport.Grammar
