import SyntaxExport.Grammar.Generics

/-!
# Bounds of types
-/

namespace SyntaxExport.Grammar

variable {src : List Char}

/-- Reads the type behind an arrow, if there is one. -/
def returnType (solve : Solve src) (allowPlus : Bool) : Parser src (Option (Ty src)) := do
  if ← op? "->" then return some (← solve (.type allowPlus)) else return none

/-- Reads the mark of a trait for constants, if there is one, and tells whether. -/
def constMark (allowConst : Bool) : Parser src Bool := do
  let start ← here
  let isMarked ← do
    if ← peek (Ahead.group .bracket) then
      let _ ← delimited .bracket (word "const")
      pure true
    else word? "const"
  if isMarked && !allowConst then failAt start else return isMarked

/-- Reads a trait as a bound: lifetimes bound in front, a mark for constants, a question mark, and a
path whose last segment may have arguments in parentheses. -/
def traitBound (solve : Solve src) (allowConst : Bool) : Parser src BoundKind := do
  let bindsBefore ← boundLifetimes solve
  let isConst ← constMark allowConst
  let question ← here
  let isMaybe ← op? "?"
  let bindsBehind ← do if isMaybe && !bindsBefore then boundLifetimes solve else pure false
  let p ← path solve false
  let isEmpty := p.segments.getLast?.all (·.arguments.isEmpty)
  if ← peek fun t => isEmpty && (Ahead.group .parenthesis t ||
      Ahead.op "::" t && Ahead.third (Ahead.group .parenthesis) t) then
    let _ ← silently (op? "::")
    let _ ← delimited .parenthesis (terminated (solve (.type true)))
    let _ ← returnType solve false
  if isMaybe && (bindsBefore || bindsBehind) then failAt question
  return if isConst then .constTrait else .trait

/-- Reads a list of captured parameters. -/
def captures : Parser src Unit := do
  let _ ← word "use"
  let _ ← op "<"
  let _ ← separatedUntil (Ahead.op ">") "," do
    if ← peek Ahead.lifetime then
      let _ ← lifetime
    else if ← peek (Ahead.word "Self") then
      let _ ← anyWord
    else
      let _ ← ident
  let _ ← op ">"

/-- Reads a bound: a lifetime, captured parameters, or a trait, perhaps in parentheses. -/
def bound (solve : Solve src) (allowCapture allowConst : Bool) : Parser src BoundKind := do
  if ← peek Ahead.lifetime then
    let _ ← lifetime
    return .lifetime
  else if ← peek (Ahead.word "use") then
    let start ← here
    captures
    if allowCapture then return .capture else failAt start
  else
    rawIf (· == .constTrait) do
      if ← peek (Ahead.group .parenthesis) then
        delimited .parenthesis (traitBound solve allowConst)
      else traitBound solve allowConst

/-- A further bound comes next. -/
def boundAhead (allowConst : Bool) : Ahead src := fun t =>
  Ahead.anyWord t || Ahead.op "::" t || Ahead.op "?" t || Ahead.lifetime t ||
    Ahead.group .parenthesis t || allowConst && Ahead.group .bracket t

/-- At most `limit` further bounds, each behind a plus sign; the last plus sign may stand alone. -/
def furtherBounded (solve : Solve src) (allowCapture allowConst : Bool) :
    (limit : Nat) → Parser src (List BoundKind)
  | 0 => return []
  | limit + 1 => do
      if ← op? "+" then
        if ← peek (boundAhead allowConst) then
          let kind ← solve (.bound allowCapture allowConst)
          let others ← furtherBounded solve allowCapture allowConst limit
          return kind :: others
        else return []
      else return []

/-- Reads further bounds behind plus signs. -/
def furtherBounds (solve : Solve src) (allowCapture allowConst : Bool) :
    Parser src (List BoundKind) := do
  furtherBounded solve allowCapture allowConst ((← get).rest.length + 1)

/-- Reads bounds with plus signs between; there is a trait among them, or it is an error at
`start`. -/
def boundSum (solve : Solve src) (start : Position) (allowPlus allowCapture allowConst : Bool) :
    Parser src Unit := do
  let first ← solve (.bound allowCapture allowConst)
  let others ← do
    if allowPlus then furtherBounds solve allowCapture allowConst else pure []
  if (first :: others).any fun kind => kind == .trait || kind == .constTrait then return ()
  else failAt start

end SyntaxExport.Grammar
