import SyntaxExport.Grammar.Path

/-!
# Generic parameters and their conditions

An empty list of parameters is not printed, and a colon with no bounds behind it neither.
-/

namespace SyntaxExport.Grammar

variable {src : List Char}

/-- Reads what stands behind a colon, if there is one, and gives its extent. -/
def afterColon (p : Parser src Unit) : Parser src Extent := do
  if ← peek (Ahead.op ":") then
    let keep (bounds extent : Extent) : Extent := if bounds.isEmpty then [] else extent
    reprint keep do
      let _ ← op ":"
      extentOf p
  else return []

/-- Reads lifetimes with plus signs between. -/
def lifetimeBounds (stop : Ahead src) : Parser src Unit :=
  boundsUntil stop do
    let _ ← lifetime
    return .lifetime

/-- The list of parameters or arguments is over, or its next element comes. -/
def elementEnd : Ahead src := fun t =>
  Ahead.op "," t || Ahead.op ">" t

/-- Reads a generic parameter. -/
def genericParam (solve : Solve src) : Parser src (Ast src .genericParam .one) :=
  node do
    let _ ← outerAttributes solve
    if ← peek Ahead.ident then
      let name ← ident
      let stop : Ahead src := fun t => elementEnd t || Ahead.op "=" t
      let bounds ← afterColon (boundsUntil stop (solve (.bound false true)))
      let byDefault ← do
        if ← op? "=" then pure (some (← solve (.type true))) else pure none
      return fun extent => .genericType extent bounds name (.ofOption byDefault)
    else if ← peek Ahead.lifetime then
      let name ← lifetime
      let _ ← afterColon (lifetimeBounds elementEnd)
      return fun extent => .genericLifetime extent name
    else if ← word? "const" then
      let name ← ident
      let _ ← op ":"
      let type ← solve (.type true)
      let byDefault ← do
        if ← op? "=" then pure (some (← constArgument solve)) else pure none
      return fun extent => .genericConst extent name type (.ofOption byDefault)
    else unexpected

/-- Reads a generic parameter of a declaration, whose name may be left out. -/
def declaredParam (solve : Solve src) : Parser src (Ast src .genericParam .one) := do
  let isNameless ← wouldSucceed do
    let _ ← outerAttributes solve
    word "_"
  if isNameless then
    node do
      let _ ← outerAttributes solve
      let name ← anyWord
      return fun extent => .genericType extent [] name .absent
  else genericParam solve

/-- Reads the generic parameters of a declaration, if there are any. -/
def generics (solve : Solve src) : Parser src (List (Ast src .genericParam .one)) := do
  if ← peek (Ahead.op "<") then listed false (declaredParam solve) else return []

/-- Reads lifetimes that are bound in front of a type, if there are any, and tells whether. -/
def boundLifetimes (solve : Solve src) : Parser src Bool := do
  if ← word? "for" then
    let _ ← op "<"
    let _ ← separatedUntil (Ahead.op ">") "," (genericParam solve)
    let _ ← op ">"
    return true
  else return false

/-- What follows looks like generic parameters, not like a qualified path. -/
def parametersAhead : Ahead src := fun t =>
  Ahead.op "<" t &&
    (Ahead.second (Ahead.op ">") t || Ahead.second Ahead.pound t ||
      (Ahead.second Ahead.lifetime t || Ahead.second Ahead.ident t) &&
        (Ahead.third (Ahead.op ">") t || Ahead.third (Ahead.op ",") t ||
          Ahead.third (Ahead.op ":") t && !Ahead.third (Ahead.op "::") t ||
          Ahead.third (Ahead.op "=") t) ||
      Ahead.second (Ahead.word "const") t)

/-- A list of conditions is over. -/
def conditionsEnd : Ahead src := fun t =>
  Ahead.atEnd t || Ahead.group .brace t || Ahead.op "," t || Ahead.op ";" t ||
    Ahead.op ":" t && !Ahead.op "::" t || Ahead.op "=" t

/-- Reads a condition on a lifetime or on a type. -/
def condition (solve : Solve src) : Parser src Unit := do
  if ← peek fun t => Ahead.lifetime t && Ahead.second (Ahead.op ":") t then
    let _ ← lifetime
    let _ ← op ":"
    lifetimeBounds fun t => conditionsEnd t || Ahead.op ":" t
  else
    let _ ← boundLifetimes solve
    let _ ← solve (.type true)
    let _ ← op ":"
    boundsUntil conditionsEnd (solve (.bound false true))

/-- At most `bound` conditions with commas between. -/
def conditionsBounded (solve : Solve src) : (bound : Nat) → Parser src Unit
  | 0 => return ()
  | bound + 1 => do
      if ← peek conditionsEnd then return ()
      else
        condition solve
        if ← op? "," then conditionsBounded solve bound else return ()

/-- Reads the conditions on generic parameters, if there are any, and tells whether the word for
them was there. Without a condition the word is not printed. -/
def whereClause (solve : Solve src) : Parser src Bool := do
  if ← peek (Ahead.word "where") then
    let keep (conditions extent : Extent) : Extent := if conditions.isEmpty then [] else extent
    let _ ← reprint keep do
      let _ ← word "where"
      if ← peek parametersAhead then unexpected
      extentOf do conditionsBounded solve ((← get).rest.length + 1)
    return true
  else return false

end SyntaxExport.Grammar
