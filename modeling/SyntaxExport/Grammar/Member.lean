import SyntaxExport.Grammar.Function

/-!
# Members of implementations, traits and foreign blocks

What the grammar reads but does not describe is taken over with the tokens of the source, attributes
included. A rule says so by giving nothing; otherwise it gives what is made of the extent and the
attributes.
-/

namespace SyntaxExport.Grammar

variable {src : List Char}

/-- What a rule makes of an extent and of the attributes before it, if anything. -/
abbrev Made (src : List Char) (c : Category) :=
  Option (Extent → List Attribute → Ast src c .one)

/-- Reads attributes and what follows them; `verbatim` stands for what is not described. -/
def attributed {c : Category} (solve : Solve src) (verbatim : Extent → Ast src c .one)
    (rule : Parser src (Made src c)) : Parser src (Ast src c .one) :=
  node do
    let (attributes, made) ← rawIf (·.2.isNone) do
      let attributes ← outerAttributes solve
      let made ← rule
      return (attributes, made)
    return fun extent =>
      match made with
      | some make => make extent attributes
      | none => verbatim extent

/-- The trees behind a visibility, and whether there is none. -/
def behindVisibility : Parser src (List (Tree src) × Bool) := fun s =>
  match visibility s with
  | .ok (visible, behind) => .ok ((behind.rest, visible.isEmpty), s)
  | .error p => .error p

/-- The position of the first tree, or of the end of the group. -/
def positionOf (trees : List (Tree src)) : Parser src Position := do
  match trees with
  | tree :: _ => return tree.span.start
  | [] => return (← get).stop

/-- A macro call without a visibility comes next. -/
def callStartAhead : Ahead src := fun t =>
  Ahead.ident t || Ahead.word "self" t || Ahead.word "super" t || Ahead.word "crate" t ||
    Ahead.op "::" t

/-- Reads a macro call as a member; with parentheses or brackets it ends in a semicolon. -/
def memberCall : Parser src Unit := do
  let _ ← plainPath
  let (delimiter, _) ← macroBody
  if delimiter ≠ .brace then
    let _ ← op ";"

/-- A type as it is declared: where its conditions stand tells what declares it. -/
structure TypeRead (src : List Char) where
  name : Word src
  generics : List (Ast src .genericParam .one)
  hasColon : Bool
  bounds : Extent
  type : Option (Ty src)

/-- Reads a declared type behind its visibility, with conditions before or after what it stands
for. -/
def declaredType (solve : Solve src) (whereBefore whereBehind : Bool) :
    Parser src (TypeRead src) := do
  let _ ← word "type"
  let name ← ident
  let params ← generics solve
  let hasColon ← peek (Ahead.op ":")
  let stop : Ahead src := fun t => Ahead.word "where" t || Ahead.op "=" t || Ahead.op ";" t
  let bounds ← afterColon (boundsUntil stop (solve (.bound false true)))
  let hasWhere ← if whereBefore then whereClause solve else pure false
  let type ← do
    if ← op? "=" then pure (some (← solve (.type true))) else pure none
  if whereBehind && !hasWhere then
    let _ ← whereClause solve
  let _ ← op ";"
  return ⟨name, params, hasColon, bounds, type⟩

/-- A constant, as it was read; it is plain without generic parameters and conditions. -/
structure ConstRead (src : List Char) where
  name : Word src
  type : Ty src
  value : Option (Expr src)
  isPlain : Bool

/-- Reads a constant behind its visibility. -/
def constant (solve : Solve src) : Parser src (ConstRead src) := do
  let _ ← word "const"
  let name ← if ← peek (Ahead.word "_") then anyWord else ident
  let hasParams ← peek (Ahead.op "<")
  let _ ← generics solve
  let _ ← op ":"
  let type ← solve (.type true)
  let value ← do
    if ← op? "=" then pure (some (← solve (.expr true))) else pure none
  let hasWhere ← whereClause solve
  let _ ← op ";"
  return ⟨name, type, value, !hasParams && !hasWhere⟩

/-! ## Members of an implementation -/

/-- Reads a member of an implementation behind its attributes. -/
def implRule (solve : Solve src) : Parser src (Made src .implItem) := do
  let (trees, isInherited) ← behindVisibility
  let isDefault := Ahead.word "default" trees && !Ahead.second (Ahead.op "!") trees
  let trees := if isDefault then trees.drop 1 else trees
  if signatureAhead false trees then
    let visible ← visibility
    let _ ← word? "default"
    let head ← signature solve false
    if ← op? ";" then return none
    else
      let (inner, body) ← innerBlock solve
      return some fun extent attributes =>
        .implFunction (head.toAst .implItem extent (attributes ++ inner) visible body)
  else if Ahead.word "const" trees then
    let visible ← visibility
    let _ ← if isDefault then word? "default" else pure false
    let c ← constant solve
    return match c.value, c.isPlain with
      | some value, true => some fun extent attributes =>
          .implConst extent attributes visible c.name c.type value
      | _, _ => none
  else if Ahead.word "type" trees then
    let visible ← visibility
    let _ ← word? "default"
    let t ← declaredType solve false true
    return match t.type, t.hasColon with
      | some type, false => some fun extent attributes =>
          .implType extent attributes visible t.name type
      | _, _ => none
  else if isInherited && !isDefault && callStartAhead trees then
    memberCall
    return some fun extent _ => .implVerbatim extent
  else failAt (← positionOf trees)

/-- Reads a member of an implementation. -/
def implMember (solve : Solve src) : Parser src (Ast src .implItem .one) :=
  attributed solve .implVerbatim (implRule solve)

/-! ## Members of a trait -/

/-- Reads a member of a trait behind its visibility. -/
def traitRule (solve : Solve src) (isMarked : Bool) : Parser src (Made src .traitItem) := do
  let trees := (← get).rest
  if signatureAhead false trees then
    let head ← signature solve false
    if ← op? ";" then
      return some fun extent attributes =>
        .traitFunction (head.toAst .traitItem extent attributes [] none)
    else
      let (inner, body) ← innerBlock solve
      return some fun extent attributes =>
        .traitFunction (head.toAst .traitItem extent (attributes ++ inner) [] body)
  else if Ahead.word "const" trees then
    let second := fun s => Ahead.second (Ahead.word s) trees
    if second "async" || second "unsafe" || second "extern" then
      let _ ← signature solve false
      unexpected
    else
      let c ← constant solve
      return if c.isPlain then
        some fun extent attributes =>
          .traitConst extent attributes c.name c.type (.ofOption c.value)
      else none
  else if Ahead.word "type" trees then
    let t ← declaredType solve false true
    return some fun extent attributes =>
      .traitType extent attributes t.bounds t.name (.ofOption t.type)
  else if !isMarked && callStartAhead trees then
    memberCall
    return some fun extent _ => .traitVerbatim extent
  else unexpected

/-- Reads a member of a trait. One with a visibility or a default mark is not described. -/
def traitMember (solve : Solve src) : Parser src (Ast src .traitItem .one) :=
  attributed solve .traitVerbatim do
    let visible ← visibility
    let isDefault ← word? "default"
    let isMarked := isDefault || !visible.isEmpty
    let made ← traitRule solve isMarked
    return if isMarked then none else made

/-! ## Members of a foreign block -/

/-- Reads a static variable of a foreign block behind its visibility; tells whether it is
described. -/
def foreignStatic (solve : Solve src) : Parser src Bool := do
  let isUnsafe ← word? "unsafe"
  let isSafe ← if isUnsafe then pure false else word? "safe"
  let _ ← word "static"
  let _ ← word? "mut"
  let _ ← ident
  let _ ← op ":"
  let _ ← solve (.type true)
  let hasValue ← op? "="
  if hasValue then
    let _ ← solve (.expr true)
  let _ ← op ";"
  return !isUnsafe && !isSafe && !hasValue

/-- Reads a member of a foreign block behind its attributes; tells whether it is described. -/
def foreignRule (solve : Solve src) : Parser src Bool := do
  let (trees, isInherited) ← behindVisibility
  if signatureAhead true trees then
    let _ ← visibility
    let head ← signature solve true
    if ← peek (Ahead.group .brace) then
      let _ ← innerBlock solve
      return false
    else
      let _ ← op ";"
      return !head.isSafe
  else if Ahead.word "static" trees || (Ahead.word "unsafe" trees || Ahead.word "safe" trees) &&
      Ahead.second (Ahead.word "static") trees then
    let _ ← visibility
    foreignStatic solve
  else if Ahead.word "type" trees then
    let _ ← visibility
    let t ← declaredType solve true true
    return !t.hasColon && t.type.isNone
  else if isInherited && callStartAhead trees then
    memberCall
    return true
  else failAt (← positionOf trees)

/-- Reads a member of a foreign block. -/
def foreignMember (solve : Solve src) : Parser src Unit := do
  let _ ← rawIf (!·) do
    let _ ← outerAttributes solve
    foreignRule solve

end SyntaxExport.Grammar
