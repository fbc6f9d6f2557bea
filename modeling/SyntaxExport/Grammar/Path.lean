import SyntaxExport.Grammar.Attribute
import SyntaxExport.Grammar.Extent

/-!
# Paths and their generic arguments

In an expression the arguments of a path segment need a separator before them, since an angle
bracket would be read as a comparison.
-/

namespace SyntaxExport.Grammar

variable {src : List Char}

/-- A segment of a path, as it was read. -/
structure SegmentRead (src : List Char) where
  extent : Extent
  name : Word src
  hasArguments : Bool
  arguments : List (Ast src .argument .one)

/-- The segment as syntax. -/
def SegmentRead.toAst (s : SegmentRead src) : Ast src .segment .one :=
  .segment s.extent s.name (.ofList s.arguments)

/-- A path, as it was read: the extent leaves out the type it may be qualified with. -/
structure PathRead (src : List Char) where
  extent : Extent
  isQualified : Bool
  hasLeading : Bool
  segments : List (SegmentRead src)

namespace PathRead

/-- The path is of plain words. -/
def isPlain (p : PathRead src) : Bool :=
  !p.isQualified && p.segments.all (!·.hasArguments)

/-- The segments as syntax. -/
def toAst (p : PathRead src) : Ast src .segment .many :=
  .ofList (p.segments.map SegmentRead.toAst)

end PathRead

/-- Reads the inside of a block with the attributes at its beginning. -/
def innerBlock (solve : Solve src) : Parser src (List Attribute × Block src) :=
  node do
    let (attributes, statements) ← delimited .brace do
      let attributes ← innerAttributes solve
      let statements ← solve .statements
      return (attributes, statements)
    return fun extent => (attributes, .block extent (.ofList statements))

/-- Reads a literal as an expression. -/
def literalExpr : Parser src (Expr src) :=
  node do
    let (kind, value) ← literal
    return fun extent => .exprLiteral extent kind value

/-- Reads a constant as a generic argument: a literal, a name or a block. -/
def constArgument (solve : Solve src) : Parser src (Expr src) := do
  if ← peek Ahead.literal then literalExpr
  else if ← peek Ahead.ident then
    node do
      let _ ← ident
      return fun extent => .exprPath extent extent
  else if ← peek (Ahead.group .brace) then
    node do
      let (_, block) ← innerBlock solve
      return fun extent => .exprBlock extent none block
  else unexpected

/-- At most `limit` bounds with plus signs between, up to a condition that is tested before each. -/
def boundsBounded (stop : Ahead src) (bound : Parser src BoundKind) :
    (limit : Nat) → Parser src Unit
  | 0 => return ()
  | limit + 1 => do
      if ← peek stop then return ()
      else
        let _ ← bound
        if ← op? "+" then boundsBounded stop bound limit else return ()

/-- Reads bounds with plus signs between, perhaps with one at the end, up to a condition. -/
def boundsUntil (stop : Ahead src) (bound : Parser src BoundKind) : Parser src Unit := do
  boundsBounded stop bound ((← get).rest.length + 1)

/-- The type is a path of one segment, without a separator before it and without a qualification. -/
def isSingleSegment (type : Ty src) : Bool :=
  match type with
  | .typePath _ path (.cons _ .nil) => !path.head?.any (·matches .token ":" _ _)
  | _ => false

/-- Reads a generic argument. A name with an equals sign or a colon behind it binds or bounds an
associated item. -/
def genericArgument (solve : Solve src) :
    Parser src (Ast src .argument .one) := do
  if ← peek fun t => Ahead.lifetime t && !Ahead.second (Ahead.op "+") t then
    return .argumentLifetime (← lifetime)
  else if ← peek fun t => Ahead.literal t || Ahead.group .brace t then
    return .argumentOther (← extentOf (constArgument solve))
  else
    let (type?, extent) ← withExtent do
      let type ← solve (.type true)
      if !isSingleSegment type then return some type
      else if ← op? "=" then
        if ← peek fun t => Ahead.literal t || Ahead.group .brace t then
          let _ ← constArgument solve
        else
          let _ ← solve (.type true)
        return none
      else if ← op? ":" then
        boundsUntil (fun t => Ahead.op "," t || Ahead.op ">" t) (solve (.bound false true))
        return none
      else return some type
    return match type? with
      | some type => .argumentType type
      | none => .argumentOther extent

/-- An element between angle brackets with its extent and the comma behind it, if any. -/
structure ListedRead (src : List Char) (c : Category) where
  value : Ast src c .one
  extent : Extent
  comma : Extent

/-- The element is a lifetime. -/
def ListedRead.isLifetime {c : Category} (e : ListedRead src c) : Bool :=
  match e.value with
  | .argumentLifetime _ | .genericLifetime _ _ => true
  | _ => false

/-- At most `bound` elements before a closing angle bracket, with commas between. -/
def listedBounded {c : Category} (p : Parser src (Ast src c .one)) :
    (bound : Nat) → Parser src (List (ListedRead src c))
  | 0 => return []
  | bound + 1 => do
      if ← peek (Ahead.op ">") then return []
      else
        let (value, extent) ← withExtent p
        if ← peek (Ahead.op ">") then return [⟨value, extent, []⟩]
        else
          let comma ← op ","
          let others ← listedBounded p bound
          return ⟨value, extent, comma⟩ :: others

/-- The printed list between angle brackets: the lifetimes come first. -/
def printListed {c : Category} (opening closing : Extent) (elements : List (ListedRead src c)) :
    Extent :=
  let lifetimes := elements.filter ListedRead.isLifetime
  let others := elements.filter (!·.isLifetime)
  let printed (es : List (ListedRead src c)) : Extent := es.flatMap fun e => e.extent ++ e.comma
  let between : Extent :=
    match lifetimes.getLast?, others with
    | some last, _ :: _ =>
        if last.comma.isEmpty then (opening.take 1).map fun p => .token "," false p.span else []
    | _, _ => []
  opening ++ printed lifetimes ++ between ++ printed others ++ closing

/-- Reads a list between angle brackets; an empty one is printed only if asked for. -/
def listed {c : Category} (keepsEmpty : Bool) (p : Parser src (Ast src c .one)) :
    Parser src (List (Ast src c .one)) := do
  let read := do
    let opening ← op "<"
    let elements ← listedBounded p ((← get).rest.length + 1)
    let closing ← op ">"
    return (opening, elements, closing)
  let print := fun (opening, elements, closing) _ =>
    if elements.isEmpty && !keepsEmpty then [] else printListed opening closing elements
  let (_, elements, _) ← reprint print read
  return elements.map (·.value)

/-- Reads generic arguments between angle brackets. -/
def angleArguments (solve : Solve src) : Parser src (List (Ast src .argument .one)) :=
  listed true (genericArgument solve)

/-- Generic arguments come next. -/
def argumentsAhead (inExpression : Bool) : Ahead src := fun t =>
  (!inExpression && Ahead.op "<" t && !Ahead.op "<=" t) ||
    (Ahead.op "::" t && Ahead.third (Ahead.op "<") t)

/-- Reads a segment of a path. -/
def pathSegment (solve : Solve src) (inExpression : Bool) :
    Parser src (SegmentRead src) :=
  node do
    if ← peek fun t =>
        Ahead.word "super" t || Ahead.word "self" t || Ahead.word "crate" t ||
        Ahead.word "try" t then
      let name ← anyWord
      return fun extent => ⟨extent, name, false, []⟩
    else
      let name ← if ← peek (Ahead.word "Self") then anyWord else ident
      if ← peek (argumentsAhead inExpression) then
        let _ ← op? "::"
        let arguments ← angleArguments solve
        return fun extent => ⟨extent, name, true, arguments⟩
      else return fun extent => ⟨extent, name, false, []⟩

/-- Reads a path without a qualification. -/
def path (solve : Solve src) (inExpression : Bool) :
    Parser src (PathRead src) :=
  node do
    let hasLeading ← op? "::"
    let first ← pathSegment solve inExpression
    let more : Ahead src := fun t =>
      Ahead.op "::" t && !Ahead.third (Ahead.group .parenthesis) t
    let others ← repeatWhile more do
      let _ ← op "::"
      pathSegment solve inExpression
    return fun extent => ⟨extent, false, hasLeading, first :: others⟩

/-- Reads a path that may be qualified with a type. -/
def qualifiedPath (solve : Solve src) (inExpression : Bool) :
    Parser src (PathRead src) := do
  if ← peek (Ahead.op "<") then
    let _ ← op "<"
    let _ ← solve (.type true)
    let trait? ← do
      if ← word? "as" then
        let p ← path solve false
        pure (some p)
      else pure none
    let _ ← op ">"
    let (segments, rest) ← withExtent do
      let _ ← op "::"
      let first ← pathSegment solve inExpression
      let others ← repeatWhile (Ahead.op "::") do
        let _ ← op "::"
        pathSegment solve inExpression
      return first :: others
    return match trait? with
      | some p => ⟨p.extent ++ rest, true, p.hasLeading, p.segments ++ segments⟩
      | none => ⟨rest, true, true, segments⟩
  else path solve inExpression

end SyntaxExport.Grammar
