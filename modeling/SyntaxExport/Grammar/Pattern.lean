import SyntaxExport.Grammar.Type

/-!
# Patterns
-/

namespace SyntaxExport.Grammar

variable {src : List Char}

/-- A member of a struct or tuple: its printed name or index, and the word if it is a name. -/
structure MemberRead (src : List Char) where
  extent : Extent
  name : Option (Word src)

/-- Reads the index of a member: an integer without a suffix that fits into 32 bits, printed in
decimal. -/
def indexMember : Parser src (MemberRead src) := do
  match (← get).rest with
  | .literal text span :: _ =>
      let (value, suffix) := Literal.integerValue text.toList
      if Literal.kind text.toList == .int && suffix.isEmpty && value < 0x100000000 then
        let pieces := [.token (toString value) false span]
        take 1 pieces
        return ⟨pieces, none⟩
      else unexpected
  | _ => unexpected

/-- Reads a member: a name or an index. -/
def member : Parser src (MemberRead src) := do
  if ← peek Ahead.ident then
    let name ← ident
    return ⟨[.token name.text false name.span], some name⟩
  else indexMember

/-- The dots of a range: whether its end belongs to it. -/
inductive RangeLimits where
  | halfOpen
  | closed
  deriving DecidableEq

/-- Reads the dots of a range. Three dots are an old spelling that some ranges allow. -/
def rangeLimits (allowOld : Bool) : Parser src RangeLimits := do
  if ← op? "..=" then return .closed
  else if ← peek (Ahead.op "...") then
    if allowOld then
      let spell (pieces : Extent) : Extent :=
        pieces.take 2 ++ (pieces.drop 2).map fun p => .token "=" false p.span
      let _ ← reprint (fun _ extent => spell extent) (op "...")
      return .closed
    else unexpected
  else
    let _ ← op ".."
    return .halfOpen

/-- A constant block as a pattern or expression: its extent. -/
def constBlock (solve : Solve src) : Parser src Unit := do
  let _ ← word "const"
  let _ ← innerBlock solve

/-- A path in an expression comes next. -/
def pathAhead : Ahead src := fun t =>
  Ahead.pathWord t || Ahead.op "::" t || Ahead.op "<" t

/-- No end of a range pattern comes next. -/
def rangeOpen : Ahead src := fun t =>
  Ahead.atEnd t || Ahead.op "|" t || Ahead.op "=" t || Ahead.op ":" t && !Ahead.op "::" t ||
    Ahead.op "," t || Ahead.op ";" t || Ahead.word "if" t

/-- Reads an end of a range pattern, as a pattern: a literal, a path or a constant block. -/
def rangeBound (solve : Solve src) : Parser src (Pat src) :=
  node do
    if ← peek Ahead.literal then
      let (kind, value) ← literal
      return fun extent => .patLiteral extent kind value
    else if ← peek pathAhead then
      let p ← qualifiedPath solve true
      return fun extent => .patPath extent p.extent
    else if ← peek (Ahead.word "const") then
      constBlock solve
      return fun extent => .patVerbatim false extent
    else unexpected

/-- Reads the dots and the upper end of a range pattern that has a lower end. -/
def rangeBehind (solve : Solve src) : Parser src (Extent → Pat src) := do
  let dots ← here
  let limits ← rangeLimits true
  let isOpen ← peek rangeOpen
  if isOpen then
    if limits == .closed then unexpected
  else
    let _ ← rangeBound solve
  return fun extent => .patRange extent dots !isOpen

/-- Reads a range pattern without a lower end, or the rest of a sequence. -/
def rangeOrRest (solve : Solve src) : Parser src (Extent → Pat src) := do
  let dots ← here
  let limits ← rangeLimits false
  if ← peek rangeOpen then
    if limits == .closed then unexpected
    else return fun extent => .patRest extent
  else
    let _ ← rangeBound solve
    return fun extent => .patRange extent dots false

/-- A bar between alternatives comes next. -/
def barAhead : Ahead src := fun t =>
  Ahead.op "|" t && !Ahead.op "||" t && !Ahead.op "|=" t

/-- Reads a pattern with alternatives, perhaps with a bar before the first of them. -/
def alternatives (solve : Solve src) : Parser src (Pat src) :=
  node do
    let hasBar ← op? "|"
    let first ← solve .pattern
    let others ← repeatWhile barAhead do
      let _ ← op "|"
      solve .pattern
    if hasBar || !others.isEmpty then
      return fun extent => .patOr extent (.ofList (first :: others))
    else return fun _ => first

/-- A field with a pattern of its own comes next. -/
def longFieldAhead : Parser src Bool :=
  wouldSucceed do
    let m ← member
    if m.name.isNone then return ()
    else if ← peek (Ahead.op ":") then return ()
    else unexpected

/-- Reads a field in a struct pattern, or the dots that stand for all others. A field without a
pattern of its own names what it holds, and only that is printed. -/
def fieldPattern (solve : Solve src) : Parser src (Option (Ast src .fieldPat .one)) :=
  node do
    let _ ← outerAttributes solve
    if ← op? ".." then return fun _ => none
    else if ← longFieldAhead then
      let m ← member
      let _ ← op ":"
      let pattern ← alternatives solve
      return fun extent => some (.fieldPat extent m.extent pattern)
    else
      let ((isBoxed, byReference, isMutable, name), own) ← withExtent <| rawIf (·.1) do
        let isBoxed ← word? "box"
        let byReference ← word? "ref"
        let isMutable ← word? "mut"
        let name ← ident
        return (isBoxed, byReference, isMutable, name)
      let pattern :=
        if isBoxed then .patVerbatim true own else .patName own byReference isMutable name .absent
      return fun extent => some (.fieldPat extent [.token name.text false name.span] pattern)

/-- At most `bound` fields of a struct pattern; tells whether dots stand for all others. -/
def fieldPatterns (solve : Solve src) :
    (bound : Nat) → Parser src (List (Ast src .fieldPat .one) × Bool)
  | 0 => return ([], false)
  | bound + 1 => do
      if ← peek Ahead.atEnd then return ([], false)
      else
        match ← fieldPattern solve with
        | none => return ([], true)
        | some field =>
            if ← peek Ahead.atEnd then return ([field], false)
            else
              let _ ← op ","
              let (others, hasRest) ← fieldPatterns solve bound
              return (field :: others, hasRest)

/-- Reads a pattern that starts with a path. -/
def pathPattern (solve : Solve src) : Parser src (Extent → Pat src) := do
  let p ← qualifiedPath solve true
  if ← peek fun t => bangAhead t && p.isPlain then
    let _ ← macroBody
    return fun extent => .patVerbatim false extent
  else if ← peek (Ahead.group .brace) then
    let (fields, hasRest) ← delimited .brace do
      fieldPatterns solve ((← get).rest.length + 1)
    return fun extent => .patStruct extent p.extent hasRest (.ofList fields)
  else if ← peek (Ahead.group .parenthesis) then
    let elements ← delimited .parenthesis (terminated (alternatives solve))
    return fun extent => .patTupleStruct extent p.extent (.ofList elements)
  else if ← peek (Ahead.op "..") then rangeBehind solve
  else return fun extent => .patPath extent p.extent

/-- Reads a pattern that binds a name. -/
def namePattern (solve : Solve src) : Parser src (Extent → Pat src) := do
  let byReference ← word? "ref"
  let isMutable ← word? "mut"
  let name ← if ← peek (Ahead.word "self") then anyWord else ident
  let sub ← do
    if ← op? "@" then pure (some (← solve .pattern)) else pure none
  return fun extent => .patName extent byReference isMutable name (.ofOption sub)

/-- The pattern stands for the rest of a sequence. -/
def isRest : Pat src → Bool
  | .patRest _ => true
  | _ => false

/-- Reads the inside of a pattern in parentheses: one pattern without a comma is only grouped. -/
def groupedPatterns (solve : Solve src) : Parser src (Extent → Pat src) := do
  if ← peek Ahead.atEnd then return fun extent => .patTuple extent .nil
  else
    let first ← alternatives solve
    if ← peek Ahead.atEnd then
      if isRest first then return fun extent => .patTuple extent (.ofList [first])
      else return fun extent => .patVerbatim false extent
    else
      let _ ← op ","
      let others ← terminated (alternatives solve)
      return fun extent => .patTuple extent (.ofList (first :: others))

/-- Reads an element of a slice pattern, where a range needs both ends. -/
def sliceElement (solve : Solve src) : Parser src (Pat src) := do
  match ← alternatives solve with
  | .patRange _ dots false => failAt dots
  | p => return p

/-- A pattern that starts with a path comes next. -/
def pathPatternAhead : Ahead src := fun t =>
  Ahead.ident t &&
      (Ahead.second (Ahead.op "::") t || Ahead.second (Ahead.op "!") t ||
        Ahead.second (Ahead.group .brace) t || Ahead.second (Ahead.group .parenthesis) t ||
        Ahead.second (Ahead.op "..") t) ||
    Ahead.word "self" t && Ahead.second (Ahead.op "::") t || Ahead.op "::" t || Ahead.op "<" t ||
    Ahead.word "Self" t || Ahead.word "super" t || Ahead.word "crate" t

/-- Reads a pattern without alternatives. -/
def pattern (solve : Solve src) : Parser src (Pat src) :=
  node do
    if ← peek pathPatternAhead then pathPattern solve
    else if ← word? "_" then return fun extent => .patWild extent
    else if ← peek (Ahead.word "box") then
      raw do
        let _ ← word "box"
        let _ ← solve .pattern
      return fun extent => .patVerbatim true extent
    else if ← peek fun t => Ahead.op "-" t || Ahead.literal t || Ahead.word "const" t then
      let start ← rangeBound solve
      if ← peek (Ahead.op "..") then rangeBehind solve else return fun _ => start
    else if ← peek fun t =>
        Ahead.word "ref" t || Ahead.word "mut" t || Ahead.word "self" t || Ahead.ident t then
      namePattern solve
    else if ← op? "&" then
      let isMutable ← word? "mut"
      let inner ← solve .pattern
      return fun extent => .patReference extent isMutable inner
    else if ← peek (Ahead.group .parenthesis) then delimited .parenthesis (groupedPatterns solve)
    else if ← peek (Ahead.group .bracket) then
      let elements ← delimited .bracket (terminated (sliceElement solve))
      return fun extent => .patSlice extent (.ofList elements)
    else if ← peek fun t => Ahead.op ".." t && !Ahead.op "..." t then rangeOrRest solve
    else unexpected

end SyntaxExport.Grammar
