import SyntaxExport.Grammar.Bound

/-!
# Types
-/

namespace SyntaxExport.Grammar

variable {src : List Char}

/-- Reads a calling convention, if there is one. -/
def callingConvention : Parser src Extent := do
  if ← peek (Ahead.word "extern") then
    extentOf do
      let _ ← word "extern"
      if ← peek Ahead.textLiteral then
        let _ ← literal
  else return []

/-- Reads the tokens behind the exclamation mark of a macro call. -/
def macroBody : Parser src (Delimiter × Extent) := do
  let _ ← op "!"
  rawGroup

/-- A macro call's exclamation mark comes next. -/
def bangAhead : Ahead src := fun t =>
  Ahead.op "!" t && !Ahead.op "!=" t

/-- A name, or a blank for one, and a colon come next. -/
def labelAhead (allowSelf : Bool) : Ahead src := fun t =>
  (Ahead.ident t || Ahead.word "_" t || allowSelf && Ahead.word "self" t) &&
    Ahead.second (Ahead.op ":") t && !Ahead.second (Ahead.op "::") t

/-- Reads a parameter of a function type. Only the first may be the receiver, and one that is
mutable or typed is taken over as it is. -/
def functionTypeParam (solve : Solve src) (isFirst : Bool) : Parser src Unit := do
  let _ ← outerAttributes solve
  let _ ← rawIf id do
    let isMutable ← peek fun t =>
      isFirst && Ahead.word "mut" t && Ahead.second (Ahead.word "self") t
    if isMutable then
      let _ ← anyWord
    let isReceiver ← peek fun t => isFirst && Ahead.word "self" t
    let isLabelled ← peek (labelAhead isFirst)
    if isLabelled then
      let _ ← anyWord
      let _ ← op ":"
    let _ ← solve (.type true)
    return isMutable || isReceiver && isLabelled

/-- Further parameters of any number come next. -/
def variadicAhead : Ahead src := fun t =>
  Ahead.op "..." t ||
    (Ahead.ident t || Ahead.word "_" t) && Ahead.second (Ahead.op ":") t &&
      Ahead.third (Ahead.op "...") t

/-- At most `bound` parameters of a function type. -/
def functionTypeParams (solve : Solve src) : (bound : Nat) → (isFirst : Bool) → Parser src Unit
  | 0, _ => return ()
  | bound + 1, isFirst => do
      if ← peek Ahead.atEnd then return ()
      else if ← wouldSucceed do
          let _ ← outerAttributes solve
          if ← peek variadicAhead then return () else unexpected
      then
        let _ ← outerAttributes solve
        if !(← peek (Ahead.op "...")) then
          let _ ← anyWord
          let _ ← op ":"
        let _ ← op "..."
        let _ ← op? ","
      else
        functionTypeParam solve isFirst
        if ← peek Ahead.atEnd then return ()
        else
          let _ ← op ","
          functionTypeParams solve bound false

/-- Reads the type of a function behind the lifetimes it binds. -/
def functionType (solve : Solve src) : Parser src TyKind := do
  let _ ← boundLifetimes solve
  let _ ← word? "unsafe"
  let _ ← callingConvention
  let _ ← word "fn"
  delimited .parenthesis do functionTypeParams solve ((← get).rest.length + 1) true
  let _ ← returnType solve false
  return .function

/-- Reads bounds, each behind a plus sign. -/
def addedBounds (solve : Solve src) : Parser src Unit := do
  let _ ← repeatWhile (Ahead.op "+") do
    let _ ← op "+"
    solve (.bound false false)

/-- What the inside of parentheses in a type turns out to be. -/
inductive Parenthesized (src : List Char) where
  | tuple (elements : List (Ty src))
  | bound
  | type (inner : Ty src)

/-- Reads the inside of parentheses in a type. -/
def parenthesizedInside (solve : Solve src) : Parser src (Parenthesized src) := do
  if ← peek Ahead.atEnd then return .tuple []
  else if ← peek Ahead.lifetime then
    .type <$> node do
      boundSum solve (← here) true false false
      return fun extent => .typeVerbatim .traitObject extent
  else if ← peek (Ahead.op "?") then
    let _ ← traitBound solve false
    return .bound
  else
    let first ← solve (.type true)
    if ← op? "," then
      let others ← terminated (solve (.type true))
      return .tuple (first :: others)
    else return .type first

/-- A type in parentheses that may be the first of some bounds. -/
def mayBeBound (type : Ty src) : Bool :=
  match type with
  | .typePath .. | .typeVerbatim .bound _ => true
  | _ => false

/-- Reads a type in parentheses: a tuple, a bound or any other. -/
def parenthesizedType (solve : Solve src) (allowPlus : Bool) : Parser src (Extent → Ty src) := do
  match ← delimited .parenthesis (parenthesizedInside solve) with
  | .tuple elements => return fun extent => .typeTuple extent (.ofList elements)
  | .bound =>
      let isAlone ← peek fun t => !Ahead.op "+" t
      addedBounds solve
      return fun extent => .typeVerbatim (if isAlone then .bound else .traitObject) extent
  | .type inner =>
      if ← peek fun t => allowPlus && Ahead.op "+" t && mayBeBound inner then
        addedBounds solve
        return fun extent => .typeVerbatim .traitObject extent
      else return fun extent => .typeParen extent inner

/-- Reads a type that starts with a path: the path alone, a macro call, or a sum of bounds. -/
def pathType (solve : Solve src) (allowPlus binds : Bool) : Parser src (Extent → Ty src) := do
  let p ← qualifiedPath solve false
  if p.isQualified then return fun extent => .typeVerbatim .other extent
  else if ← peek fun t => bangAhead t && p.isPlain then
    let _ ← macroBody
    return fun extent => .typeVerbatim .macroCall extent
  else if ← peek fun t => binds || allowPlus && Ahead.op "+" t then
    let isAlone ← peek fun t => !(allowPlus && Ahead.op "+" t)
    if !isAlone then
      let _ ← furtherBounds solve false false
    return fun extent => .typeVerbatim (if isAlone then .bound else .traitObject) extent
  else return fun extent => .typePath extent p.extent p.toAst

/-- What may stand behind lifetimes that are bound in front of a type. -/
def bindableAhead : Ahead src := fun t =>
  Ahead.ident t || Ahead.word "fn" t || Ahead.word "unsafe" t || Ahead.word "extern" t ||
    Ahead.word "super" t || Ahead.word "self" t || Ahead.word "Self" t || Ahead.word "crate" t

/-- Reads a type behind the lifetimes that are bound in front of it, if any. -/
def typeBehind (solve : Solve src) (allowPlus binds : Bool) : Parser src (Extent → Ty src) := do
  let start ← here
  if ← peek (Ahead.group .parenthesis) then parenthesizedType solve allowPlus
  else if ← peek fun t => Ahead.word "fn" t || Ahead.word "unsafe" t || Ahead.word "extern" t then
    let kind ← functionType solve
    return fun extent => .typeVerbatim kind extent
  else if ← peek fun t => Ahead.pathWord t || Ahead.op "::" t || Ahead.op "<" t then
    pathType solve allowPlus binds
  else if ← peek (Ahead.word "dyn") then
    let isRaw ← rawIf id do
      let _ ← word "dyn"
      let isRaw ← op? "*"
      boundSum solve start allowPlus false false
      return isRaw
    return fun extent => .typeVerbatim (if isRaw then .other else .traitObject) extent
  else if ← peek (Ahead.group .bracket) then
    delimited .bracket do
      let element ← solve (.type true)
      if ← op? ";" then
        let length ← solve (.expr true)
        return fun extent => .typeArray extent element length
      else return fun extent => .typeSlice extent element
  else if ← op? "*" then
    let isMutable ← do
      if ← word? "const" then pure false
      else
        let _ ← word "mut"
        pure true
    let element ← solve (.type false)
    return fun extent => .typePointer extent isMutable element
  else if ← op? "&" then
    let name ← lifetime?
    let isMutable ← word? "mut"
    let element ← solve (.type false)
    return fun extent => .typeReference extent name isMutable element
  else if ← op? "!" then
    return fun extent => .typeVerbatim .never extent
  else if ← word? "impl" then
    boundSum solve start allowPlus true true
    return fun extent => .typeVerbatim .implTrait extent
  else if ← word? "_" then
    return fun extent => .typeVerbatim .inferred extent
  else if ← peek Ahead.lifetime then
    boundSum solve start allowPlus false false
    return fun extent => .typeVerbatim .traitObject extent
  else unexpected

/-- Reads a type. -/
def type (solve : Solve src) (allowPlus : Bool) : Parser src (Ty src) :=
  node do
    let binds ← boundLifetimes solve
    if binds && !(← peek bindableAhead) then unexpected
    else typeBehind solve allowPlus binds

end SyntaxExport.Grammar
