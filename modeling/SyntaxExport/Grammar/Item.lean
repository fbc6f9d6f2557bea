import SyntaxExport.Grammar.Member

/-!
# Items
-/

namespace SyntaxExport.Grammar

variable {src : List Char}

/-- The condition holds for the trees that are left. -/
def untilEnd {α : Type} (p : Parser src α) : Parser src (List α) :=
  repeatWhile (fun t => !Ahead.atEnd t) p

/-- Reads what stands between braces: attributes of what is around, then members. -/
def bracedMembers {α : Type} (solve : Solve src) (p : Parser src α) :
    Parser src (List Attribute × List α) :=
  delimited .brace do
    let inner ← innerAttributes solve
    let members ← untilEnd p
    return (inner, members)

/-- Reads a function with its visibility. -/
def functionItem (solve : Solve src) : Parser src (Made src .item) := do
  let visible ← visibility
  let head ← signature solve false
  if ← op? ";" then return none
  else
    let (inner, body) ← innerBlock solve
    return some fun extent attributes =>
      .itemFunction (head.toAst .item extent (attributes ++ inner) visible body)

/-- Reads a foreign crate with its visibility. -/
def externCrate : Parser src (Made src .item) := do
  let _ ← visibility
  let _ ← word "extern"
  let _ ← word "crate"
  let _ ← if ← peek (Ahead.word "self") then anyWord else ident
  if ← word? "as" then
    let _ ← if ← peek (Ahead.word "_") then anyWord else ident
  let _ ← op ";"
  return some fun extent _ => .itemVerbatim extent

/-- Reads a foreign block. It has no visibility. -/
def foreignBlock (solve : Solve src) : Parser src (Made src .item) := do
  let _ ← word? "unsafe"
  if !(← peek (Ahead.word "extern")) then unexpected
  let _ ← callingConvention
  let _ ← bracedMembers solve (foreignMember solve)
  return some fun extent _ => .itemVerbatim extent

/-- Reads what starts with `extern`; `behind` are the trees behind that word. -/
def externItem (solve : Solve src) (behind : List (Tree src)) : Parser src (Made src .item) := do
  if Ahead.word "crate" behind then externCrate
  else if Ahead.group .brace behind then foreignBlock solve
  else if Ahead.textLiteral behind then
    if Ahead.second (Ahead.group .brace) behind then foreignBlock solve
    else failAt (← positionOf (behind.drop 1))
  else failAt (← positionOf behind)

/-! ## Imports -/

/-- Reads the paths of an import; tells whether they are plain. A separator at the root of a path in
braces is allowed only where there is none before them, and is not plain. -/
def useTree (solve : Solve src) (allowRoot : Bool) : Parser src Bool := do
  if ← peek fun t => Ahead.ident t || Ahead.word "self" t || Ahead.word "super" t ||
      Ahead.word "crate" t || Ahead.word "try" t then
    let _ ← anyWord
    if ← op? "::" then solve (.useTree false)
    else if ← word? "as" then
      let _ ← if ← peek (Ahead.word "_") then anyWord else ident
      return true
    else return true
  else if ← op? "*" then return true
  else if ← peek (Ahead.group .brace) then
    let trees ← delimited .brace <| terminated do
      let isRooted ← if allowRoot then op? "::" else pure false
      let isPlain ← solve (.useTree (allowRoot && !isRooted))
      return isPlain && !isRooted
    return trees.all id
  else unexpected

/-- Reads an import with its visibility. -/
def useItem (solve : Solve src) : Parser src (Made src .item) := do
  let visible ← visibility
  let _ ← word "use"
  let isRooted ← op? "::"
  let (isPlain, tree) ← withExtent (solve (.useTree !isRooted))
  let _ ← op ";"
  return if isPlain then some fun extent attributes => .itemUse extent attributes visible tree
    else none

/-! ## Values and types -/

/-- Reads a static variable with its visibility. -/
def staticItem (solve : Solve src) : Parser src (Made src .item) := do
  let visible ← visibility
  let _ ← word "static"
  let isMutable ← word? "mut"
  let name ← ident
  if ← op? "=" then
    let _ ← solve (.expr true)
    let _ ← op ";"
    return none
  else
    let _ ← op ":"
    let type ← solve (.type true)
    if ← op? ";" then return none
    else
      let _ ← op "="
      let value ← solve (.expr true)
      let _ ← op ";"
      return some fun extent attributes =>
        .itemStatic extent attributes visible isMutable name type value

/-- Reads a constant with its visibility. -/
def constItem (solve : Solve src) : Parser src (Made src .item) := do
  let visible ← visibility
  let c ← constant solve
  return match c.value, c.isPlain with
    | some value, true => some fun extent attributes =>
        .itemConst extent attributes visible c.name c.type value
    | _, _ => none

/-- Reads a type with another name, with its visibility. -/
def typeItem (solve : Solve src) : Parser src (Made src .item) := do
  let visible ← visibility
  let t ← declaredType solve true false
  return match t.type, t.hasColon with
    | some type, false => some fun extent attributes =>
        .itemType extent attributes visible t.name type (.ofList t.generics)
    | _, _ => none

/-- Reads the fields of a struct and its conditions, which stand behind fields in parentheses and
before all others. -/
def structFields (solve : Solve src) : Parser src (FieldStyle × List (Ast src .field .one)) := do
  let hasWhere ← whereClause solve
  if ← peek fun t => !hasWhere && Ahead.group .parenthesis t then
    let fields ← tupleFields solve
    let _ ← whereClause solve
    let _ ← op ";"
    return (.tuple, fields)
  else if ← peek (Ahead.group .brace) then return (.named, ← namedFields solve)
  else
    let _ ← op ";"
    return (.unit, [])

/-- Reads a struct with its visibility. -/
def structItem (solve : Solve src) : Parser src (Made src .item) := do
  let visible ← visibility
  let _ ← word "struct"
  let name ← ident
  let params ← generics solve
  let (style, fields) ← structFields solve
  return some fun extent attributes =>
    .itemStruct extent attributes visible style name (.ofList params) (.ofList fields)

/-- Reads an enumeration with its visibility. -/
def enumItem (solve : Solve src) : Parser src (Made src .item) := do
  let visible ← visibility
  let _ ← word "enum"
  let name ← ident
  let params ← generics solve
  let _ ← whereClause solve
  let variants ← delimited .brace (terminated (variant solve))
  return some fun extent attributes =>
    .itemEnum extent attributes visible name (.ofList params) (.ofList variants)

/-- Reads a union with its visibility. -/
def unionItem (solve : Solve src) : Parser src (Made src .item) := do
  let _ ← visibility
  let _ ← word "union"
  let _ ← ident
  let _ ← generics solve
  let _ ← whereClause solve
  let _ ← namedFields solve
  return some fun extent _ => .itemVerbatim extent

/-! ## Modules, traits and implementations -/

/-- Reads a module with its visibility. -/
def moduleItem (solve : Solve src) : Parser src (Made src .item) := do
  let visible ← visibility
  let _ ← word? "unsafe"
  let _ ← word "mod"
  let name ← if ← peek (Ahead.word "try") then anyWord else ident
  if ← op? ";" then
    return some fun extent attributes => .itemModule extent attributes visible false name .nil
  else
    let (inner, items) ← bracedMembers solve (solve .item)
    return some fun extent attributes =>
      .itemModule extent (attributes ++ inner) visible true name (.ofList items)

/-- Reads a trait behind its generic parameters. -/
def traitBody (solve : Solve src) (visible : Extent) (name : Word src)
    (params : List (Ast src .genericParam .one)) : Parser src (Made src .item) := do
  let stop : Ahead src := fun t => Ahead.word "where" t || Ahead.group .brace t
  let supertraits ← afterColon (boundsUntil stop (solve (.bound false true)))
  let _ ← whereClause solve
  let (inner, members) ← bracedMembers solve (traitMember solve)
  return some fun extent attributes =>
    .itemTrait extent (attributes ++ inner) visible supertraits name (.ofList params)
      (.ofList members)

/-- Reads a trait with its visibility, or another name for some bounds. -/
def traitItem (solve : Solve src) : Parser src (Made src .item) := do
  let visible ← visibility
  let isUnsafe ← word? "unsafe"
  let isAuto ← word? "auto"
  let _ ← word "trait"
  let name ← ident
  let params ← generics solve
  if ← peek fun t => !isUnsafe && !isAuto && Ahead.op "=" t then
    let _ ← op "="
    let stop : Ahead src := fun t => Ahead.word "where" t || Ahead.op ";" t
    boundsUntil stop (solve (.bound false true))
    let _ ← whereClause solve
    let _ ← op ";"
    return some fun extent _ => .itemVerbatim extent
  else traitBody solve visible name params

/-- The path of a type, if it is one without a qualification. -/
def pathOf? (type : Ty src) : Option Extent :=
  match type with
  | .typePath _ path _ => some path
  | _ => none

/-- Reads an implementation with its visibility. One that has a visibility, is for constants or is
of something else than a path is not described. Only an implementation for a type is negative. -/
def implItem (solve : Solve src) : Parser src (Made src .item) := do
  let visible ← visibility
  let _ ← word? "default"
  let isUnsafe ← word? "unsafe"
  let _ ← word "impl"
  let params ← if ← peek parametersAhead then generics solve else pure []
  let isConst ← peek fun t =>
    Ahead.word "const" t || Ahead.op "?" t && Ahead.second (Ahead.word "const") t
  if isConst then
    let _ ← op? "?"
    let _ ← word "const"
  let mark ← here
  let isNegative ← peek fun t => Ahead.op "!" t && !Ahead.second (Ahead.group .brace) t
  if isNegative then
    let _ ← op "!"
  let first ← solve (.type true)
  if ← word? "for" then
    let selfType ← solve (.type true)
    let _ ← whereClause solve
    let (inner, members) ← bracedMembers solve (implMember solve)
    return match pathOf? first with
      | some path =>
          if !visible.isEmpty || isConst then none
          else
            some fun extent attributes =>
              .itemImpl extent (attributes ++ inner) isNegative (some path) isUnsafe selfType
                (.ofList params) (.ofList members)
      | none => none
  else if isNegative then failAt mark
  else
    let _ ← whereClause solve
    let (inner, members) ← bracedMembers solve (implMember solve)
    return if !visible.isEmpty || isConst then none
      else
        some fun extent attributes =>
          .itemImpl extent (attributes ++ inner) false none isUnsafe first (.ofList params)
            (.ofList members)

/-! ## Macros -/

/-- Reads the declaration of a macro, which is not described. -/
def macroDeclaration : Parser src (Made src .item) := do
  let _ ← visibility
  let _ ← word "macro"
  let _ ← ident
  if ← peek (Ahead.group .parenthesis) then
    let _ ← rawGroup
  delimited .brace everything
  return none

/-- Reads a macro call as an item. -/
def macroItem : Parser src (Made src .item) := do
  let path ← extentOf plainPath
  let _ ← op "!"
  let name ← do
    if ← peek fun t => Ahead.ident t || Ahead.word "try" t then pure (some (← anyWord))
    else pure none
  let (delimiter, tokens) ← rawGroup
  if delimiter ≠ .brace then
    let _ ← op ";"
  return some fun extent attributes => .itemMacro extent attributes path tokens name

/-! ## All items -/

/-- Reads what starts with `unsafe`; `behind` are the trees behind that word. -/
def unsafeItem (solve : Solve src) (behind : List (Tree src)) : Parser src (Made src .item) := do
  if Ahead.word "trait" behind ||
      Ahead.word "auto" behind && Ahead.second (Ahead.word "trait") behind
  then traitItem solve
  else if Ahead.word "impl" behind then implItem solve
  else if Ahead.word "extern" behind then foreignBlock solve
  else if Ahead.word "mod" behind then moduleItem solve
  else failAt (← positionOf behind)

/-- Reads an item behind its attributes; the trees behind its visibility tell what it is. -/
def itemRule (solve : Solve src) : Parser src (Made src .item) := do
  let (trees, isInherited) ← behindVisibility
  let first := fun s => Ahead.word s trees
  if signatureAhead false trees then functionItem solve
  else if first "extern" then externItem solve (trees.drop 1)
  else if first "use" then useItem solve
  else if first "static" then staticItem solve
  else if first "const" then constItem solve
  else if first "unsafe" then unsafeItem solve (trees.drop 1)
  else if first "mod" then moduleItem solve
  else if first "type" then typeItem solve
  else if first "struct" then structItem solve
  else if first "enum" then enumItem solve
  else if first "union" && Ahead.second Ahead.ident trees then unionItem solve
  else if first "trait" then traitItem solve
  else if first "auto" && Ahead.second (Ahead.word "trait") trees then traitItem solve
  else if first "impl" || first "default" && !Ahead.second (Ahead.op "!") trees then implItem solve
  else if first "macro" then macroDeclaration
  else if isInherited && callStartAhead trees then macroItem
  else failAt (← positionOf trees)

/-- Reads an item with its attributes. -/
def item (solve : Solve src) : Parser src (Item src) :=
  attributed solve .itemVerbatim (itemRule solve)

end SyntaxExport.Grammar
