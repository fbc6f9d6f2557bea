import SyntaxExport.Grammar.Goal

/-!
# Attributes and simple paths
-/

namespace SyntaxExport.Grammar

variable {src : List Char}

/-- Reads a path of plain words; tells whether it starts with a separator and gives its words. -/
def plainPath : Parser src (Bool × List (Word src)) := do
  let pathWord := do if ← peek Ahead.pathWord then anyWord else unexpected
  let leading ← op? "::"
  let first ← pathWord
  let others ← repeatWhile (Ahead.op "::") do
    let _ ← op "::"
    pathWord
  return (leading, first :: others)

/-- What is known of an attribute's inside: its path and what it documents. -/
structure Meta where
  path : Extent
  documentation : Documentation

/-- Reads the path of an attribute; tells whether it is the word for documentation. -/
def attributePath : Parser src Bool := do
  if ← word? "unsafe" then return false
  else
    let (leading, words) ← plainPath
    return !leading && words.map (·.text) == ["doc"]

/-- Reads the value of an attribute; gives the text if it is a text literal. A literal that stands
alone may be a number behind a minus sign. -/
def attributeValue (solve : Solve src) : Parser src (Option String) := do
  let alone ← wouldSucceed do
    let _ ← literal
    if ← peek Ahead.atEnd then return () else unexpected
  if alone then
    let (kind, value) ← literal
    return if kind == .str then some value else none
  else if ← peek Ahead.pound then unexpected
  else
    match ← solve (.expr true) with
    | .exprLiteral _ .str value => return some value
    | _ => return none

/-- Reads the inside of an attribute: a path, perhaps with a group or a value. -/
def attributeMeta (solve : Solve src) : Parser src Meta := do
  let (isDoc, path) ← withExtent attributePath
  if ← peek Ahead.anyGroup then
    let _ ← rawGroup
    return ⟨path, if isDoc then .other else .no⟩
  else if ← peek fun t => Ahead.op "=" t && !Ahead.op "==" t && !Ahead.op "=>" t then
    let _ ← op "="
    let value ← attributeValue solve
    return ⟨path, if isDoc then (value.map Documentation.text).getD .other else .no⟩
  else return ⟨path, if isDoc then .other else .no⟩

/-- The attribute that a documentation comment stands for. -/
def docAttribute (isInner : Bool) (text : String) (span : Span) : Attribute :=
  let name : Piece := .token "doc" false span
  { extent := Tree.docPieces isInner text span
    isInner
    path := [name]
    tokens := [name, .token "=" false span, .token (Text.quoteSource text) false span]
    documentation := .text text }

/-- Reads an attribute or documentation comment, of what follows it or of what stands around it. -/
def anyAttribute (solve : Solve src) (isInner : Bool) : Parser src Attribute := do
  match (← get).rest with
  | .doc inner text span :: _ =>
      if inner == isInner then
        let a := docAttribute inner text span
        take 1 a.extent
        return a
      else unexpected
  | _ =>
      node do
        let _ ← op "#"
        if isInner then
          let _ ← op "!"
        let (about, tokens) ← delimited .bracket (withExtent (attributeMeta solve))
        return fun extent =>
          { extent, isInner, path := about.path, tokens, documentation := about.documentation }

/-- Reads the attributes of what follows. -/
def outerAttributes (solve : Solve src) : Parser src (List Attribute) :=
  repeatWhile Ahead.pound (anyAttribute solve false)

/-- Reads the attributes of what stands around. -/
def innerAttributes (solve : Solve src) : Parser src (List Attribute) :=
  repeatWhile Ahead.innerPound (anyAttribute solve true)

end SyntaxExport.Grammar
