import SyntaxExport.Grammar.Field

/-!
# Functions
-/

namespace SyntaxExport.Grammar

variable {src : List Char}

/-- A receiver, as it was read. -/
structure ReceiverRead (src : List Char) where
  isReference : Bool
  isMutable : Bool
  self : Word src

/-- Reads a receiver. -/
def receiver (solve : Solve src) : Parser src (ReceiverRead src) := do
  let isReference ← op? "&"
  if isReference then
    let _ ← lifetime?
  let isMutable ← word? "mut"
  let self ← word "self"
  if !isReference && (← peek (Ahead.op ":")) then
    let _ ← op ":"
    let _ ← solve (.type true)
  return ⟨isReference, isMutable, self⟩

/-- The pieces of a blank pattern and a colon at a place. -/
def blankLabel (span : Span) : Extent :=
  [.token "_" false span, .token ":" false span]

/-- Reads a parameter, or the dots that stand for any number of them. Only the first parameter can
be the receiver. A type with generic arguments may stand alone, and then gets a blank pattern. -/
def functionParam (solve : Solve src) (isFirst : Bool) :
    Parser src (Option (Ast src .param .one)) :=
  node do
    let _ ← outerAttributes solve
    if ← op? "..." then return fun _ => none
    else
      match ← attempt (receiver solve), (← get).rest with
      | some r, _ =>
          if isFirst then
            return fun extent => some (.paramReceiver extent r.isReference r.isMutable)
          else failAt r.self.span.start
      | none, trees =>
          match trees.head? with
          | some (.word w) =>
              if Ahead.ident trees && Ahead.second (Ahead.op "<") trees then
                printPieces (blankLabel w.span)
                let type ← solve (.type true)
                return fun extent =>
                  some (.paramTyped extent (.patWild ((blankLabel w.span).take 1)) type)
              else typed
          | _ => typed
where
  /-- Reads a pattern with its type, or with dots for one. -/
  typed : Parser src (Extent → Option (Ast src .param .one)) := do
    let pattern ← solve .pattern
    let _ ← op ":"
    if ← op? "..." then return fun _ => none
    else
      let type ← solve (.type true)
      return fun extent => some (.paramTyped extent pattern type)

/-- At most `bound` parameters. -/
def functionParams (solve : Solve src) :
    (bound : Nat) → (isFirst : Bool) → Parser src (List (Ast src .param .one))
  | 0, _ => return []
  | bound + 1, isFirst => do
      if ← peek Ahead.atEnd then return []
      else
        match ← functionParam solve isFirst with
        | none =>
            if !(← peek Ahead.atEnd) then
              let _ ← op ","
            return []
        | some param =>
            if ← peek Ahead.atEnd then return [param]
            else
              let _ ← op ","
              let others ← functionParams solve bound false
              return param :: others

/-- The head of a function, as it was read; `isSafe` if it is said to be safe. -/
structure SignatureRead (src : List Char) where
  modifiers : Modifiers
  isSafe : Bool
  name : Word src
  generics : List (Ast src .genericParam .one)
  params : List (Ast src .param .one)
  output : Option (Ty src)

/-- The trees behind a word, if it is the next one. -/
def skipWord (s : String) (trees : List (Tree src)) : List (Tree src) :=
  if Ahead.word s trees then trees.drop 1 else trees

/-- A function comes next. -/
def signatureAhead (allowSafe : Bool) : Ahead src := fun t =>
  let t := skipWord "async" (skipWord "const" t)
  let t := if allowSafe && Ahead.word "safe" t then t.drop 1 else skipWord "unsafe" t
  let t :=
    if Ahead.word "extern" t then
      if Ahead.second Ahead.textLiteral t then t.drop 2 else t.drop 1
    else t
  Ahead.word "fn" t

/-- Reads the head of a function. -/
def signature (solve : Solve src) (allowSafe : Bool) : Parser src (SignatureRead src) := do
  let isConst ← word? "const"
  let isAsync ← word? "async"
  let isUnsafe ← word? "unsafe"
  let isSafe ← if allowSafe && !isUnsafe then word? "safe" else pure false
  let abi ← callingConvention
  let _ ← word "fn"
  let name ← ident
  let params ← generics solve
  let inputs ← delimited .parenthesis do
    functionParams solve ((← get).rest.length + 1) true
  let output ← returnType solve true
  let _ ← whereClause solve
  return ⟨⟨isConst, isAsync, isUnsafe, abi⟩, isSafe, name, params, inputs, output⟩

/-- The function with the given head and body. -/
def SignatureRead.toAst (s : SignatureRead src) (role : FunctionRole) (extent : Extent)
    (attributes : List Attribute) (visible : Extent) (body : Option (Block src)) :
    Ast src .function .one :=
  .function role extent attributes visible s.modifiers s.name (.ofList s.generics)
    (.ofList s.params) (.ofOption s.output) (.ofOption body)

end SyntaxExport.Grammar
