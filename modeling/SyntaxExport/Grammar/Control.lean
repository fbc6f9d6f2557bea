import SyntaxExport.Grammar.Trailer

/-!
# Blocks, branches and loops
-/

namespace SyntaxExport.Grammar

variable {src : List Char}

/-- Reads a block without attributes of its own. -/
def plainBlock (solve : Solve src) : Parser src (Block src) :=
  node do
    let statements ← delimited .brace (solve .statements)
    return fun extent => .block extent (.ofList statements)

/-- Reads a block without attributes of its own as an expression. -/
def plainBlockExpr (solve : Solve src) : Parser src (Expr src) :=
  node do
    let block ← plainBlock solve
    return fun extent => .exprBlock extent none block

/-- Reads an `if` with its branches. -/
def conditional (solve : Solve src) : Parser src (Expr src) :=
  node do
    let _ ← word "if"
    let condition ← solve (.expr false)
    let thenBranch ← plainBlock solve
    let elseBranch ← do
      if ← word? "else" then
        if ← peek (Ahead.word "if") then pure (some (← solve .conditional))
        else if ← peek (Ahead.group .brace) then pure (some (← plainBlockExpr solve))
        else unexpected
      else pure none
    return fun extent => .exprIf extent condition thenBranch (.ofOption elseBranch)

/-- Reads a `while` behind its label. -/
def whileLoop (solve : Solve src) (label : Option Extent) : Parser src (Extent → Expr src) := do
  let _ ← word "while"
  let condition ← solve (.expr false)
  let (_, body) ← innerBlock solve
  return fun extent => .exprWhile extent label condition body

/-- Reads a `for` behind its label. -/
def forLoop (solve : Solve src) (label : Option Extent) : Parser src (Extent → Expr src) := do
  let _ ← word "for"
  let pattern ← alternatives solve
  let _ ← word "in"
  let iterated ← solve (.expr false)
  let (_, body) ← innerBlock solve
  return fun extent => .exprFor extent label pattern iterated body

/-- Reads a `loop` behind its label. -/
def endlessLoop (solve : Solve src) (label : Option Extent) : Parser src (Extent → Expr src) := do
  let _ ← word "loop"
  let (_, body) ← innerBlock solve
  return fun extent => .exprLoop extent label body

/-- Reads a block as an expression, behind its label. -/
def blockExpr (solve : Solve src) (label : Option Extent) : Parser src (Extent → Expr src) := do
  let (_, block) ← innerBlock solve
  return fun extent => .exprBlock extent label block

/-- Reads a loop or block with a label. -/
def labelled (solve : Solve src) : Parser src (Extent → Expr src) := do
  let label ← lifetime
  let _ ← op ":"
  if ← peek (Ahead.word "while") then whileLoop solve label
  else if ← peek (Ahead.word "for") then forLoop solve label
  else if ← peek (Ahead.word "loop") then endlessLoop solve label
  else if ← peek (Ahead.group .brace) then blockExpr solve label
  else unexpected

/-- Reads an unsafe block. -/
def unsafeBlock (solve : Solve src) : Parser src (Extent → Expr src) := do
  let _ ← word "unsafe"
  let (_, block) ← innerBlock solve
  return fun extent => .exprUnsafe extent block

/-- Reads an arm of a `match`, with its comma. An arm needs one unless it is the last or ends like a
block. -/
def arm (solve : Solve src) : Parser src (Ast src .arm .one) :=
  node do
    let attributes ← outerAttributes solve
    let pattern ← alternatives solve
    let condition ← do
      if ← word? "if" then pure (some (← solve (.expr true))) else pure none
    let _ ← op "=>"
    let body ← solve .boundary
    if ← peek fun t => !Expr.isBlockLike body && !Ahead.atEnd t then
      let _ ← op ","
    else
      let _ ← op? ","
    return fun extent => .arm extent attributes pattern (.ofOption condition) body

/-- Reads a `match`. -/
def matchExpr (solve : Solve src) : Parser src (Extent → Expr src) := do
  let _ ← word "match"
  let subject ← solve (.expr false)
  let arms ← delimited .brace do
    let _ ← innerAttributes solve
    repeatWhile (fun t => !Ahead.atEnd t) (arm solve)
  return fun extent => .exprMatch extent subject (.ofList arms)

/-- Reads a block for a computation that may fail. -/
def tryBlock (solve : Solve src) : Parser src (Extent → Expr src) := do
  let _ ← word "try"
  let _ ← plainBlock solve
  return fun extent => .exprVerbatim .blockLike extent

/-- A function value that binds lifetimes comes next. -/
def bindingClosureAhead : Ahead src := fun t =>
  Ahead.word "for" t && Ahead.second (Ahead.op "<") t &&
    (Ahead.third Ahead.lifetime t || Ahead.third (Ahead.op ">") t)

end SyntaxExport.Grammar
