import SyntaxExport.Grammar.Control

/-!
# Expressions
-/

namespace SyntaxExport.Grammar

variable {src : List Char}

/-! ## Values with braces -/

/-- Reads a field of a struct literal. A field without a value holds the variable of its name. -/
def fieldValue (solve : Solve src) : Parser src (Ast src .fieldValue .one) :=
  node do
    let _ ← outerAttributes solve
    let m ← member
    if ← peek fun t => Ahead.op ":" t || m.name.isNone then
      let _ ← op ":"
      let value ← solve (.expr true)
      return fun extent => .fieldValue extent m.extent value
    else return fun extent => .fieldValue extent m.extent (.exprPath m.extent m.extent)

/-- At most `bound` fields of a struct literal, and the value that gives the others. -/
def fieldValues (solve : Solve src) :
    (bound : Nat) → Parser src (List (Ast src .fieldValue .one) × Option (Expr src))
  | 0 => return ([], none)
  | bound + 1 => do
      if ← peek Ahead.atEnd then return ([], none)
      else if ← op? ".." then
        if ← peek Ahead.atEnd then return ([], none)
        else return ([], some (← solve (.expr true)))
      else
        let field ← fieldValue solve
        if ← peek Ahead.atEnd then return ([field], none)
        else
          let _ ← op ","
          let (others, rest) ← fieldValues solve bound
          return (field :: others, rest)

/-- Reads an expression that starts with a path: a macro call, a struct literal or the path alone.
-/
def pathExpr (solve : Solve src) (allowStruct : Bool) : Parser src (Extent → Expr src) := do
  let p ← qualifiedPath solve true
  if ← peek fun t => bangAhead t && p.isPlain then
    let (_, tokens) ← macroBody
    return fun extent => .exprMacro extent p.extent tokens
  else
    match allowStruct && (← peek (Ahead.group .brace)), p.segments.getLast? with
    | true, some last =>
        let (fields, rest) ← delimited .brace do
          fieldValues solve ((← get).rest.length + 1)
        return fun extent =>
          .exprStruct extent p.extent last.name (.ofOption rest) (.ofList fields)
    | _, _ => return fun extent => .exprPath extent p.extent

/-! ## Function values -/

/-- Reads a parameter of a function value. -/
def closureParam (solve : Solve src) : Parser src (Pat src) :=
  reprint (fun p _ => Ast.extent p) do
    let (_, front) ← withExtent (outerAttributes solve)
    let p ← node do
      let p ← solve .pattern
      if ← op? ":" then
        let type ← solve (.type true)
        return fun extent => .patTyped extent p type
      else return fun _ => p
    return Pat.attach front p

/-- A function value comes next. -/
def closureAhead : Ahead src := fun t =>
  Ahead.op "|" t || Ahead.word "move" t || bindingClosureAhead t ||
    Ahead.word "const" t && !Ahead.second (Ahead.group .brace) t || Ahead.word "static" t ||
    Ahead.word "async" t &&
      (Ahead.second (Ahead.op "|") t || Ahead.second (Ahead.word "move") t)

/-- Reads a function value. With a return type its body is a block. -/
def closure (solve : Solve src) (allowStruct : Bool) : Parser src (Extent → Expr src) := do
  let _ ← boundLifetimes solve
  let _ ← word? "const"
  let _ ← word? "static"
  let _ ← word? "async"
  let moves ← word? "move"
  let _ ← op "|"
  let inputs ← separatedUntil (Ahead.op "|") "," (closureParam solve)
  let _ ← op "|"
  let output ← returnType solve true
  let body ← if output.isSome then plainBlockExpr solve else solve (.expr allowStruct)
  return fun extent => .exprClosure extent moves (.ofOption output) body (.ofList inputs)

/-! ## Jumps -/

/-- The value of a jump comes next. -/
def valueAhead : Ahead src := fun t =>
  let alone (s : String) (longer : List String) : Bool :=
    Ahead.op s t && longer.all fun l => !Ahead.op l t
  Ahead.anyWord t && !Ahead.word "as" t || Ahead.anyGroup t || Ahead.literal t ||
    alone "!" ["!="] || alone "-" ["-=", "->"] || alone "*" ["*="] || alone "|" ["|="] ||
    alone "&" ["&="] || Ahead.op ".." t || alone "<" ["<=", "<<="] || Ahead.op "::" t ||
    Ahead.lifetime t || Ahead.pound t

/-- Reads the value of a jump, if there is one. -/
def jumpValue (solve : Solve src) : Parser src (Option (Expr src)) := do
  if ← peek valueAhead then return some (← solve (.expr true)) else return none

/-- Reads a `break`. A loop with a label is no value of it, unless it stands in parentheses. -/
def breakExpr (solve : Solve src) (allowStruct : Bool) : Parser src (Extent → Expr src) := do
  let _ ← word "break"
  if ← peek fun t => Ahead.lifetime t && Ahead.second (Ahead.op ":") t then
    let start ← here
    let _ ← solve (.expr true)
    failAt start
  else
    let label ← lifetime?
    let value ← do
      if ← peek fun t => !allowStruct && Ahead.group .brace t then pure none else jumpValue solve
    return fun extent => .exprBreak extent label (.ofOption value)

/-! ## Brackets -/

/-- Reads the inside of parentheses: one expression without a comma is only grouped. -/
def groupedExprs (solve : Solve src) : Parser src (Extent → Expr src) := do
  if ← peek Ahead.atEnd then return fun extent => .exprTuple extent .nil
  else
    let first ← solve (.expr true)
    if ← peek Ahead.atEnd then return fun extent => .exprParen extent first
    else
      let _ ← op ","
      let others ← terminated (solve (.expr true))
      return fun extent => .exprTuple extent (.ofList (first :: others))

/-- Reads the inside of brackets: elements, or one that is repeated. -/
def bracketedExprs (solve : Solve src) : Parser src (Extent → Expr src) := do
  if ← peek Ahead.atEnd then return fun extent => .exprArray extent .nil
  else
    let first ← solve (.expr true)
    if ← op? ";" then
      let length ← solve (.expr true)
      return fun extent => .exprRepeat extent first length
    else if ← peek Ahead.atEnd then return fun extent => .exprArray extent (.ofList [first])
    else
      let _ ← op ","
      let others ← terminated (solve (.expr true))
      return fun extent => .exprArray extent (.ofList (first :: others))

/-! ## Operands -/

/-- An expression that starts with a path comes next. -/
def pathExprAhead : Ahead src := fun t =>
  pathAhead t ||
    Ahead.word "try" t && (Ahead.second (Ahead.op "!") t || Ahead.second (Ahead.op "::") t)

/-- Reads an operand that starts with a keyword, a range, a blank or a label. -/
def keywordAtom (solve : Solve src) (allowStruct : Bool) : Parser src (Extent → Expr src) := do
  if ← peek (Ahead.word "break") then breakExpr solve allowStruct
  else if ← word? "continue" then
    let label ← lifetime?
    return fun extent => .exprContinue extent label
  else if ← word? "return" then
    let value ← jumpValue solve
    return fun extent => .exprReturn extent (.ofOption value)
  else if ← peek (Ahead.word "become") then
    raw do
      let _ ← word "become"
      let _ ← solve (.expr true)
    return fun extent => .exprVerbatim .raw extent
  else if ← word? "let" then
    let pattern ← alternatives solve
    let _ ← op "="
    let first ← solve (.unary allowStruct)
    let value ← solve (.operators first allowStruct .compare)
    return fun extent => .exprLet extent pattern value
  else if ← peek (Ahead.word "if") then
    let e ← solve .conditional
    return fun _ => e
  else if ← peek (Ahead.word "while") then whileLoop solve none
  else if ← peek (Ahead.word "for") then forLoop solve none
  else if ← peek (Ahead.word "loop") then endlessLoop solve none
  else if ← peek (Ahead.word "match") then matchExpr solve
  else if ← word? "yield" then
    let _ ← jumpValue solve
    return fun extent => .exprVerbatim .plain extent
  else if ← peek (Ahead.word "unsafe") then unsafeBlock solve
  else if ← peek (Ahead.word "const") then
    constBlock solve
    return fun extent => .exprVerbatim .blockLike extent
  else if ← peek (Ahead.group .brace) then blockExpr solve none
  else if ← peek (Ahead.op "..") then
    let (dots, stop) ← rangeFrom solve allowStruct
    return fun extent => .exprRange extent dots .absent (.ofOption stop)
  else if ← word? "_" then return fun extent => .exprVerbatim .plain extent
  else if ← peek Ahead.lifetime then labelled solve
  else unexpected

/-- Reads an operand without signs before and trailers behind it. -/
def atom (solve : Solve src) (allowStruct : Bool) : Parser src (Expr src) := do
  if ← peek Ahead.literal then literalExpr
  else
    node do
      if ← peek fun t => Ahead.word "async" t &&
          (Ahead.second (Ahead.group .brace) t ||
            Ahead.second (Ahead.word "move") t && Ahead.third (Ahead.group .brace) t) then
        let _ ← word "async"
        let moves ← word? "move"
        let block ← plainBlock solve
        return fun extent => .exprAsync extent moves block
      else if ← peek fun t => Ahead.word "try" t && Ahead.second (Ahead.group .brace) t then
        tryBlock solve
      else if ← peek closureAhead then closure solve allowStruct
      else if ← peek fun t => Ahead.word "builtin" t && Ahead.second Ahead.pound t then
        raw do
          let _ ← word "builtin"
          let _ ← op "#"
          let _ ← ident
          delimited .parenthesis everything
        return fun extent => .exprVerbatim .raw extent
      else if ← peek pathExprAhead then pathExpr solve allowStruct
      else if ← peek (Ahead.group .parenthesis) then delimited .parenthesis (groupedExprs solve)
      else if ← peek (Ahead.group .bracket) then delimited .bracket (bracketedExprs solve)
      else keywordAtom solve allowStruct

/-- The expression consists of source tokens taken over as they are. -/
def isRaw (e : Expr src) : Bool :=
  match e with
  | .exprVerbatim .raw _ => true
  | _ => false

/-- Reads an operand with the signs before it, behind its attributes. -/
def signed (solve : Solve src) (allowStruct : Bool) : Parser src (Expr src) := do
  if ← peek (Ahead.op "&") then
    node do
      let _ ← op "&"
      if ← peek fun t => Ahead.word "raw" t &&
          (Ahead.second (Ahead.word "mut") t || Ahead.second (Ahead.word "const") t) then
        let _ ← anyWord
        let _ ← anyWord
        let _ ← solve (.unary allowStruct)
        return fun extent => .exprVerbatim .plain extent
      else
        let isMutable ← word? "mut"
        let inner ← solve (.unary allowStruct)
        return fun extent => .exprReference extent isMutable inner
  else if ← peek fun t => Ahead.op "*" t || Ahead.op "!" t || Ahead.op "-" t then
    node do
      let (_, operator) ← withExtent do
        if ← op? "*" then return () else if ← op? "!" then return () else let _ ← op "-"
      let inner ← solve (.unary allowStruct)
      return fun extent => .exprUnary extent operator inner
  else
    let first ← atom solve allowStruct
    solve (.trailers first)

/-- Reads an operand with its attributes, the signs before and the trailers behind it. A range
without a lower end has no attributes. -/
def unary (solve : Solve src) (allowStruct : Bool) : Parser src (Expr src) := do
  let ((front, e), extent) ← withExtent <| rawIf (fun (_, e) => isRaw e) do
    let front ← extentOf (outerAttributes solve)
    let e ← signed solve allowStruct
    return (front, e)
  match e with
  | .exprVerbatim .raw _ => return .exprVerbatim .raw extent
  | .exprRange _ (dot :: _) _ _ =>
      if front.isEmpty then return e else failAt dot.span.start
  | _ => return Expr.attach front e

/-- Reads an expression. -/
def expr (solve : Solve src) (allowStruct : Bool) : Parser src (Expr src) := do
  let first ← solve (.unary allowStruct)
  solve (.operators first allowStruct .lowest)

/-! ## Statements and arms -/

/-- Reads the first operand of a statement or arm behind its attributes. -/
def boundaryFirst (solve : Solve src) : Parser src (Expr src) := do
  if ← peek fun t => Ahead.word "if" t || Ahead.word "while" t || Ahead.word "loop" t ||
      Ahead.word "match" t || Ahead.word "for" t && !bindingClosureAhead t ||
      Ahead.word "try" t && Ahead.second (Ahead.group .brace) t || Ahead.word "unsafe" t ||
      Ahead.word "const" t && Ahead.second (Ahead.group .brace) t || Ahead.group .brace t ||
      Ahead.lifetime t then
    atom solve true
  else solve (.unary true)

/-- Reads an expression that ends early if it ends like a block: what follows belongs to it only
behind a dot or a question mark. -/
def boundary (solve : Solve src) : Parser src (Expr src) :=
  reprint (fun e _ => Ast.extent e) do
    let front ← extentOf (outerAttributes solve)
    let first ← boundaryFirst solve
    if !Expr.isBlockLike first then
      solve (.operators (Expr.attach front first) true .lowest)
    else if ← peek fun t => Ahead.op "." t && !Ahead.op ".." t || Ahead.op "?" t then
      let e ← solve (.trailers first)
      solve (.operators (Expr.attach front e) true .lowest)
    else return Expr.attach front first

end SyntaxExport.Grammar
