import SyntaxExport.Grammar.Expression

/-!
# Statements
-/

namespace SyntaxExport.Grammar

variable {src : List Char}

/-- An item comes next, as far as its first tokens tell. Some of them may start an expression, too.
-/
def itemAhead : Ahead src := fun t =>
  let first := fun s => Ahead.word s t
  let second := fun s => Ahead.second (Ahead.word s) t
  let third := fun s => Ahead.third (Ahead.word s) t
  ["pub", "extern", "use", "fn", "mod", "type", "struct", "enum", "trait", "impl", "macro"].any
      first ||
    first "crate" && !Ahead.second (Ahead.op "::") t ||
    first "static" && (second "mut" || Ahead.second Ahead.ident t) ||
    first "const" &&
      !(Ahead.second (Ahead.group .brace) t || second "static" ||
        second "async" && !(third "unsafe" || third "extern" || third "fn") || second "move" ||
        Ahead.second (Ahead.op "|") t) ||
    first "unsafe" && !Ahead.second (Ahead.group .brace) t ||
    first "async" && (second "unsafe" || second "extern" || second "fn") ||
    first "union" && Ahead.second Ahead.ident t || first "auto" && second "trait" ||
    first "default" && (second "unsafe" || second "impl")

/-- What a macro call at the beginning of a statement is. -/
inductive CallAhead where
  | none
  | item
  | statement
  deriving DecidableEq

/-- Looks for a macro call. With a name behind the exclamation mark it is an item; in braces it is a
statement, unless a trailer makes it an operand. -/
def callAhead : Parser src CallAhead := fun s =>
  match plainPath s with
  | .error _ => .ok (.none, s)
  | .ok (_, behind) =>
      let t := behind.rest
      if !Ahead.op "!" t then .ok (.none, s)
      else if Ahead.second Ahead.ident t || Ahead.second (Ahead.word "try") t then .ok (.item, s)
      else if Ahead.second (Ahead.group .brace) t &&
          !(Ahead.third (Ahead.op ".") t && !Ahead.third (Ahead.op "..") t ||
            Ahead.third (Ahead.op "?") t) then
        .ok (.statement, s)
      else .ok (.none, s)

/-- Reads a macro call in braces as a statement, behind its attributes. -/
def macroStatement (attributes : List Attribute) (front : Extent) : Parser src (Stmt src) := do
  let ((path, tokens), behind) ← withExtent do
    let path ← extentOf plainPath
    let (_, tokens) ← macroBody
    let _ ← op? ";"
    return (path, tokens)
  return .stmtMacro (front ++ behind) attributes path tokens

/-- Reads the value of a `let`, with the block that is run if the pattern does not match. -/
def initializer (solve : Solve src) : Parser src (Option (Expr src) × Option (Expr src)) := do
  if ← op? "=" then
    let value ← solve (.expr true)
    if ← peek fun t => !Expr.endsInBraces value && Ahead.word "else" t then
      let _ ← word "else"
      let otherwise ← plainBlockExpr solve
      return (some value, some otherwise)
    else return (some value, none)
  else return (none, none)

/-- Reads a `let` behind its attributes. -/
def letStatement (solve : Solve src) (attributes : List Attribute) (front : Extent) :
    Parser src (Stmt src) := do
  let ((pattern, value, otherwise), behind) ← withExtent do
    let _ ← word "let"
    let pattern ← node do
      let p ← solve .pattern
      if ← op? ":" then
        let type ← solve (.type true)
        return fun extent => .patTyped extent p type
      else return fun _ => p
    let (value, otherwise) ← initializer solve
    let _ ← op ";"
    return (pattern, value, otherwise)
  return .stmtLet (front ++ behind) attributes pattern (.ofOption value) (.ofOption otherwise)

/-- Reads an expression as a statement, behind its attributes; tells whether it needs a semicolon if
something follows. A macro call with a semicolon or in braces is a statement of its own. -/
def expressionStatement (solve : Solve src) (attributes : List Attribute) (front : Extent) :
    Parser src (Stmt src × Bool) := do
  let e ← Expr.attachLeft front <$> solve .boundary
  let semicolon ← extentOf (op? ";")
  match e with
  | .exprMacro extent path tokens =>
      if semicolon.isEmpty && !Expr.endsInBraces e then return (.stmtExpression e, true)
      else return (.stmtMacro (extent ++ semicolon) attributes path tokens, false)
  | _ =>
      if semicolon.isEmpty then return (.stmtExpression e, !Expr.isBlockLike e)
      else return (.stmtEffect (Ast.extent e ++ semicolon) e, false)

/-- Reads a statement; tells whether it needs a semicolon if something follows. -/
def statement (solve : Solve src) : Parser src (Stmt src × Bool) :=
  reprint (fun (s, _) _ => Ast.extent s) do
    let before ← get
    let (attributes, front) ← withExtent (outerAttributes solve)
    match ← callAhead with
    | .statement => return (← macroStatement attributes front, false)
    | call =>
        if ← peek (Ahead.word "let") then return (← letStatement solve attributes front, false)
        else if ← peek fun t => call = .item || itemAhead t then
          set before
          return (.stmtItem (← solve .item), false)
        else expressionStatement solve attributes front

/-- At most `bound` statements. A semicolon alone is one without an expression. -/
def statementsBounded (solve : Solve src) : (bound : Nat) → Parser src (List (Stmt src))
  | 0 => return []
  | bound + 1 => do
      if ← peek (Ahead.op ";") then
        let semicolon ← op ";"
        let others ← statementsBounded solve bound
        return .stmtEffect semicolon (.exprVerbatim .raw []) :: others
      else if ← peek Ahead.atEnd then return []
      else
        let (first, needsSemicolon) ← statement solve
        if ← peek fun t => needsSemicolon && !Ahead.atEnd t then unexpected
        else
          let others ← statementsBounded solve bound
          return first :: others

/-- Reads the inside of a block. -/
def statements (solve : Solve src) : Parser src (List (Stmt src)) := do
  statementsBounded solve ((← get).rest.length + 1)

end SyntaxExport.Grammar
