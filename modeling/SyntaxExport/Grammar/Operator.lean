import SyntaxExport.Grammar.Pattern

/-!
# Operators

An expression is an operand with operators behind it. Of two operators the one that binds more
tightly takes the operand between them; of two that bind equally the left one, except for
assignments. Comparisons cannot be chained, and nothing but an operator inside it can follow a
range.
-/

namespace SyntaxExport.Grammar

variable {src : List Char}

/-- The operators between two operands, those that start with another one before it. -/
def binaryOperators : List (String × Precedence) :=
  [("+=", .assign), ("-=", .assign), ("*=", .assign), ("/=", .assign), ("%=", .assign),
    ("^=", .assign), ("&=", .assign), ("|=", .assign), ("<<=", .assign), (">>=", .assign),
    ("&&", .and), ("||", .or), ("<<", .shift), (">>", .shift), ("==", .compare), ("<=", .compare),
    ("!=", .compare), (">=", .compare), ("+", .sum), ("-", .sum), ("*", .product), ("/", .product),
    ("%", .product), ("^", .bitXor), ("&", .bitAnd), ("|", .bitOr), ("<", .compare),
    (">", .compare)]

/-- The operator between two operands that comes next. -/
def binaryOperator? (trees : List (Tree src)) : Option (String × Precedence) :=
  binaryOperators.find? fun (s, _) => Ahead.op s trees

/-- An assignment comes next. -/
def assignAhead : Ahead src := fun t =>
  Ahead.op "=" t && !Ahead.op "=>" t

/-- How tightly what comes next binds. -/
def nextPrecedence (trees : List (Tree src)) : Precedence :=
  match binaryOperator? trees with
  | some (_, precedence) => precedence
  | none =>
      if assignAhead trees then .assign
      else if Ahead.op ".." trees then .range
      else if Ahead.word "as" trees then .cast
      else .lowest

/-- The expression is a comparison. -/
def isComparison (e : Expr src) : Bool :=
  match e with
  | .exprBinary _ operator _ _ =>
      binaryOperators.contains (Piece.printAll operator, .compare)
  | _ => false

/-- Reads a right operand behind an operator of the given precedence. -/
def rightOperand (solve : Solve src) (allowStruct : Bool) (precedence : Precedence) :
    Parser src (Expr src) := do
  let first ← solve (.unary allowStruct)
  solve (.operand first allowStruct precedence)

/-- Gives a right operand the operators behind it that bind more tightly than `above`. -/
def operand (solve : Solve src) (right : Expr src) (allowStruct : Bool) (above : Precedence) :
    Parser src (Expr src) := do
  let before := (← get).rest
  let next := nextPrecedence before
  if above.rank < next.rank || next = above && above = .assign then
    let e ← solve (.operators right allowStruct next)
    if (← get).rest.length == before.length then return e
    else solve (.operand e allowStruct above)
  else return right

/-- A range without an upper end ends here. -/
def rangeEnds (allowStruct : Bool) : Ahead src := fun t =>
  Ahead.atEnd t || Ahead.op "." t && !Ahead.op ".." t ||
    !allowStruct && Ahead.group .brace t || Ahead.word "as" t ||
    [",", ";", "?", "=>", "=", "+", "/", "%", "^", ">", "<=", "!=", "-=", "*=", "&=", "|=",
      "<<="].any
      fun s => Ahead.op s t

/-- Reads the upper end of a range behind its dots, if there is one. -/
def rangeEnd (solve : Solve src) (limits : RangeLimits) (allowStruct : Bool) :
    Parser src (Option (Expr src)) := do
  if ← peek fun t => limits == .halfOpen && rangeEnds allowStruct t then return none
  else return some (← rightOperand solve allowStruct .range)

/-- Reads a range behind its lower end, if it has one. -/
def rangeFrom (solve : Solve src) (allowStruct : Bool) :
    Parser src (Extent × Option (Expr src)) := do
  let (limits, dots) ← withExtent (rangeLimits false)
  return (dots, ← rangeEnd solve limits allowStruct)

/-- What cannot follow a cast. -/
def castTrailerAhead : Ahead src := fun t =>
  Ahead.op "." t && !Ahead.op ".." t || Ahead.op "?" t || Ahead.group .bracket t ||
    Ahead.group .parenthesis t

/-- Reads an operator of at least the given precedence and its right operand, if there is one. -/
def operatorBehind (solve : Solve src) (left : Expr src) (allowStruct : Bool) (base : Precedence) :
    Parser src (Option (Expr src)) := do
  let allows (p : Precedence) : Bool := base.rank ≤ p.rank
  let trees := (← get).rest
  match binaryOperator? trees with
  | some (text, precedence) =>
      if !allows precedence then return none
      else if precedence = .compare && isComparison left then unexpected
      else
        let ((operator, right), behind) ← withExtent do
          let operator ← op text
          let right ← rightOperand solve allowStruct precedence
          return (operator, right)
        return some (.exprBinary (Ast.extent left ++ behind) operator left right)
  | none =>
      if allows .assign && assignAhead trees then
        let (right, behind) ← withExtent do
          let _ ← op "="
          rightOperand solve allowStruct .assign
        return some (.exprAssign (Ast.extent left ++ behind) left right)
      else if allows .range && Ahead.op ".." trees then
        let ((dots, stop), behind) ← withExtent (rangeFrom solve allowStruct)
        return some (.exprRange (Ast.extent left ++ behind) dots (.present left) (.ofOption stop))
      else if allows .cast && Ahead.word "as" trees then
        let (target, behind) ← withExtent do
          let _ ← word "as"
          solve (.type false)
        if ← peek castTrailerAhead then unexpected
        return some (.exprCast (Ast.extent left ++ behind) left target)
      else return none

/-- Gives an expression the operators behind it of at least the given precedence. -/
def operators (solve : Solve src) (left : Expr src) (allowStruct : Bool) (base : Precedence) :
    Parser src (Expr src) := do
  if Expr.isRange left then return left
  else
    match ← operatorBehind solve left allowStruct base with
    | some e => solve (.operators e allowStruct base)
    | none => return left

end SyntaxExport.Grammar
