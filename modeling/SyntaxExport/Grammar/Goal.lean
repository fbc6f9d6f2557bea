import SyntaxExport.Grammar.Parser

/-!
# Goals of the grammar

The rules of the grammar refer to each other in circles. Where a rule needs another one that may
need it in turn, it asks for a `Goal`. A rule takes the parser of goals as an argument, and the
circle is closed once, by a bound on how deeply goals may be nested.
-/

namespace SyntaxExport.Grammar

/-- How tightly an operator binds, the loosest first. -/
inductive Precedence where
  | lowest
  | assign
  | range
  | or
  | and
  | compare
  | bitOr
  | bitXor
  | bitAnd
  | shift
  | sum
  | product
  | cast
  deriving DecidableEq, Repr

/-- The rank of a precedence. -/
def Precedence.rank : Precedence → Nat
  | lowest => 0
  | assign => 1
  | range => 2
  | or => 3
  | and => 4
  | compare => 5
  | bitOr => 6
  | bitXor => 7
  | bitAnd => 8
  | shift => 9
  | sum => 10
  | product => 11
  | cast => 12

/-- What a bound of a type is. -/
inductive BoundKind where
  | trait
  | lifetime
  | capture
  | constTrait
  deriving DecidableEq, Repr

/-- What may be read recursively.

* `type allowPlus`: a type, perhaps a sum of bounds.
* `bound allowCapture allowConst`: a bound, perhaps a list of captured parameters or a trait for
  constants.
* `expr allowStruct`: an expression, perhaps with a struct literal outside brackets.
* `unary allowStruct`: an operand with its signs and what follows it directly.
* `operators left allowStruct base`: what operators of at least precedence `base` make of `left`.
* `operand right allowStruct above`: a right operand together with operators that bind more tightly.
* `trailers e`: an expression with the calls, fields, indices and question marks behind it.
* `conditional`: an `if` with its branches.
* `boundary`: an expression that ends early if it ends like a block.
* `pattern`: a pattern without alternatives.
* `statements`: the inside of a block.
* `item`: an item with its attributes.
* `useTree allowRoot`: the paths of a `use`; tells whether they are plain.
* `namedFields`: fields between braces. -/
inductive Goal (src : List Char) where
  | type (allowPlus : Bool)
  | bound (allowCapture allowConst : Bool)
  | expr (allowStruct : Bool)
  | unary (allowStruct : Bool)
  | operators (left : Expr src) (allowStruct : Bool) (base : Precedence)
  | operand (right : Expr src) (allowStruct : Bool) (above : Precedence)
  | trailers (e : Expr src)
  | conditional
  | boundary
  | pattern
  | statements
  | item
  | useTree (allowRoot : Bool)
  | namedFields

/-- What a goal gives. -/
@[reducible]
def Goal.Result {src : List Char} : Goal src → Type
  | type _ => Ty src
  | bound _ _ => BoundKind
  | expr _ => Expr src
  | unary _ => Expr src
  | operators _ _ _ => Expr src
  | operand _ _ _ => Expr src
  | trailers _ => Expr src
  | conditional => Expr src
  | boundary => Expr src
  | pattern => Pat src
  | statements => List (Stmt src)
  | item => Item src
  | useTree _ => Bool
  | namedFields => List (Ast src .field .one)

/-- The parser of goals that a rule may use. -/
abbrev Solve (src : List Char) :=
  (goal : Goal src) → Parser src goal.Result

end SyntaxExport.Grammar
