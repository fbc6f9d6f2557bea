import SyntaxExport.Token.Literal
import SyntaxExport.Token.Tree

/-!
# Syntax trees of Rust

The tree of a source file `src`, as far as an export shows it. Every part holds its `Extent`, the
tokens it consists of as they are printed; parts that are shown by their tokens alone hold nothing
else. Names are words of the source.

All parts belong to one family `Ast`, indexed by the syntactic category and by whether there is one
part, a list of parts or perhaps none. A function on all syntax is then one recursion, and a fact
about all syntax one induction.
-/

namespace SyntaxExport

/-- The printed tokens of a part of a syntax tree. -/
abbrev Extent := List Piece

/-- What an attribute says about its item, if it documents it. -/
inductive Documentation where
  | no
  | other
  | text (value : String)
  deriving DecidableEq, Repr

/-- An attribute: whether it stands inside its owner, its path, its tokens without the brackets, and
what it documents. -/
structure Attribute where
  extent : Extent
  isInner : Bool
  path : Extent
  tokens : Extent
  documentation : Documentation

/-- Kinds of types that are shown by their tokens alone. A `bound` is a trait object that consists
of one bound and no keyword. -/
inductive TyKind where
  | never
  | implTrait
  | traitObject
  | bound
  | function
  | inferred
  | macroCall
  | other
  deriving DecidableEq, Repr

/-- What an expression that is shown by its tokens alone is to the grammar: a block, source tokens
taken over as they are, or any other form. -/
inductive ExprForm where
  | blockLike
  | raw
  | plain
  deriving DecidableEq, Repr

/-- How the fields of a struct or variant are written. -/
inductive FieldStyle where
  | named
  | tuple
  | unit
  deriving DecidableEq, Repr

/-- The words before a function: which of them are there, and the tokens of the calling
convention. -/
structure Modifiers where
  isConst : Bool
  isAsync : Bool
  isUnsafe : Bool
  abi : Extent

/-- What a function belongs to. -/
inductive FunctionRole where
  | item
  | implItem
  | traitItem
  deriving DecidableEq, Repr

/-- Syntactic categories. -/
inductive Category where
  | type
  | segment
  | argument
  | expr
  | fieldValue
  | arm
  | pat
  | fieldPat
  | block
  | stmt
  | function
  | param
  | genericParam
  | field
  | variant
  | item
  | implItem
  | traitItem
  deriving DecidableEq, Repr

/-- How many parts there are. -/
inductive Shape where
  | one
  | many
  | optional
  deriving DecidableEq, Repr

/-- One value of a type, a list of them, or perhaps one. -/
@[reducible]
def Shape.Of (α : Type) : Shape → Type
  | one => α
  | many => List α
  | optional => Option α

/-- Syntax of the source `src`, of a category and a shape.

* What is called `Verbatim` is shown by its tokens.
* What is called `Group` has delimiters that are not written, and stands for what is inside.
* Arguments in parentheses are one argument, the only one of their segment.
* A range pattern knows the place of its dots and whether it has both ends; a verbatim pattern knows
  whether it consists of source tokens taken over as they are.
* A statement `effect` is an expression with a semicolon; without one it is the expression alone.
* A visibility is empty if it is inherited. -/
inductive Ast (src : List Char) : Category → Shape → Type where
  | nil {c : Category} : Ast src c .many
  | cons {c : Category} (head : Ast src c .one) (tail : Ast src c .many) : Ast src c .many
  | absent {c : Category} : Ast src c .optional
  | present {c : Category} (value : Ast src c .one) : Ast src c .optional
  | typePath (extent path : Extent) (segments : Ast src .segment .many) : Ast src .type .one
  | typeReference (extent : Extent) (lifetime : Option Extent) (isMutable : Bool)
      (element : Ast src .type .one) : Ast src .type .one
  | typeTuple (extent : Extent) (elements : Ast src .type .many) : Ast src .type .one
  | typeArray (extent : Extent) (element : Ast src .type .one)
      (length : Ast src .expr .one) : Ast src .type .one
  | typeSlice (extent : Extent) (element : Ast src .type .one) : Ast src .type .one
  | typePointer (extent : Extent) (isMutable : Bool)
      (element : Ast src .type .one) : Ast src .type .one
  | typeParen (extent : Extent) (element : Ast src .type .one) : Ast src .type .one
  | typeGroup (element : Ast src .type .one) : Ast src .type .one
  | typeVerbatim (kind : TyKind) (extent : Extent) : Ast src .type .one
  | segment (extent : Extent) (name : Word src)
      (arguments : Ast src .argument .many) : Ast src .segment .one
  | argumentType (type : Ast src .type .one) : Ast src .argument .one
  | argumentLifetime (extent : Extent) : Ast src .argument .one
  | argumentOther (extent : Extent) : Ast src .argument .one
  | argumentParenthesized (extent : Extent) : Ast src .argument .one
  | exprLiteral (extent : Extent) (kind : LiteralKind) (value : String) : Ast src .expr .one
  | exprPath (extent path : Extent) : Ast src .expr .one
  | exprBinary (extent operator : Extent) (left right : Ast src .expr .one) : Ast src .expr .one
  | exprUnary (extent operator : Extent) (operand : Ast src .expr .one) : Ast src .expr .one
  | exprCall (extent : Extent) (function : Ast src .expr .one)
      (arguments : Ast src .expr .many) : Ast src .expr .one
  | exprMethodCall (extent : Extent) (receiver : Ast src .expr .one) (method : Word src)
      (arguments : Ast src .expr .many) : Ast src .expr .one
  | exprField (extent member : Extent) (base : Ast src .expr .one) : Ast src .expr .one
  | exprIndex (extent : Extent) (base index : Ast src .expr .one) : Ast src .expr .one
  | exprParen (extent : Extent) (inner : Ast src .expr .one) : Ast src .expr .one
  | exprGroup (inner : Ast src .expr .one) : Ast src .expr .one
  | exprReference (extent : Extent) (isMutable : Bool)
      (inner : Ast src .expr .one) : Ast src .expr .one
  | exprCast (extent : Extent) (inner : Ast src .expr .one)
      (target : Ast src .type .one) : Ast src .expr .one
  | exprTuple (extent : Extent) (elements : Ast src .expr .many) : Ast src .expr .one
  | exprArray (extent : Extent) (elements : Ast src .expr .many) : Ast src .expr .one
  | exprRepeat (extent : Extent) (element length : Ast src .expr .one) : Ast src .expr .one
  | exprStruct (extent path : Extent) (typeName : Word src) (rest : Ast src .expr .optional)
      (fields : Ast src .fieldValue .many) : Ast src .expr .one
  | exprIf (extent : Extent) (condition : Ast src .expr .one) (thenBranch : Ast src .block .one)
      (elseBranch : Ast src .expr .optional) : Ast src .expr .one
  | exprWhile (extent : Extent) (label : Option Extent) (condition : Ast src .expr .one)
      (body : Ast src .block .one) : Ast src .expr .one
  | exprFor (extent : Extent) (label : Option Extent) (pattern : Ast src .pat .one)
      (iterated : Ast src .expr .one) (body : Ast src .block .one) : Ast src .expr .one
  | exprLoop (extent : Extent) (label : Option Extent)
      (body : Ast src .block .one) : Ast src .expr .one
  | exprBlock (extent : Extent) (label : Option Extent)
      (block : Ast src .block .one) : Ast src .expr .one
  | exprUnsafe (extent : Extent) (block : Ast src .block .one) : Ast src .expr .one
  | exprAsync (extent : Extent) (moves : Bool) (block : Ast src .block .one) : Ast src .expr .one
  | exprAwait (extent : Extent) (base : Ast src .expr .one) : Ast src .expr .one
  | exprTry (extent : Extent) (inner : Ast src .expr .one) : Ast src .expr .one
  | exprReturn (extent : Extent) (value : Ast src .expr .optional) : Ast src .expr .one
  | exprBreak (extent : Extent) (label : Option Extent)
      (value : Ast src .expr .optional) : Ast src .expr .one
  | exprContinue (extent : Extent) (label : Option Extent) : Ast src .expr .one
  | exprAssign (extent : Extent) (left right : Ast src .expr .one) : Ast src .expr .one
  | exprRange (extent limits : Extent) (start stop : Ast src .expr .optional) : Ast src .expr .one
  | exprClosure (extent : Extent) (moves : Bool) (returnType : Ast src .type .optional)
      (body : Ast src .expr .one) (inputs : Ast src .pat .many) : Ast src .expr .one
  | exprMatch (extent : Extent) (subject : Ast src .expr .one)
      (arms : Ast src .arm .many) : Ast src .expr .one
  | exprLet (extent : Extent) (pattern : Ast src .pat .one)
      (value : Ast src .expr .one) : Ast src .expr .one
  | exprMacro (extent path tokens : Extent) : Ast src .expr .one
  | exprVerbatim (form : ExprForm) (extent : Extent) : Ast src .expr .one
  | fieldValue (extent member : Extent) (value : Ast src .expr .one) : Ast src .fieldValue .one
  | arm (extent : Extent) (attributes : List Attribute) (pattern : Ast src .pat .one)
      (guard : Ast src .expr .optional) (body : Ast src .expr .one) : Ast src .arm .one
  | patName (extent : Extent) (byReference isMutable : Bool) (name : Word src)
      (subpattern : Ast src .pat .optional) : Ast src .pat .one
  | patTyped (extent : Extent) (pattern : Ast src .pat .one)
      (type : Ast src .type .one) : Ast src .pat .one
  | patTuple (extent : Extent) (elements : Ast src .pat .many) : Ast src .pat .one
  | patTupleStruct (extent path : Extent) (elements : Ast src .pat .many) : Ast src .pat .one
  | patStruct (extent path : Extent) (hasRest : Bool)
      (fields : Ast src .fieldPat .many) : Ast src .pat .one
  | patReference (extent : Extent) (isMutable : Bool)
      (inner : Ast src .pat .one) : Ast src .pat .one
  | patWild (extent : Extent) : Ast src .pat .one
  | patLiteral (extent : Extent) (kind : LiteralKind) (value : String) : Ast src .pat .one
  | patPath (extent path : Extent) : Ast src .pat .one
  | patOr (extent : Extent) (cases : Ast src .pat .many) : Ast src .pat .one
  | patSlice (extent : Extent) (elements : Ast src .pat .many) : Ast src .pat .one
  | patRange (extent : Extent) (limits : Position) (isClosed : Bool) : Ast src .pat .one
  | patRest (extent : Extent) : Ast src .pat .one
  | patVerbatim (isRaw : Bool) (extent : Extent) : Ast src .pat .one
  | fieldPat (extent member : Extent) (pattern : Ast src .pat .one) : Ast src .fieldPat .one
  | block (extent : Extent) (statements : Ast src .stmt .many) : Ast src .block .one
  | stmtLet (extent : Extent) (attributes : List Attribute) (pattern : Ast src .pat .one)
      (value otherwise : Ast src .expr .optional) : Ast src .stmt .one
  | stmtItem (item : Ast src .item .one) : Ast src .stmt .one
  | stmtEffect (extent : Extent) (expression : Ast src .expr .one) : Ast src .stmt .one
  | stmtExpression (expression : Ast src .expr .one) : Ast src .stmt .one
  | stmtMacro (extent : Extent) (attributes : List Attribute)
      (path tokens : Extent) : Ast src .stmt .one
  | function (role : FunctionRole) (extent : Extent) (attributes : List Attribute)
      (visibility : Extent) (modifiers : Modifiers) (name : Word src)
      (generics : Ast src .genericParam .many) (parameters : Ast src .param .many)
      (returnType : Ast src .type .optional)
      (body : Ast src .block .optional) : Ast src .function .one
  | paramReceiver (extent : Extent) (isReference isMutable : Bool) : Ast src .param .one
  | paramTyped (extent : Extent) (pattern : Ast src .pat .one)
      (type : Ast src .type .one) : Ast src .param .one
  | genericType (extent bounds : Extent) (name : Word src)
      (byDefault : Ast src .type .optional) : Ast src .genericParam .one
  | genericLifetime (extent lifetime : Extent) : Ast src .genericParam .one
  | genericConst (extent : Extent) (name : Word src) (type : Ast src .type .one)
      (byDefault : Ast src .expr .optional) : Ast src .genericParam .one
  | field (extent : Extent) (attributes : List Attribute) (visibility : Extent) (name : Option
      (Word src)) (type : Ast src .type .one) : Ast src .field .one
  | variant (extent : Extent) (attributes : List Attribute) (style : FieldStyle) (name : Word src)
      (discriminant : Ast src .expr .optional)
      (fields : Ast src .field .many) : Ast src .variant .one
  | itemFunction (function : Ast src .function .one) : Ast src .item .one
  | itemStruct (extent : Extent) (attributes : List Attribute) (visibility : Extent)
      (style : FieldStyle) (name : Word src) (generics : Ast src .genericParam .many)
      (fields : Ast src .field .many) : Ast src .item .one
  | itemEnum (extent : Extent) (attributes : List Attribute) (visibility : Extent) (name : Word src)
      (generics : Ast src .genericParam .many)
      (variants : Ast src .variant .many) : Ast src .item .one
  | itemUse (extent : Extent) (attributes : List Attribute)
      (visibility tree : Extent) : Ast src .item .one
  | itemConst (extent : Extent) (attributes : List Attribute) (visibility : Extent)
      (name : Word src) (type : Ast src .type .one)
      (value : Ast src .expr .one) : Ast src .item .one
  | itemStatic (extent : Extent) (attributes : List Attribute) (visibility : Extent)
      (isMutable : Bool) (name : Word src) (type : Ast src .type .one)
      (value : Ast src .expr .one) : Ast src .item .one
  | itemModule (extent : Extent) (attributes : List Attribute) (visibility : Extent)
      (isInline : Bool) (name : Word src) (items : Ast src .item .many) : Ast src .item .one
  | itemImpl (extent : Extent) (attributes : List Attribute) (isNegative : Bool)
      (implemented : Option Extent) (isUnsafe : Bool) (selfType : Ast src .type .one)
      (generics : Ast src .genericParam .many)
      (items : Ast src .implItem .many) : Ast src .item .one
  | itemTrait (extent : Extent) (attributes : List Attribute) (visibility supertraits : Extent)
      (name : Word src) (generics : Ast src .genericParam .many)
      (items : Ast src .traitItem .many) : Ast src .item .one
  | itemType (extent : Extent) (attributes : List Attribute) (visibility : Extent) (name : Word src)
      (type : Ast src .type .one) (generics : Ast src .genericParam .many) : Ast src .item .one
  | itemMacro (extent : Extent) (attributes : List Attribute) (path tokens : Extent) (name : Option
      (Word src)) : Ast src .item .one
  | itemVerbatim (extent : Extent) : Ast src .item .one
  | implFunction (function : Ast src .function .one) : Ast src .implItem .one
  | implConst (extent : Extent) (attributes : List Attribute) (visibility : Extent)
      (name : Word src) (type : Ast src .type .one)
      (value : Ast src .expr .one) : Ast src .implItem .one
  | implType (extent : Extent) (attributes : List Attribute) (visibility : Extent) (name : Word src)
      (type : Ast src .type .one) : Ast src .implItem .one
  | implVerbatim (extent : Extent) : Ast src .implItem .one
  | traitFunction (function : Ast src .function .one) : Ast src .traitItem .one
  | traitConst (extent : Extent) (attributes : List Attribute) (name : Word src)
      (type : Ast src .type .one) (value : Ast src .expr .optional) : Ast src .traitItem .one
  | traitType (extent : Extent) (attributes : List Attribute) (bounds : Extent) (name : Word src)
      (byDefault : Ast src .type .optional) : Ast src .traitItem .one
  | traitVerbatim (extent : Extent) : Ast src .traitItem .one

namespace Ast

/-- A list of parts as syntax. -/
def ofList {src : List Char} {c : Category} : List (Ast src c .one) → Ast src c .many
  | [] => nil
  | head :: tail => cons head (ofList tail)

/-- Perhaps a part, as syntax. -/
def ofOption {src : List Char} {c : Category} : Option (Ast src c .one) → Ast src c .optional
  | none => absent
  | some value => present value

end Ast

/-- A type. -/
abbrev Ty (src : List Char) := Ast src .type .one

/-- An expression. -/
abbrev Expr (src : List Char) := Ast src .expr .one

/-- A pattern. -/
abbrev Pat (src : List Char) := Ast src .pat .one

/-- A block of statements. -/
abbrev Block (src : List Char) := Ast src .block .one

/-- A statement. -/
abbrev Stmt (src : List Char) := Ast src .stmt .one

/-- An item. -/
abbrev Item (src : List Char) := Ast src .item .one

/-- A source file: the line for the system before its first line, if any, its attributes and its
items. -/
structure SourceFile (src : List Char) where
  extent : Extent
  shebang : Option String
  attributes : List Attribute
  items : Ast src .item .many

end SyntaxExport
