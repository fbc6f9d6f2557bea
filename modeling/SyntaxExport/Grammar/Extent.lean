import SyntaxExport.Ast

/-!
# Extents of expressions, patterns and types

Attributes before an expression or a pattern belong to it, so they are put in front of its extent
after it has been read.
-/

namespace SyntaxExport

/-- The tokens of a part; none of a list or of what may be absent. -/
def Ast.extent {src : List Char} : {c : Category} → {s : Shape} → Ast src c s → Extent
  | _, _, nil | _, _, cons .. | _, _, absent | _, _, present .. => []
  | _, _, typePath x .. | _, _, typeReference x .. | _, _, typeTuple x .. | _, _, typeArray x ..
  | _, _, typeSlice x .. | _, _, typePointer x .. | _, _, typeParen x ..
  | _, _, typeVerbatim _ x => x
  | _, _, typeGroup element => element.extent
  | _, _, segment x .. => x
  | _, _, argumentType type => type.extent
  | _, _, argumentLifetime x | _, _, argumentOther x | _, _, argumentParenthesized x => x
  | _, _, exprLiteral x .. | _, _, exprPath x .. | _, _, exprBinary x .. | _, _, exprUnary x ..
  | _, _, exprCall x .. | _, _, exprMethodCall x .. | _, _, exprField x .. | _, _, exprIndex x ..
  | _, _, exprParen x .. | _, _, exprReference x .. | _, _, exprCast x .. | _, _, exprTuple x ..
  | _, _, exprArray x .. | _, _, exprRepeat x .. | _, _, exprStruct x .. | _, _, exprIf x ..
  | _, _, exprWhile x .. | _, _, exprFor x .. | _, _, exprLoop x .. | _, _, exprBlock x ..
  | _, _, exprUnsafe x .. | _, _, exprAsync x .. | _, _, exprAwait x .. | _, _, exprTry x ..
  | _, _, exprReturn x .. | _, _, exprBreak x .. | _, _, exprContinue x .. | _, _, exprAssign x ..
  | _, _, exprRange x .. | _, _, exprClosure x .. | _, _, exprMatch x .. | _, _, exprLet x ..
  | _, _, exprMacro x .. | _, _, exprVerbatim _ x => x
  | _, _, exprGroup inner => inner.extent
  | _, _, fieldValue x .. | _, _, arm x .. => x
  | _, _, patName x .. | _, _, patTyped x .. | _, _, patTuple x .. | _, _, patTupleStruct x ..
  | _, _, patStruct x .. | _, _, patReference x .. | _, _, patWild x | _, _, patLiteral x ..
  | _, _, patPath x .. | _, _, patOr x .. | _, _, patSlice x .. | _, _, patRange x ..
  | _, _, patRest x | _, _, patVerbatim _ x => x
  | _, _, fieldPat x .. | _, _, block x .. => x
  | _, _, stmtLet x .. | _, _, stmtEffect x .. | _, _, stmtMacro x .. => x
  | _, _, stmtItem item => item.extent
  | _, _, stmtExpression e => e.extent
  | _, _, function _ x .. | _, _, paramReceiver x .. | _, _, paramTyped x .. => x
  | _, _, genericType x .. | _, _, genericLifetime x .. | _, _, genericConst x .. => x
  | _, _, field x .. | _, _, variant x .. => x
  | _, _, itemFunction f | _, _, implFunction f | _, _, traitFunction f => f.extent
  | _, _, itemStruct x .. | _, _, itemEnum x .. | _, _, itemUse x .. | _, _, itemConst x ..
  | _, _, itemStatic x .. | _, _, itemModule x .. | _, _, itemImpl x .. | _, _, itemTrait x ..
  | _, _, itemType x .. | _, _, itemMacro x .. | _, _, itemVerbatim x => x
  | _, _, implConst x .. | _, _, implType x .. | _, _, implVerbatim x => x
  | _, _, traitConst x .. | _, _, traitType x .. | _, _, traitVerbatim x => x

namespace Expr

variable {src : List Char}

/-- The expression with tokens in front of it. -/
def prepend (front : Extent) : Expr src → Expr src
  | .exprLiteral x kind value => .exprLiteral (front ++ x) kind value
  | .exprPath x path => .exprPath (front ++ x) path
  | .exprBinary x operator left right => .exprBinary (front ++ x) operator left right
  | .exprUnary x operator operand => .exprUnary (front ++ x) operator operand
  | .exprCall x function arguments => .exprCall (front ++ x) function arguments
  | .exprMethodCall x receiver method arguments =>
      .exprMethodCall (front ++ x) receiver method arguments
  | .exprField x member base => .exprField (front ++ x) member base
  | .exprIndex x base index => .exprIndex (front ++ x) base index
  | .exprParen x inner => .exprParen (front ++ x) inner
  | .exprGroup inner => .exprGroup (prepend front inner)
  | .exprReference x isMutable inner => .exprReference (front ++ x) isMutable inner
  | .exprCast x inner target => .exprCast (front ++ x) inner target
  | .exprTuple x elements => .exprTuple (front ++ x) elements
  | .exprArray x elements => .exprArray (front ++ x) elements
  | .exprRepeat x element length => .exprRepeat (front ++ x) element length
  | .exprStruct x path typeName rest fields => .exprStruct (front ++ x) path typeName rest fields
  | .exprIf x condition thenBranch elseBranch =>
      .exprIf (front ++ x) condition thenBranch elseBranch
  | .exprWhile x label condition body => .exprWhile (front ++ x) label condition body
  | .exprFor x label pattern iterated body => .exprFor (front ++ x) label pattern iterated body
  | .exprLoop x label body => .exprLoop (front ++ x) label body
  | .exprBlock x label block => .exprBlock (front ++ x) label block
  | .exprUnsafe x block => .exprUnsafe (front ++ x) block
  | .exprAsync x moves block => .exprAsync (front ++ x) moves block
  | .exprAwait x base => .exprAwait (front ++ x) base
  | .exprTry x inner => .exprTry (front ++ x) inner
  | .exprReturn x value => .exprReturn (front ++ x) value
  | .exprBreak x label value => .exprBreak (front ++ x) label value
  | .exprContinue x label => .exprContinue (front ++ x) label
  | .exprAssign x left right => .exprAssign (front ++ x) left right
  | .exprRange x limits start stop => .exprRange (front ++ x) limits start stop
  | .exprClosure x moves returnType body inputs =>
      .exprClosure (front ++ x) moves returnType body inputs
  | .exprMatch x subject arms => .exprMatch (front ++ x) subject arms
  | .exprLet x pattern value => .exprLet (front ++ x) pattern value
  | .exprMacro x path tokens => .exprMacro (front ++ x) path tokens
  | .exprVerbatim form x => .exprVerbatim form (front ++ x)

/-- The expression with attributes in front of it. Source tokens taken over as they are have no
attributes. -/
def attach (front : Extent) (e : Expr src) : Expr src :=
  match e with
  | .exprVerbatim .raw _ => e
  | _ => if front.isEmpty then e else e.prepend front

/-- A statement's attributes belong to the leftmost operand of its expression. -/
def attachLeft (front : Extent) : Expr src → Expr src
  | .exprAssign x left right => .exprAssign (front ++ x) (attachLeft front left) right
  | .exprBinary x operator left right =>
      .exprBinary (front ++ x) operator (attachLeft front left) right
  | .exprCast x inner target => .exprCast (front ++ x) (attachLeft front inner) target
  | e => e.attach front
termination_by e => sizeOf e

/-- The expression is a range. -/
def isRange : Expr src → Bool
  | .exprRange .. => true
  | _ => false

/-- The expression ends like a block: as a statement it needs no semicolon, as the body of an arm no
comma. -/
def isBlockLike : Expr src → Bool
  | .exprIf .. | .exprMatch .. | .exprBlock .. | .exprUnsafe .. | .exprWhile .. | .exprLoop ..
  | .exprFor .. | .exprVerbatim .blockLike _ => true
  | _ => false

/-- The last token is a group in braces. -/
def endsInBraces (e : Expr src) : Bool :=
  (Ast.extent e).getLast?.any Piece.isBraces

end Expr

namespace Pat

variable {src : List Char}

/-- The pattern with attributes in front of it. Source tokens taken over as they are have no
attributes. -/
def attach (front : Extent) : Pat src → Pat src
  | .patName x byReference isMutable name subpattern =>
      .patName (front ++ x) byReference isMutable name subpattern
  | .patTyped x pattern type => .patTyped (front ++ x) pattern type
  | .patTuple x elements => .patTuple (front ++ x) elements
  | .patTupleStruct x path elements => .patTupleStruct (front ++ x) path elements
  | .patStruct x path hasRest fields => .patStruct (front ++ x) path hasRest fields
  | .patReference x isMutable inner => .patReference (front ++ x) isMutable inner
  | .patWild x => .patWild (front ++ x)
  | .patLiteral x kind value => .patLiteral (front ++ x) kind value
  | .patPath x path => .patPath (front ++ x) path
  | .patOr x cases => .patOr (front ++ x) cases
  | .patSlice x elements => .patSlice (front ++ x) elements
  | .patRange x limits isClosed => .patRange (front ++ x) limits isClosed
  | .patRest x => .patRest (front ++ x)
  | .patVerbatim isRaw x => .patVerbatim isRaw (if isRaw then x else front ++ x)

end Pat

end SyntaxExport
