import SyntaxExport.Ast
import SyntaxExport.Node

/-!
# From syntax to nodes

`Lowering.lower` turns the syntax of a source file into nodes. Each kind of syntax gives a node
with a type name of its own, attributes for what is told in words, single slots and list slots for
its parts. A documentation comment goes to the slot `comment`, other attributes to the list
`attributes`.
-/

namespace SyntaxExport

/-- What is needed to place nodes: the source text and its lines. -/
structure Lowering where
  source : String
  index : LineIndex

namespace Lowering

/-- The lowering of a source text. -/
def ofSource (source : String) : Lowering :=
  ⟨source, LineIndex.ofChars source.toList⟩

/-- The coordinates of a span, whose last column is the one of its last character. -/
def coordinates (span : Span) : Coordinates :=
  ⟨span.start.line, span.start.column + 1, span.stop.line, span.stop.column⟩

/-- The part of the source text that a span covers. -/
def slice? (l : Lowering) (span : Span) : Option TextSlice :=
  match l.index.offset? span.start, l.index.offset? span.stop with
  | some start, some stop => if start ≤ stop then some ⟨l.source, start, stop⟩ else none
  | _, _ => none

/-- What a node of that type says about itself. An empty span gives it no place. -/
def info (l : Lowering) (typeName : String) (span : Option Span)
    (attributes : List (String × String)) : NodeInfo :=
  match span.filter fun s => s.start ≠ s.stop with
  | some s =>
      { typeName, attributes, coordinates := some (coordinates s), text := l.slice? s }
  | none => { typeName, attributes }

/-- Printed tokens as a text. -/
def text (extent : Extent) : String :=
  Piece.printAll extent

/-- A truth value as an attribute's value. -/
def truth (b : Bool) : String :=
  if b then "true" else "false"

/-- An attribute that is left out if it has no value. -/
def entryIf (name : String) (value : Option String) : List (String × String) :=
  (value.map fun v => (name, v)).toList

/-- The text of tokens, if there are any. -/
def text? (extent : Extent) : Option String :=
  if extent.isEmpty then none else some (text extent)

/-- A node without children. -/
def leaf (l : Lowering) (typeName : String) (extent : Extent)
    (attributes : List (String × String)) : Node :=
  .mk (l.info typeName (Piece.spanOf extent) attributes) [] []

/-- A node that is shown by its tokens. -/
def verbatim (l : Lowering) (typeName : String) (extent : Extent) : Node :=
  l.leaf typeName extent [("tokens", text extent)]

/-- A node of any syntax but expressions. -/
def branch (l : Lowering) (typeName : String) (extent : Extent)
    (attributes : List (String × String))
    (singular : List (String × Option Node)) (lists : List (String × List Node)) : Node :=
  .mk (l.info typeName (Piece.spanOf extent) attributes) singular lists

/-- A node of an expression. -/
def expression (l : Lowering) (typeName : String) (extent : Extent)
    (attributes : List (String × String)) (singular : List (String × Option Node))
    (lists : List (String × List Node)) : Node :=
  .mk { l.info typeName (Piece.spanOf extent) attributes with isExpression := true } singular lists

/-- The node of a name. -/
def name {src : List Char} (l : Lowering) (word : Word src) : Node :=
  .mk (l.info "Ident" (some word.span) [("identifier", word.text)]) [] []

/-- The node of a literal. -/
def literal (l : Lowering) (extent : Extent) (kind : LiteralKind) (value : String) : Node :=
  .mk
    { l.info "ExprLit" (Piece.spanOf extent) [("kind", kind.name), ("value", value)] with
      isExpression := true
      isStringLiteral := kind == .str }
    [] []

/-- The node of a struct literal, which constructs a value of a named type. -/
def structLiteral (l : Lowering) (extent path : Extent) (typeName : String) (rest : Option Node)
    (fields : List Node) : Node :=
  .mk
    { l.info "ExprStruct" (Piece.spanOf extent) [("path", text path)] with
      isExpression := true
      constructedType := some typeName }
    [("rest", rest)] [("fields", fields)]

/-! ## Attributes -/

/-- A line of documentation without the blank at its beginning. -/
def docLine (line : String) : String :=
  match line.toList with
  | ' ' :: rest => String.ofList rest
  | _ => line

/-- The text of an attribute that documents its owner. -/
def docText? (a : Attribute) : Option String :=
  match a.documentation with
  | .text value => some (docLine value)
  | _ => none

/-- The attribute documents its owner. -/
def isDoc (a : Attribute) : Bool :=
  a.documentation != .no

/-- The least span over the extents of two attributes. -/
def coverOf (first last : Attribute) : Option Span :=
  match Piece.spanOf first.extent, Piece.spanOf last.extent with
  | some a, some b => some (a.cover b)
  | a, _ => a

/-- The node of the documentation among some attributes. -/
def comment (l : Lowering) (attributes : List Attribute) : Option Node :=
  let docs := attributes.filter isDoc
  match docs.head?, docs.getLast? with
  | some first, some last =>
      some (.mk
        (l.info "DocComment" (coverOf first last)
          [("content", "\n".intercalate (docs.filterMap docText?))])
        [] [])
  | _, _ => none

/-- The node of an attribute. -/
def attributeNode (l : Lowering) (a : Attribute) : Node :=
  l.leaf "Attribute" a.extent
    [("style", if a.isInner then "inner" else "outer"), ("path", text a.path),
      ("tokens", text a.tokens)]

/-- The nodes of the attributes that are no documentation. -/
def otherAttributes (l : Lowering) (attributes : List Attribute) : List Node :=
  (attributes.filter (!isDoc ·)).map l.attributeNode

/-- A node of syntax that has attributes. -/
def attributed (l : Lowering) (typeName : String) (extent : Extent) (attached : List Attribute)
    (attributes : List (String × String)) (singular : List (String × Option Node))
    (lists : List (String × List Node)) : Node :=
  l.branch typeName extent attributes (("comment", l.comment attached) :: singular)
    (("attributes", l.otherAttributes attached) :: lists)

/-! ## Words of attributes' values -/

/-- The words before a function. -/
def modifiers (m : Modifiers) : Option String :=
  let words := (if m.isConst then ["const"] else []) ++ (if m.isAsync then ["async"] else []) ++
    (if m.isUnsafe then ["unsafe"] else []) ++ (text? m.abi).toList
  if words.isEmpty then none else some (" ".intercalate words)

/-- The type name of a function. -/
def functionType : FunctionRole → String
  | .item => "ItemFn"
  | .implItem => "ImplItemFn"
  | .traitItem => "TraitItemFn"

/-- The type name of a type that is shown by its tokens. -/
def verbatimType : TyKind → String
  | .never => "TypeNever"
  | .implTrait => "TypeImplTrait"
  | .traitObject | .bound => "TypeTraitObject"
  | .function => "TypeBareFn"
  | .inferred => "TypeInfer"
  | .macroCall => "TypeMacro"
  | .other => "Type"

/-- The word for how fields are written. -/
def fieldStyle : FieldStyle → String
  | .named => "named"
  | .tuple => "tuple"
  | .unit => "unit"

/-! ## All syntax -/

/-- The nodes of syntax. -/
def lower {src : List Char} (l : Lowering) :
    {c : Category} → {s : Shape} → Ast src c s → s.Of Node
  | _, _, .nil => []
  | _, _, .cons head tail => l.lower head :: l.lower tail
  | _, _, .absent => none
  | _, _, .present value => some (l.lower value)
  | _, _, .typePath extent path segments =>
      l.branch "TypePath" extent [("path", text path)] [] [("segments", l.lower segments)]
  | _, _, .typeReference extent lifetime isMutable element =>
      l.branch "TypeReference" extent
        (entryIf "lifetime" (lifetime.map text) ++ [("mutable", truth isMutable)])
        [("elem", some (l.lower element))] []
  | _, _, .typeTuple extent elements =>
      l.branch "TypeTuple" extent [] [] [("elements", l.lower elements)]
  | _, _, .typeArray extent element length =>
      l.branch "TypeArray" extent []
        [("elem", some (l.lower element)), ("len", some (l.lower length))] []
  | _, _, .typeSlice extent element =>
      l.branch "TypeSlice" extent [] [("elem", some (l.lower element))] []
  | _, _, .typePointer extent isMutable element =>
      l.branch "TypePtr" extent [("mutable", truth isMutable)]
        [("elem", some (l.lower element))] []
  | _, _, .typeParen extent element =>
      l.branch "TypeParen" extent [] [("elem", some (l.lower element))] []
  | _, _, .typeGroup element => l.lower element
  | _, _, .typeVerbatim kind extent => l.verbatim (verbatimType kind) extent
  | _, _, .segment extent name arguments =>
      l.branch "PathSegment" extent [] [("name", some (l.name name))]
        [("arguments", l.lower arguments)]
  | _, _, .argumentType type => l.lower type
  | _, _, .argumentLifetime extent => l.verbatim "Lifetime" extent
  | _, _, .argumentOther extent => l.verbatim "GenericArgument" extent
  | _, _, .argumentParenthesized extent => l.verbatim "ParenthesizedGenericArguments" extent
  | _, _, .exprLiteral extent kind value => l.literal extent kind value
  | _, _, .exprPath extent path => l.expression "ExprPath" extent [("path", text path)] [] []
  | _, _, .exprBinary extent operator left right =>
      l.expression "ExprBinary" extent [("operator", text operator)]
        [("left", some (l.lower left)), ("right", some (l.lower right))] []
  | _, _, .exprUnary extent operator operand =>
      l.expression "ExprUnary" extent [("operator", text operator)]
        [("expr", some (l.lower operand))] []
  | _, _, .exprCall extent function arguments =>
      l.expression "ExprCall" extent [] [("function", some (l.lower function))]
        [("arguments", l.lower arguments)]
  | _, _, .exprMethodCall extent receiver method arguments =>
      l.expression "ExprMethodCall" extent []
        [("receiver", some (l.lower receiver)), ("name", some (l.name method))]
        [("arguments", l.lower arguments)]
  | _, _, .exprField extent member base =>
      l.expression "ExprField" extent [("member", text member)] [("base", some (l.lower base))] []
  | _, _, .exprIndex extent base index =>
      l.expression "ExprIndex" extent []
        [("expr", some (l.lower base)), ("index", some (l.lower index))] []
  | _, _, .exprParen extent inner =>
      l.expression "ExprParen" extent [] [("expr", some (l.lower inner))] []
  | _, _, .exprGroup inner => l.lower inner
  | _, _, .exprReference extent isMutable inner =>
      l.expression "ExprReference" extent [("mutable", truth isMutable)]
        [("expr", some (l.lower inner))] []
  | _, _, .exprCast extent inner target =>
      l.expression "ExprCast" extent []
        [("expr", some (l.lower inner)), ("ty", some (l.lower target))] []
  | _, _, .exprTuple extent elements =>
      l.expression "ExprTuple" extent [] [] [("elements", l.lower elements)]
  | _, _, .exprArray extent elements =>
      l.expression "ExprArray" extent [] [] [("elements", l.lower elements)]
  | _, _, .exprRepeat extent element length =>
      l.expression "ExprRepeat" extent []
        [("expr", some (l.lower element)), ("len", some (l.lower length))] []
  | _, _, .exprStruct extent path typeName rest fields =>
      l.structLiteral extent path typeName.text (l.lower rest) (l.lower fields)
  | _, _, .exprIf extent condition thenBranch elseBranch =>
      l.expression "ExprIf" extent []
        [("condition", some (l.lower condition)), ("then_branch", some (l.lower thenBranch)),
          ("else_branch", l.lower elseBranch)] []
  | _, _, .exprWhile extent label condition body =>
      l.expression "ExprWhile" extent (entryIf "label" (label.map text))
        [("condition", some (l.lower condition)), ("body", some (l.lower body))] []
  | _, _, .exprFor extent label pattern iterated body =>
      l.expression "ExprForLoop" extent (entryIf "label" (label.map text))
        [("pat", some (l.lower pattern)), ("expr", some (l.lower iterated)),
          ("body", some (l.lower body))] []
  | _, _, .exprLoop extent label body =>
      l.expression "ExprLoop" extent (entryIf "label" (label.map text))
        [("body", some (l.lower body))] []
  | _, _, .exprBlock extent label block =>
      l.expression "ExprBlock" extent (entryIf "label" (label.map text))
        [("block", some (l.lower block))] []
  | _, _, .exprUnsafe extent block =>
      l.expression "ExprUnsafe" extent [] [("block", some (l.lower block))] []
  | _, _, .exprAsync extent moves block =>
      l.expression "ExprAsync" extent [("move", truth moves)] [("block", some (l.lower block))] []
  | _, _, .exprAwait extent base =>
      l.expression "ExprAwait" extent [] [("base", some (l.lower base))] []
  | _, _, .exprTry extent inner =>
      l.expression "ExprTry" extent [] [("expr", some (l.lower inner))] []
  | _, _, .exprReturn extent value =>
      l.expression "ExprReturn" extent [] [("expr", l.lower value)] []
  | _, _, .exprBreak extent label value =>
      l.expression "ExprBreak" extent (entryIf "label" (label.map text))
        [("expr", l.lower value)] []
  | _, _, .exprContinue extent label =>
      l.expression "ExprContinue" extent (entryIf "label" (label.map text)) [] []
  | _, _, .exprAssign extent left right =>
      l.expression "ExprAssign" extent []
        [("left", some (l.lower left)), ("right", some (l.lower right))] []
  | _, _, .exprRange extent limits start stop =>
      l.expression "ExprRange" extent [("limits", text limits)]
        [("start", l.lower start), ("end", l.lower stop)] []
  | _, _, .exprClosure extent moves returnType body inputs =>
      l.expression "ExprClosure" extent [("move", truth moves)]
        [("return_type", l.lower returnType), ("body", some (l.lower body))]
        [("inputs", l.lower inputs)]
  | _, _, .exprMatch extent subject arms =>
      l.expression "ExprMatch" extent [] [("expr", some (l.lower subject))]
        [("arms", l.lower arms)]
  | _, _, .exprLet extent pattern value =>
      l.expression "ExprLet" extent []
        [("pat", some (l.lower pattern)), ("expr", some (l.lower value))] []
  | _, _, .exprMacro extent path tokens =>
      l.expression "ExprMacro" extent [("path", text path), ("tokens", text tokens)] [] []
  | _, _, .exprVerbatim _ extent => l.expression "Expr" extent [("tokens", text extent)] [] []
  | _, _, .fieldValue extent member value =>
      l.branch "FieldValue" extent [("member", text member)] [("expr", some (l.lower value))] []
  | _, _, .arm extent attributes pattern guard body =>
      l.attributed "Arm" extent attributes []
        [("pat", some (l.lower pattern)), ("guard", l.lower guard),
          ("body", some (l.lower body))] []
  | _, _, .patName extent byReference isMutable name subpattern =>
      l.branch "PatIdent" extent [("by_ref", truth byReference), ("mutable", truth isMutable)]
        [("name", some (l.name name)), ("subpat", l.lower subpattern)] []
  | _, _, .patTyped extent pattern type =>
      l.branch "PatType" extent []
        [("pat", some (l.lower pattern)), ("ty", some (l.lower type))] []
  | _, _, .patTuple extent elements =>
      l.branch "PatTuple" extent [] [] [("elements", l.lower elements)]
  | _, _, .patTupleStruct extent path elements =>
      l.branch "PatTupleStruct" extent [("path", text path)] [] [("elements", l.lower elements)]
  | _, _, .patStruct extent path hasRest fields =>
      l.branch "PatStruct" extent [("path", text path), ("rest", truth hasRest)] []
        [("fields", l.lower fields)]
  | _, _, .patReference extent isMutable inner =>
      l.branch "PatReference" extent [("mutable", truth isMutable)]
        [("pat", some (l.lower inner))] []
  | _, _, .patWild extent => l.leaf "PatWild" extent []
  | _, _, .patLiteral extent kind value => l.literal extent kind value
  | _, _, .patPath extent path => l.leaf "PatPath" extent [("path", text path)]
  | _, _, .patOr extent cases => l.branch "PatOr" extent [] [] [("cases", l.lower cases)]
  | _, _, .patSlice extent elements =>
      l.branch "PatSlice" extent [] [] [("elements", l.lower elements)]
  | _, _, .patRange extent _ _ => l.verbatim "PatRange" extent
  | _, _, .patRest extent => l.leaf "PatRest" extent []
  | _, _, .patVerbatim _ extent => l.verbatim "Pat" extent
  | _, _, .fieldPat extent member pattern =>
      l.branch "FieldPat" extent [("member", text member)] [("pat", some (l.lower pattern))] []
  | _, _, .block extent statements =>
      l.branch "Block" extent [] [] [("statements", l.lower statements)]
  | _, _, .stmtLet extent attributes pattern value otherwise =>
      l.attributed "Local" extent attributes []
        [("pat", some (l.lower pattern)), ("init", l.lower value),
          ("diverge", l.lower otherwise)] []
  | _, _, .stmtItem item => l.lower item
  | _, _, .stmtEffect extent expression =>
      l.branch "StmtExpr" extent [] [("expr", some (l.lower expression))] []
  | _, _, .stmtExpression expression => l.lower expression
  | _, _, .stmtMacro extent attributes path tokens =>
      l.attributed "StmtMacro" extent attributes
        [("path", text path), ("tokens", text tokens)] [] []
  | _, _, .function role extent attributes visibility words name generics parameters returnType
      body =>
      l.attributed (functionType role) extent attributes
        (entryIf "visibility" (text? visibility) ++ entryIf "modifiers" (modifiers words))
        [("name", some (l.name name)), ("return_type", l.lower returnType), ("body", l.lower body)]
        [("generic_params", l.lower generics), ("parameters", l.lower parameters)]
  | _, _, .paramReceiver extent isReference isMutable =>
      l.leaf "Receiver" extent [("reference", truth isReference), ("mutable", truth isMutable)]
  | _, _, .paramTyped extent pattern type =>
      l.branch "PatType" extent []
        [("pat", some (l.lower pattern)), ("ty", some (l.lower type))] []
  | _, _, .genericType extent bounds name byDefault =>
      l.branch "TypeParam" extent (entryIf "bounds" (text? bounds))
        [("name", some (l.name name)), ("default", l.lower byDefault)] []
  | _, _, .genericLifetime extent lifetime =>
      l.leaf "LifetimeParam" extent [("lifetime", text lifetime)]
  | _, _, .genericConst extent name type byDefault =>
      l.branch "ConstParam" extent []
        [("name", some (l.name name)), ("ty", some (l.lower type)),
          ("default", l.lower byDefault)] []
  | _, _, .field extent attributes visibility name type =>
      l.attributed "Field" extent attributes (entryIf "visibility" (text? visibility))
        [("name", name.map l.name), ("ty", some (l.lower type))] []
  | _, _, .variant extent attributes style name discriminant fields =>
      l.attributed "Variant" extent attributes [("style", fieldStyle style)]
        [("name", some (l.name name)), ("discriminant", l.lower discriminant)]
        [("fields", l.lower fields)]
  | _, _, .itemFunction function => l.lower function
  | _, _, .itemStruct extent attributes visibility style name generics fields =>
      l.attributed "ItemStruct" extent attributes
        (entryIf "visibility" (text? visibility) ++ [("style", fieldStyle style)])
        [("name", some (l.name name))]
        [("generic_params", l.lower generics), ("fields", l.lower fields)]
  | _, _, .itemEnum extent attributes visibility name generics variants =>
      l.attributed "ItemEnum" extent attributes (entryIf "visibility" (text? visibility))
        [("name", some (l.name name))]
        [("generic_params", l.lower generics), ("variants", l.lower variants)]
  | _, _, .itemUse extent attributes visibility tree =>
      l.attributed "ItemUse" extent attributes (entryIf "visibility" (text? visibility))
        [("tree", some (l.verbatim "UseTree" tree))] []
  | _, _, .itemConst extent attributes visibility name type value =>
      l.attributed "ItemConst" extent attributes (entryIf "visibility" (text? visibility))
        [("name", some (l.name name)), ("ty", some (l.lower type)),
          ("value", some (l.lower value))] []
  | _, _, .itemStatic extent attributes visibility isMutable name type value =>
      l.attributed "ItemStatic" extent attributes
        (entryIf "visibility" (text? visibility) ++ [("mutable", truth isMutable)])
        [("name", some (l.name name)), ("ty", some (l.lower type)),
          ("value", some (l.lower value))] []
  | _, _, .itemModule extent attributes visibility isInline name items =>
      l.attributed "ItemMod" extent attributes
        (entryIf "visibility" (text? visibility) ++ [("inline", truth isInline)])
        [("name", some (l.name name))] [("items", l.lower items)]
  | _, _, .itemImpl extent attributes isNegative implemented isUnsafe selfType generics items =>
      l.attributed "ItemImpl" extent attributes
        (entryIf "trait"
            (implemented.map fun path => (if isNegative then "!" else "") ++ text path) ++
          [("unsafe", truth isUnsafe)])
        [("self_ty", some (l.lower selfType))]
        [("generic_params", l.lower generics), ("items", l.lower items)]
  | _, _, .itemTrait extent attributes visibility supertraits name generics items =>
      l.attributed "ItemTrait" extent attributes
        (entryIf "visibility" (text? visibility) ++
          entryIf "supertraits" (text? supertraits))
        [("name", some (l.name name))]
        [("generic_params", l.lower generics), ("items", l.lower items)]
  | _, _, .itemType extent attributes visibility name type generics =>
      l.attributed "ItemType" extent attributes (entryIf "visibility" (text? visibility))
        [("name", some (l.name name)), ("ty", some (l.lower type))]
        [("generic_params", l.lower generics)]
  | _, _, .itemMacro extent attributes path tokens name =>
      l.attributed "ItemMacro" extent attributes [("path", text path), ("tokens", text tokens)]
        [("name", name.map l.name)] []
  | _, _, .itemVerbatim extent => l.verbatim "Item" extent
  | _, _, .implFunction function => l.lower function
  | _, _, .implConst extent attributes visibility name type value =>
      l.attributed "ImplItemConst" extent attributes (entryIf "visibility" (text? visibility))
        [("name", some (l.name name)), ("ty", some (l.lower type)),
          ("value", some (l.lower value))] []
  | _, _, .implType extent attributes visibility name type =>
      l.attributed "ImplItemType" extent attributes (entryIf "visibility" (text? visibility))
        [("name", some (l.name name)), ("ty", some (l.lower type))] []
  | _, _, .implVerbatim extent => l.verbatim "ImplItem" extent
  | _, _, .traitFunction function => l.lower function
  | _, _, .traitConst extent attributes name type value =>
      l.attributed "TraitItemConst" extent attributes []
        [("name", some (l.name name)), ("ty", some (l.lower type)), ("value", l.lower value)] []
  | _, _, .traitType extent attributes bounds name byDefault =>
      l.attributed "TraitItemType" extent attributes (entryIf "bounds" (text? bounds))
        [("name", some (l.name name)), ("default", l.lower byDefault)] []
  | _, _, .traitVerbatim extent => l.verbatim "TraitItem" extent
termination_by structural _ _ part => part

/-- The node of a source file. -/
def file {src : List Char} (l : Lowering) (f : SourceFile src) : Node :=
  l.attributed "File" f.extent f.attributes (entryIf "shebang" f.shebang) []
    [("items", l.lower f.items)]

end Lowering

end SyntaxExport
