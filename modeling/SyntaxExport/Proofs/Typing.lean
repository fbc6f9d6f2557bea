import SyntaxExport.Proofs.Schema
import SyntaxExport.Typing

/-!
# Types of lowered syntax

`Typing` finds the parts of a node under the names that `Lowering` has given them. Both sides spell
the names out, so it is shown kind by kind that they agree: nothing that is looked for is missing,
and writing a type fails only on arrays and raw pointers, which have no written form.

Results:
1. `failureOf_lower`: writing types fails on the first array or pointer that is looked at.
2. `noMismatch_lower`: the type of an expression never fails on the shape of its node.
3. `lowered_typing`: both for types and expressions.
-/

namespace SyntaxExport

variable {src : List Char} {c : Category} {s : Shape}

namespace Ast

/-- The types that are looked at when a type is written, from left to right: itself, what a
reference, a slice, parentheses or a tuple hold, and the type arguments of a path. -/
def reached : {c : Category} → {s : Shape} → Ast src c s → List (Ty src)
  | _, _, cons head tail => head.reached ++ tail.reached
  | _, _, present value => value.reached
  | _, _, typePath extent path segments => typePath extent path segments :: segments.reached
  | _, _, typeReference extent lifetime isMutable element =>
      typeReference extent lifetime isMutable element :: element.reached
  | _, _, typeTuple extent elements => typeTuple extent elements :: elements.reached
  | _, _, typeSlice extent element => typeSlice extent element :: element.reached
  | _, _, typeParen extent element => typeParen extent element :: element.reached
  | _, _, typeGroup element => typeGroup element :: element.reached
  | _, _, typeArray extent element length => [typeArray extent element length]
  | _, _, typePointer extent isMutable element => [typePointer extent isMutable element]
  | _, _, typeVerbatim kind extent => [typeVerbatim kind extent]
  | _, _, segment _ _ arguments => arguments.reached
  | _, _, argumentType type => type.reached
  | _, _, _ => []
termination_by structural _ _ part => part

/-- The type name of an array or a raw pointer. -/
def unwritable? : Ty src → Option String
  | typeArray .. => some "TypeArray"
  | typePointer .. => some "TypePtr"
  | _ => none

/-- The error about the first array or raw pointer that is looked at. -/
def blocked? (part : Ast src c s) : Option Unresolved :=
  (part.reached.findSome? unwritable?).map fun kind => .unsupported (.kind kind)

theorem blocked?_cons (head : Ast src c .one) (tail : Ast src c .many) :
    (cons head tail).blocked? = head.blocked?.or tail.blocked? := by
  show ((head.reached ++ tail.reached).findSome? unwritable?).map _ = _
  rw [List.findSome?_append, Option.map_or]
  rfl

/-- The kinds of literals that are looked at when the type of an expression is sought. -/
def literals : {c : Category} → {s : Shape} → Ast src c s → List LiteralKind
  | _, _, cons head tail => head.literals ++ tail.literals
  | _, _, present value => value.literals
  | _, _, exprLiteral _ kind _ => [kind]
  | _, _, exprParen _ inner => inner.literals
  | _, _, exprGroup inner => inner.literals
  | _, _, exprReference _ _ inner => inner.literals
  | _, _, exprUnary _ _ operand => operand.literals
  | _, _, exprBinary _ _ left right => left.literals ++ right.literals
  | _, _, exprTuple _ elements => elements.literals
  | _, _, exprArray _ elements => elements.literals
  | _, _, _ => []
termination_by structural _ _ part => part

end Ast

/-- Values of a shape as a list. -/
def Shape.toList {α : Type} : (s : Shape) → s.Of α → List α
  | .one, value => [value]
  | .many, values => values
  | .optional, value => value.toList

namespace Typing

/-! ## Writing types -/

/-- Why there is no result. -/
def failure? {α : Type} : Except Unresolved α → Option Unresolved
  | .ok _ => none
  | .error why => some why

theorem failure?_eq_some_iff {α : Type} {result : Except Unresolved α} {why : Unresolved} :
    failure? result = some why ↔ result = .error why := by
  cases result <;> simp [failure?]

theorem failure?_map {α β : Type} (result : Except Unresolved α) (f : α → β) :
    failure? (do return f (← result)) = failure? result := by
  cases result <;> rfl

theorem failure?_map₂ {α β γ : Type} (first : Except Unresolved α) (second : Except Unresolved β)
    (f : α → β → γ) :
    failure? (do
      let a ← first
      let b ← second
      return f a b) = (failure? first).or (failure? second) := by
  cases first <;> cases second <;> rfl

/-- Why nodes of a category cannot be written. -/
def failureOf : Category → List Node → Option Unresolved
  | .segment, nodes => failure? (renderSegments nodes)
  | _, nodes => failure? (renderAll nodes)

theorem failure?_render (n : Node) : failure? (renderAll [n]) = failure? (render n) := by
  rw [renderAll, renderAll, failure?_map₂]
  exact Option.or_none

theorem failureOf_cons (c : Category) (n : Node) (nodes : List Node) :
    failureOf c (n :: nodes) = (failureOf c [n]).or (failureOf c nodes) := by
  have onNodes : failure? (renderAll (n :: nodes)) =
      (failure? (renderAll [n])).or (failure? (renderAll nodes)) := by
    rw [failure?_render, renderAll, failure?_map₂]
  cases c with
  | segment =>
    obtain ⟨info, singular, lists⟩ := n
    show failure? (renderSegments _) =
      (failure? (renderSegments _)).or (failure? (renderSegments _))
    rw [renderSegments, failure?_map₂, renderSegments, failure?_map₂, renderSegments]
    exact congrArg (Option.or · _) Option.or_none.symm
  | _ => exact onNodes

theorem failureOf_nil (c : Category) : failureOf c [] = none := by
  cases c <;> rfl

/-- Only the type name and the attributes of a node matter. -/
theorem render_info (l : Lowering) (typeName : String) (span : Option Span)
    (attributes : List (String × String)) (singular : List (String × Option Node))
    (lists : List (String × List Node)) :
    render (.mk (l.info typeName span attributes) singular lists) =
      render (.mk { typeName, attributes } singular lists) := by
  obtain ⟨coordinates, text, same⟩ := l.info_eq typeName span attributes
  rw [same, render, render]

theorem failureOf_plain (l : Lowering) (typeName : String) (span : Option Span)
    (attributes : List (String × String)) (singular : List (String × Option Node))
    (lists : List (String × List Node)) :
    failureOf .type [.mk (l.info typeName span attributes) singular lists] =
      failure? (render (.mk { typeName, attributes } singular lists)) :=
  (failure?_render _).trans (congrArg failure? (render_info ..))

/-- Writing types fails on the first array or raw pointer that is looked at, and on nothing else. -/
theorem failureOf_lower (l : Lowering) (part : Ast src c s)
    (written : c ∈ [Category.type, .segment, .argument]) :
    failureOf c (s.toList (l.lower part)) = part.blocked? := by
  have one {element : Ty src} (ih : failureOf .type [l.lower element] = element.blocked?) :
      failure? (render (l.lower element)) = element.blocked? :=
    (failure?_render _).symm.trans ih
  -- one part is written like a list of one, so parts and lists of them are one induction
  induction part with
  | nil => exact failureOf_nil _
  | cons head tail ihHead ihTail =>
    rw [Ast.blocked?_cons, ← ihHead written, ← ihTail written]
    exact failureOf_cons _ (l.lower head) (l.lower tail)
  | absent => exact failureOf_nil _
  | present value ih => exact ih written
  | typeGroup _ ih | argumentType _ ih => exact ih (by decide)
  | typePath extent path segments ih =>
    refine (failureOf_plain ..).trans ?_
    exact (failure?_map (renderSegments (l.lower segments)) _).trans (ih (by decide))
  | typeReference extent lifetime isMutable element ih | typeSlice extent element ih =>
    refine (failureOf_plain ..).trans ?_
    exact (failure?_map (render (l.lower element)) _).trans (one (ih (by decide)))
  | typeParen extent element ih =>
    exact (failureOf_plain ..).trans (one (ih (by decide)))
  | typeTuple extent elements ih =>
    refine (failureOf_plain ..).trans ?_
    exact (failure?_map (renderAll (l.lower elements)) tuple).trans (ih (by decide))
  | segment extent name arguments ih =>
    refine (failure?_map₂ (renderAll (l.lower arguments)) (.ok []) _).trans ?_
    rw [failure?, Option.or_none]
    exact ih (by decide)
  -- these have no slot that is looked at, and tokens unless they are arrays or pointers
  | typeArray | typePointer | argumentLifetime | argumentOther | argumentParenthesized =>
    exact failureOf_plain ..
  | typeVerbatim kind =>
    cases kind <;> exact failureOf_plain ..
  | _ => exact absurd written (by decide)

end Typing

/-! ## Types of expressions -/

/-- The error is about the shape of a node: a child, a known kind of literal or a path is not there.
Errors are told apart by their causes, as the words about two operands hold any types. -/
def Unresolved.isMismatch : Unresolved → Bool
  | unsupported (.missing ..) | unsupported (.literal _) | unsupported .structLiteral => true
  | _ => false

namespace Typing

/-- The result is no error about the shape of a node. -/
def NoMismatch {α : Type} (result : Except Unresolved α) : Prop :=
  ∀ why, result = .error why → why.isMismatch = false

theorem NoMismatch.ok {α : Type} (value : α) : NoMismatch (.ok value) :=
  fun _ failed => nomatch failed

theorem NoMismatch.error {α : Type} {why : Unresolved} (other : why.isMismatch = false) :
    NoMismatch (.error why : Except Unresolved α) := by
  rintro _ ⟨⟩
  exact other

theorem NoMismatch.bind {α β : Type} {result : Except Unresolved α} {f : α → Except Unresolved β}
    (first : NoMismatch result) (next : ∀ value, NoMismatch (f value)) :
    NoMismatch (result >>= f) := by
  cases result with
  | ok value => exact next value
  | error why => exact .error (first why rfl)

theorem noMismatch_resolveAll {nodes : List Node} (each : ∀ n ∈ nodes, NoMismatch (resolve n)) :
    NoMismatch (resolveAll nodes) := by
  induction nodes with
  | nil => exact .ok _
  | cons n rest ih =>
    obtain ⟨first, others⟩ := List.forall_mem_cons.mp each
    rw [resolveAll]
    exact first.bind fun _ => (ih others).bind fun _ => .ok _

theorem noMismatch_array (elements : List String) : NoMismatch (array elements) := by
  unfold array
  split
  · exact .error rfl
  · split
    · exact .ok _
    · exact .error rfl

/-- Where types are written, an error is about an array or a raw pointer. -/
theorem noMismatch_render (l : Lowering) (type : Ty src) : NoMismatch (render (l.lower type)) := by
  intro why failed
  have same : type.blocked? = some why := by
    rw [← failureOf_lower l type (by decide)]
    exact (failure?_render _).trans (congrArg failure? failed)
  obtain ⟨kind, _, rfl⟩ := Option.map_eq_some_iff.mp same
  rfl

/-- Only the type name and the attributes of an expression's node matter. -/
theorem resolve_expression (l : Lowering) (typeName : String) (extent : Extent)
    (attributes : List (String × String)) (singular : List (String × Option Node))
    (lists : List (String × List Node)) :
    resolve (l.expression typeName extent attributes singular lists) =
      resolve (.mk { typeName, attributes } singular lists) := by
  obtain ⟨coordinates, text, same⟩ := l.info_eq typeName (Piece.spanOf extent) attributes
  rw [Lowering.expression, same, resolve, resolve]

theorem noMismatch_expression {l : Lowering} {typeName : String} {extent : Extent}
    {attributes : List (String × String)} {singular : List (String × Option Node)}
    {lists : List (String × List Node)}
    (own : NoMismatch (resolve (.mk { typeName, attributes } singular lists))) :
    NoMismatch (resolve (l.expression typeName extent attributes singular lists)) := by
  rw [resolve_expression]
  exact own

theorem noMismatch_literal (l : Lowering) (extent : Extent) {kind : LiteralKind} (value : String)
    (known : kind ≠ .verbatim) : NoMismatch (resolve (l.literal extent kind value)) := by
  obtain ⟨coordinates, text, same⟩ := l.info_eq "ExprLit" (Piece.spanOf extent)
    [("kind", kind.name), ("value", value)]
  have own : NoMismatch (literal kind.name value) := by
    cases kind with
    | verbatim => exact absurd rfl known
    | _ => exact .ok _
  rw [Lowering.literal, same]
  exact own

theorem noMismatch_structLiteral (l : Lowering) (extent path : Extent) (typeName : String)
    (rest : Option Node) (fields : List Node) :
    NoMismatch (resolve (l.structLiteral extent path typeName rest fields)) := by
  obtain ⟨coordinates, text, same⟩ := l.info_eq "ExprStruct" (Piece.spanOf extent)
    [("path", Lowering.text path)]
  rw [Lowering.structLiteral, same]
  exact .ok _

/-- The type of an expression never fails on the shape of its node. -/
theorem noMismatch_lower (l : Lowering) (part : Ast src c s) (isExpr : c = .expr)
    (known : .verbatim ∉ part.literals) :
    s.Each (fun n => NoMismatch (resolve n)) (l.lower part) := by
  induction part with
  | nil => exact List.forall_mem_nil _
  | cons head tail ihHead ihTail =>
    obtain ⟨ofHead, ofTail⟩ := not_or.mp (mt List.mem_append.mpr known)
    exact List.forall_mem_cons.mpr ⟨ihHead isExpr ofHead, ihTail isExpr ofTail⟩
  | absent => exact nofun
  | present value ih => exact fun _ same => Option.some_inj.mp same ▸ ih isExpr known
  | exprGroup _ ih => exact ih rfl known
  | exprLiteral extent kind value =>
    exact noMismatch_literal l extent value fun same => known (List.mem_singleton.mpr same.symm)
  | exprStruct => exact noMismatch_structLiteral _ _ _ _ _ _
  | exprPath => exact noMismatch_expression (.error rfl)
  | exprCast extent inner target => exact noMismatch_expression (noMismatch_render l target)
  | exprParen extent inner ih => exact noMismatch_expression (ih rfl known)
  | exprReference extent isMutable inner ih =>
    exact noMismatch_expression ((ih rfl known).bind fun _ => .ok _)
  | exprTuple extent elements ih =>
    exact noMismatch_expression ((noMismatch_resolveAll (ih rfl known)).bind fun _ => .ok _)
  | exprArray extent elements ih =>
    exact noMismatch_expression ((noMismatch_resolveAll (ih rfl known)).bind noMismatch_array)
  | exprUnary extent operator operand ih =>
    have own : NoMismatch (if some (Lowering.text operator) == some "*" then
        .error (.unsupported (.kind "ExprUnary")) else resolve (l.lower operand)) := by
      split
      · exact .error rfl
      · exact ih rfl known
    exact noMismatch_expression own
  | exprBinary extent operator left right ihLeft ihRight =>
    obtain ⟨ofLeft, ofRight⟩ := not_or.mp (mt List.mem_append.mpr known)
    have unequal (a b : String) : NoMismatch (if a == b then .ok a else
        .error (.unsupported (.operands a (Lowering.text operator) b))) := by
      split
      · exact .ok _
      · exact .error rfl
    have own : NoMismatch (if truthOperators.contains (Lowering.text operator) then .ok "bool"
      else do
        let a ← resolve (l.lower left)
        let b ← resolve (l.lower right)
        if a == b then return a
        else .error (.unsupported (.operands a (Lowering.text operator) b))) := by
      split
      · exact .ok _
      · exact (ihLeft rfl ofLeft).bind fun a => (ihRight rfl ofRight).bind fun b => unequal a b
    exact noMismatch_expression own
  -- no other expression has a type that follows from its form
  | exprCall | exprMethodCall | exprField | exprIndex | exprRepeat | exprIf | exprWhile | exprFor
  | exprLoop | exprBlock | exprUnsafe | exprAsync | exprAwait | exprTry | exprReturn | exprBreak
  | exprContinue | exprAssign | exprRange | exprClosure | exprMatch | exprLet | exprMacro
  | exprVerbatim => exact noMismatch_expression (.error rfl)
  | _ => exact nomatch isExpr

/-- Types and expressions have all that is looked for in their nodes. The type of an expression
never fails on the shape of its node if no literal that is looked at is of an unknown kind. A type
cannot be written exactly if an array or a raw pointer is looked at, and the error names the first
of them. -/
theorem lowered_typing (l : Lowering) :
    (∀ e : Expr src, .verbatim ∉ e.literals →
      ∀ why, resolve (l.lower e) = .error why → why.isMismatch = false) ∧
    ∀ type : Ty src,
      (∀ why, render (l.lower type) = .error why → why.isMismatch = false) ∧
      ((∃ why, render (l.lower type) = .error why) ↔
        ∃ part ∈ type.reached, (Ast.unwritable? part).isSome) ∧
      ∀ kind, type.reached.findSome? Ast.unwritable? = some kind →
        render (l.lower type) = .error (.unsupported (.kind kind)) := by
  refine ⟨fun e known => noMismatch_lower l e rfl known, fun type => ?_⟩
  have failure : failure? (render (l.lower type)) = type.blocked? :=
    (failure?_render _).symm.trans (failureOf_lower l type (by decide))
  refine ⟨noMismatch_render l type, ?_, ?_⟩
  · simp only [← failure?_eq_some_iff, failure, ← Option.isSome_iff_exists]
    rw [Ast.blocked?, Option.isSome_map, List.isSome_findSome?, List.any_eq_true]
  · intro kind first
    rw [← failure?_eq_some_iff, failure, Ast.blocked?, first]
    rfl

/-- A tuple type in which a pointer among the arguments of a path stands before an array, and a
tuple with a cast to that array. -/
theorem lowered_typing_pointer_first :
    let word : Word ['A'] := ⟨"A", ⟨⟨1, 0⟩, ⟨1, 1⟩⟩, [], [], rfl, rfl, rfl⟩
    let name : Ty ['A'] := .typePath [] [] (.cons (.segment [] word .nil) .nil)
    let pointer : Ast ['A'] .argument .one := .argumentType (.typePointer [] false name)
    let applied : Ty ['A'] := .typePath [] [] (.cons (.segment [] word (.cons pointer .nil)) .nil)
    let array : Ty ['A'] := .typeArray [] name (.exprLiteral [] .verbatim "1")
    let type : Ty ['A'] := .typeTuple [] (.cons (.typeReference [] none true (.typeSlice [] name))
      (.cons applied (.cons array .nil)))
    let e : Expr ['A'] := .exprTuple [] (.cons (.exprLiteral [] .int "1")
      (.cons (.exprCast [] (.exprPath [] []) array) .nil))
    let l := Lowering.ofSource "A"
    (.verbatim ∉ e.literals ∧
      ∀ why, resolve (l.lower e) = .error why → why.isMismatch = false) ∧
    type.reached.findSome? Ast.unwritable? = some "TypePtr" ∧
      render (l.lower type) = .error (.unsupported (.kind "TypePtr")) := by
  intro word name pointer applied array type e l
  have known : .verbatim ∉ e.literals := by
    show .verbatim ∉ [LiteralKind.int]
    decide
  have first : type.reached.findSome? Ast.unwritable? = some "TypePtr" := rfl
  exact ⟨⟨known, (lowered_typing l).1 e known⟩, first, ((lowered_typing l).2 type).2.2 _ first⟩

end Typing

end SyntaxExport
