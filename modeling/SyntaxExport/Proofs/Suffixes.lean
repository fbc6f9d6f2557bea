import SyntaxExport.Grammar.Path
import SyntaxExport.Proofs.Numbers
import SyntaxExport.Proofs.Schema
import SyntaxExport.Source.Text
import SyntaxExport.Token.Lexer
import SyntaxExport.Typing

/-!
# Types that suffixes name

The type of a number is looked for among the suffixes of its kind. So a suffix decides the type,
except where a suffix of floating-point numbers stands behind a whole number, as in `1f32`: it is
not looked for, and the type is that of integers without a suffix.

Results:
1. `Typing.suffixOf?_append`: no suffix is taken for another.
2. `Typing.suffixed_type`: the type of a number, from its token on;
   `Source.whole_float_untyped`: numbers of a floating-point type that are taken for integers.
-/

namespace SyntaxExport

/-! ## Looking for a suffix -/

namespace Typing

open Literal

/-- The suffixes of both kinds. -/
def suffixes : List String :=
  integerSuffixes ++ floatSuffixes

theorem mem_suffixes (s : Suffix) : s.name ∈ suffixes := by
  cases s <;> decide

theorem mem_integerSuffixes (s : Suffix) : s.name ∈ integerSuffixes ↔ s.isFloat = false := by
  cases s <;> decide

theorem mem_floatSuffixes (s : Suffix) : s.name ∈ floatSuffixes ↔ s.isFloat = true := by
  cases s <;> decide

/-- No suffix is the end of another one. -/
theorem eq_of_suffix : ∀ s ∈ suffixes, ∀ t ∈ suffixes, s.toList <:+ t.toList → s = t := by
  decide

theorem isSuffixOf_iff {t : String} (known : t ∈ suffixes) (front : List Char) (s : Suffix) :
    t.toList.isSuffixOf (String.ofList (front ++ s.chars)).toList = true ↔ t = s.name := by
  rw [List.isSuffixOf_iff_suffix, String.toList_ofList]
  constructor
  · intro ends
    have both := List.suffix_or_suffix_of_suffix ends (List.suffix_append front s.chars)
    rcases both with inner | outer
    · exact eq_of_suffix t known s.name (mem_suffixes s) inner
    · exact (eq_of_suffix s.name (mem_suffixes s) t known outer).symm
  · rintro rfl
    exact List.suffix_append front s.chars

/-- No suffix is taken for another, whatever stands before it. -/
theorem suffixOf?_append {sought : List String} (known : sought ⊆ suffixes) (front : List Char)
    (s : Suffix) :
    suffixOf? (String.ofList (front ++ s.chars)) sought =
      if s.name ∈ sought then some s.name else none := by
  rw [suffixOf?]
  induction sought with
  | nil => rfl
  | cons t rest ih =>
    obtain ⟨here, later⟩ := List.cons_subset.mp known
    have matched := isSuffixOf_iff here front s
    rw [List.find?_cons]
    by_cases same : t = s.name
    · rw [matched.mpr same, if_pos (same ▸ List.mem_cons_self), same]
    · rw [Bool.eq_false_iff.mpr (mt matched.mp same)]
      have skipped : s.name ∈ t :: rest ↔ s.name ∈ rest := by
        rw [List.mem_cons, or_iff_right (Ne.symm same)]
      simp only [skipped]
      exact ih later

/-! ## The type of a number -/

theorem literal_suffixed (n : Suffixed) :
    literal (kind n.chars).name n.text =
      .ok (if n.suffix.isFloat && n.isWhole then "i32" else n.suffix.name) := by
  have spelled : n.text = String.ofList ((n.whole.chars ++ (Suffixed.fractionChars n.fraction ++
      Suffixed.exponentChars n.exponent)) ++ n.suffix.chars) := by
    simp only [Suffixed.text, Suffixed.chars, List.append_assoc]
  rw [kind_chars, spelled]
  by_cases whole : n.isWhole = true
  · rw [if_pos whole, whole, Bool.and_true]
    show Except.ok ((suffixOf? _ integerSuffixes).getD "i32") = _
    rw [suffixOf?_append (List.subset_append_left _ _)]
    simp only [mem_integerSuffixes]
    cases n.suffix.isFloat <;> rfl
  · have float : n.suffix.isFloat = true := by
      rw [← Bool.not_eq_false]
      intro integer
      obtain ⟨fraction, exponent⟩ := n.fits integer
      rw [Suffixed.isWhole, fraction, exponent] at whole
      exact whole rfl
    rw [if_neg whole, Bool.eq_false_iff.mpr whole, Bool.and_false]
    show Except.ok ((suffixOf? _ floatSuffixes).getD "f64") = _
    rw [suffixOf?_append (List.subset_append_right _ _), if_pos ((mem_floatSuffixes _).mpr float)]
    rfl

theorem resolve_literal {src : List Char} (l : Lowering) (extent : Extent) (kind : LiteralKind)
    (value : String) :
    resolve (l.lower (.exprLiteral extent kind value : Expr src)) = literal kind.name value := by
  obtain ⟨coordinates, text, same⟩ := l.info_eq "ExprLit" (Piece.spanOf extent)
    [("kind", kind.name), ("value", value)]
  show resolve (l.literal extent kind value) = literal kind.name value
  rw [Lowering.literal, same]
  rfl

end Typing

namespace Grammar

theorem literalExpr_eq {src : List Char} {state : State src} {text : String} {span : Span}
    {rest : List (Tree src)} (next : state.rest = .literal text span :: rest) :
    ∃ state', literalExpr state = .ok (.exprLiteral [.token text false span]
      (Literal.kind text.toList) (Literal.value text), state') ∧ state'.rest = rest := by
  obtain ⟨trees, stop, printed, count, leftover⟩ := state
  cases next
  refine ⟨⟨rest, stop, .token text false span :: printed, count + 1, leftover⟩, ?_, rfl⟩
  show Except.ok (Ast.exprLiteral ((Piece.token text false span :: printed).take
    (count + 1 - count)).reverse (Literal.kind text.toList) (Literal.value text), _) = _
  rw [Nat.add_sub_cancel_left]
  rfl

end Grammar

/-- The token of a number. -/
theorem Tree.leaf?_number {src : List Char} (n : Literal.Suffixed) {c : Cursor src}
    {after : List Char} (next : c.rest = n.chars ++ after)
    (ends : after.head?.any Text.isIdentifierContinue = false) :
    Tree.leaf? c = some (.literal n.text (c.spanOf n.chars.length), n.chars.length) := by
  have scanned : Scan.literal? c.rest = some n.chars.length := by
    rw [next]
    exact Scan.literal?_chars n ends
  have text : c.textOf n.chars.length = n.text := by
    rw [Cursor.textOf, next, List.take_left]
    rfl
  rw [Tree.leaf?, scanned, ← text]

namespace Typing

open Literal

/-- A decimal number with a suffix is one token. Read as an expression, its type is the one that the
suffix names, unless this is a type of floating-point numbers and the number has neither a fraction
nor an exponent. -/
theorem suffixed_type {src : List Char} (n : Suffixed) :
    (∀ (c : Cursor src) (after : List Char), c.rest = n.chars ++ after →
      after.head?.any Text.isIdentifierContinue = false →
      Tree.leaf? c = some (.literal n.text (c.spanOf n.chars.length), n.chars.length)) ∧
    ∀ (l : Lowering) (state : Grammar.State src) (span : Span) (rest : List (Tree src)),
      state.rest = .literal n.text span :: rest →
      ∃ e state', Grammar.literalExpr state = .ok (e, state') ∧ state'.rest = rest ∧
        resolve (l.lower e) =
          .ok (if n.suffix.isFloat && n.isWhole then "i32" else n.suffix.name) := by
  refine ⟨fun c after next ends => Tree.leaf?_number n next ends, ?_⟩
  intro l state span rest next
  obtain ⟨state', ran, left⟩ := Grammar.literalExpr_eq next
  refine ⟨_, state', ran, left, ?_⟩
  rw [resolve_literal, value_text, Suffixed.text, String.toList_ofList]
  exact literal_suffixed n

/-- The number `2_.5E-_3f64`. -/
def smallNumber : Suffixed where
  whole := ⟨'2', ['_'], rfl, by decide⟩
  fraction := some ⟨'5', [], rfl, by decide⟩
  exponent := some ⟨'E', some '-', ['_', '3'], .inr rfl, by rintro _ ⟨⟩; exact .inr rfl, by decide,
    rfl⟩
  suffix := .f64
  fits := by decide

theorem suffixed_type_small :
    (∃ span, Tree.leaf? (Cursor.start "2_.5E-_3f64;".toList) =
      some (.literal "2_.5E-_3f64" span, 11)) ∧
    ∃ (e : Expr []) (state' : Grammar.State []), Grammar.literalExpr
        ⟨[.literal "2_.5E-_3f64" ⟨⟨1, 0⟩, ⟨1, 11⟩⟩], ⟨1, 11⟩, [], 0, none⟩ = .ok (e, state') ∧
      resolve ((Lowering.ofSource "").lower e) = .ok "f64" := by
  constructor
  · exact ⟨_, (suffixed_type smallNumber).1 (Cursor.start "2_.5E-_3f64;".toList) [';'] rfl rfl⟩
  · obtain ⟨e, state', ran, -, type⟩ := (suffixed_type smallNumber).2 (Lowering.ofSource "")
      ⟨[.literal "2_.5E-_3f64" ⟨⟨1, 0⟩, ⟨1, 11⟩⟩], ⟨1, 11⟩, [], 0, none⟩ _ [] rfl
    exact ⟨e, state', ran, type⟩

end Typing

namespace Source

/-- The type of the value of the first item of a text, which is a constant. -/
def constantType? (text : String) : Option String := do
  let root ← (parse text).toOption
  let item ← root.children[0]?
  let value ← item.child? "value"
  (Typing.resolve value).toOption

/-- The suffix of these numbers is not looked at. -/
theorem whole_float_untyped :
    constantType? "const A: f32 = 1f32;" = some "i32" ∧
      constantType? "const A: f64 = 2_0f64;" = some "i32" := by
  constructor
  · decide +kernel
  · decide +kernel

end Source

end SyntaxExport
