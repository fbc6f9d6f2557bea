import SyntaxExport.Proofs.Suffixes
import SyntaxExport.Proofs.Typing

/-!
# Types of arithmetic

An operator takes an integer and a shared reference to one alike, and its result is an integer. The
type that is found for it is the one of its operands. So it is the right one if no operand is a
reference; where one is, as in `&1i32 + &2i32`, either no type is found or one with too many
references.

Results:
1. `HasType`, `HasType.unique`: the types of arithmetic.
2. `HasType.resolve_eq_ok_iff`: a type is found if all literals stand behind equally many
   references.
3. `HasType.levels_eq_iff`: these are the references of the type if no operand is a reference.
4. `arithmetic_type`: what is found and when it is right; `reference_operands_mistyped`: a sum and a
   negation of references, which are taken for references.
-/

namespace SyntaxExport

variable {src : List Char}

/-! ## References and operands -/

namespace Ast

/-- For each literal, from left to right, the number of references that it stands behind. -/
def levels : {c : Category} → {s : Shape} → Ast src c s → List Nat
  | _, _, exprLiteral .. => [0]
  | _, _, exprParen _ inner => inner.levels
  | _, _, exprReference _ _ inner => inner.levels.map (· + 1)
  | _, _, exprUnary _ _ operand => operand.levels
  | _, _, exprBinary _ _ left right => left.levels ++ right.levels
  | _, _, _ => []
termination_by structural _ _ part => part

/-- A reference, perhaps in parentheses. -/
def isReference : {c : Category} → {s : Shape} → Ast src c s → Bool
  | _, _, exprReference .. => true
  | _, _, exprParen _ inner => inner.isReference
  | _, _, _ => false
termination_by structural _ _ part => part

/-- The operands of all operators. -/
def operands : {c : Category} → {s : Shape} → Ast src c s → List (Expr src)
  | _, _, exprParen _ inner => inner.operands
  | _, _, exprReference _ _ inner => inner.operands
  | _, _, exprUnary _ _ operand => operand :: operand.operands
  | _, _, exprBinary _ _ left right => left :: right :: (left.operands ++ right.operands)
  | _, _, _ => []
termination_by structural _ _ part => part

end Ast

/-! ## Types -/

namespace Typing

/-- A type of integers behind a number of shared references. -/
structure IntegerType where
  references : Nat
  integer : Literal.Suffix
  isInteger : integer.isFloat = false
  deriving DecidableEq

/-- The same integers behind another number of references. -/
def IntegerType.behind (τ : IntegerType) (n : Nat) : IntegerType :=
  { τ with references := n }

/-- The text of a type. -/
def IntegerType.text (τ : IntegerType) : String :=
  String.ofList (List.replicate τ.references '&') ++ τ.integer.name

theorem IntegerType.text_behind_zero (τ : IntegerType) : (τ.behind 0).text = τ.integer.name := by
  simp [text, behind]

theorem IntegerType.text_behind_succ (τ : IntegerType) (n : Nat) :
    (τ.behind (n + 1)).text = "&" ++ (τ.behind n).text := by
  apply String.toList_injective
  simp [text, behind, List.replicate_succ]

theorem IntegerType.text_behind_inj (τ : IntegerType) {m n : Nat} :
    (τ.behind m).text = (τ.behind n).text ↔ m = n := by
  constructor
  · intro same
    have lengths := congrArg String.length same
    simpa [text, behind] using lengths
  · rintro rfl
    rfl

/-- The types of expressions of integers with a suffix, parentheses, shared references and
operators. An operand is an integer or a reference to one, and two operands have the same integers.
Unsigned integers are let through behind a minus, so everything that is well typed has its type. -/
inductive HasType : Expr src → IntegerType → Prop where
  | literal {extent : Extent} {value : String} {τ : IntegerType} :
      (Literal.integerValue value.toList).2 = τ.integer.chars →
      HasType (.exprLiteral extent .int value) (τ.behind 0)
  | paren {extent : Extent} {inner : Expr src} {τ : IntegerType} :
      HasType inner τ → HasType (.exprParen extent inner) τ
  | reference {extent : Extent} {inner : Expr src} {τ : IntegerType} :
      HasType inner τ → HasType (.exprReference extent false inner) (τ.behind (τ.references + 1))
  | unary {extent operator : Extent} {operand : Expr src} {τ : IntegerType} :
      Lowering.text operator ∈ ["-", "!"] → HasType operand τ → τ.references ≤ 1 →
      HasType (.exprUnary extent operator operand) (τ.behind 0)
  | binary {extent operator : Extent} {left right : Expr src} {τ σ : IntegerType} :
      Lowering.text operator ∈ ["+", "-", "*", "/", "%"] → HasType left τ → HasType right σ →
      τ.integer = σ.integer → τ.references ≤ 1 → σ.references ≤ 1 →
      HasType (.exprBinary extent operator left right) (τ.behind 0)

theorem IntegerType.behind_eq_behind {τ σ : IntegerType} (same : τ.integer = σ.integer) (n : Nat) :
    τ.behind n = σ.behind n := by
  cases τ
  cases σ
  cases same
  rfl

theorem suffix_chars_injective : Function.Injective Literal.Suffix.chars := by
  intro s t same
  cases s <;> cases t <;> first | rfl | exact absurd same (by decide)

/-- An expression has one type. -/
theorem HasType.unique {e : Expr src} {τ σ : IntegerType} (typed : HasType e τ)
    (typed' : HasType e σ) : τ = σ := by
  induction typed generalizing σ with
  | literal suffix =>
    cases typed' with
    | literal suffix' =>
      exact IntegerType.behind_eq_behind (suffix_chars_injective (suffix.symm.trans suffix')) 0
  | paren _ ih =>
    cases typed' with
    | paren inner' => exact ih inner'
  | reference _ ih =>
    cases typed' with
    | reference inner' => rw [ih inner']
  | unary _ _ _ ih =>
    cases typed' with
    | unary _ operand' _ => rw [ih operand']
  | binary _ _ _ _ _ _ ih =>
    cases typed' with
    | binary _ left' _ _ _ _ => rw [ih left']

/-! ## What is found -/

theorem suffix_integerValue (cs : List Char) : (Literal.integerValue cs).2 <:+ cs := by
  have behind (isDigit : Char → Bool) (rest : List Char) :=
    List.dropWhile_suffix (l := rest) fun c => isDigit c || c == '_'
  unfold Literal.integerValue
  split
  · exact (behind Scan.isHex _).trans ⟨['0', 'x'], rfl⟩
  · exact (behind Char.isDigit _).trans ⟨['0', 'o'], rfl⟩
  · exact (behind Char.isDigit _).trans ⟨['0', 'b'], rfl⟩
  · exact behind Char.isDigit _

theorem resolve_suffixed (l : Lowering) (extent : Extent) {value : String} {τ : IntegerType}
    (suffix : (Literal.integerValue value.toList).2 = τ.integer.chars) :
    resolve (l.lower (.exprLiteral extent .int value : Expr src)) = .ok τ.integer.name := by
  obtain ⟨front, spelled⟩ := suffix_integerValue value.toList
  obtain rfl : value = String.ofList (front ++ τ.integer.chars) := by
    rw [← suffix, spelled, String.ofList_toList]
  rw [resolve_literal]
  show Except.ok ((suffixOf? _ integerSuffixes).getD "i32") = _
  rw [suffixOf?_append (List.subset_append_left _ _),
    if_pos ((mem_integerSuffixes _).mpr τ.isInteger)]
  rfl

theorem resolve_paren (l : Lowering) (extent : Extent) (inner : Expr src) :
    resolve (l.lower (.exprParen extent inner)) = resolve (l.lower inner) :=
  resolve_expression ..

theorem resolve_reference (l : Lowering) (extent : Extent) (inner : Expr src) :
    resolve (l.lower (.exprReference extent false inner)) =
      (resolve (l.lower inner)).map ("&" ++ ·) := by
  refine (resolve_expression ..).trans ?_
  have shared : "&" ++ (if List.lookup "mutable" [("mutable", Lowering.truth false)] ==
      some "true" then "mut " else "") = "&" := by decide
  show (do
    let target ← resolve (l.lower inner)
    return reference [("mutable", Lowering.truth false)] target) = _
  cases resolve (l.lower inner) with
  | error why => rfl
  | ok t => exact congrArg (fun front => Except.ok (front ++ t)) shared

theorem resolve_unary (l : Lowering) (extent : Extent) {operator : Extent} (operand : Expr src)
    (arithmetic : Lowering.text operator ≠ "*") :
    resolve (l.lower (.exprUnary extent operator operand)) = resolve (l.lower operand) := by
  refine (resolve_expression ..).trans ?_
  show (if some (Lowering.text operator) == some "*" then
    .error (.unsupported (.kind "ExprUnary")) else resolve (l.lower operand)) = _
  rw [if_neg]
  simpa using arithmetic

theorem resolve_binary (l : Lowering) (extent : Extent) {operator : Extent} (left right : Expr src)
    (arithmetic : Lowering.text operator ∉ truthOperators) :
    resolve (l.lower (.exprBinary extent operator left right)) = (do
      let a ← resolve (l.lower left)
      let b ← resolve (l.lower right)
      if a == b then return a
      else .error (.unsupported (.operands a (Lowering.text operator) b))) := by
  refine (resolve_expression ..).trans ?_
  show (if truthOperators.contains (Lowering.text operator) then Except.ok "bool" else _) = _
  rw [if_neg (mt List.contains_iff_mem.mp arithmetic)]
  rfl

/-- A type is found for an operator if the same one is found for both operands. -/
theorem resolve_binary_eq_ok_iff (l : Lowering) (extent : Extent) {operator : Extent}
    (left right : Expr src) (arithmetic : Lowering.text operator ∉ truthOperators) (t : String) :
    resolve (l.lower (.exprBinary extent operator left right)) = .ok t ↔
      resolve (l.lower left) = .ok t ∧ resolve (l.lower right) = .ok t := by
  rw [resolve_binary l extent left right arithmetic]
  cases resolve (l.lower left) with
  | error why => simp [bind, Except.bind]
  | ok a =>
    cases resolve (l.lower right) with
    | error why => simp [bind, Except.bind]
    | ok b =>
      by_cases same : a = b
      · simp [bind, Except.bind, pure, Except.pure, same]
      · have unequal : ¬(a = t ∧ b = t) := fun both => same (both.1.trans both.2.symm)
        simp [bind, Except.bind, same, unequal]

theorem HasType.levels_ne_nil {e : Expr src} {τ : IntegerType} (typed : HasType e τ) :
    e.levels ≠ [] := by
  induction typed with
  | literal => exact List.cons_ne_nil _ _
  | paren _ ih | unary _ _ _ ih => exact ih
  | reference _ ih => exact fun none => ih (List.map_eq_nil_iff.mp none)
  | binary _ _ _ _ _ _ ih _ => exact List.append_ne_nil_of_left_ne_nil ih _

/-- A type is found exactly if all literals stand behind equally many references, and then it is the
one with that many of them. -/
theorem HasType.resolve_eq_ok_iff {e : Expr src} {τ : IntegerType} (typed : HasType e τ)
    (l : Lowering) (t : String) :
    resolve (l.lower e) = .ok t ↔ ∃ n, (∀ k ∈ e.levels, k = n) ∧ t = (τ.behind n).text := by
  induction typed generalizing t with
  | @literal extent value τ suffix =>
    rw [resolve_suffixed l extent suffix]
    constructor
    · rintro ⟨⟩
      exact ⟨0, List.forall_mem_singleton.mpr rfl, τ.text_behind_zero.symm⟩
    · rintro ⟨n, level, rfl⟩
      obtain rfl : 0 = n := level 0 (List.mem_singleton_self 0)
      exact congrArg Except.ok τ.text_behind_zero.symm
  | @paren extent inner τ _ ih =>
    rw [resolve_paren]
    exact ih t
  | @reference extent inner τ typed ih =>
    have found : resolve (l.lower (.exprReference extent false inner)) = .ok t ↔
        ∃ u, resolve (l.lower inner) = .ok u ∧ "&" ++ u = t := by
      rw [resolve_reference]
      cases resolve (l.lower inner) <;> simp [Except.map]
    simp only [found, ih]
    constructor
    · rintro ⟨_, ⟨n, level, rfl⟩, rfl⟩
      refine ⟨n + 1, List.forall_mem_map.mpr fun k present => ?_, ?_⟩
      · rw [level k present]
      · exact (τ.text_behind_succ n).symm
    · rintro ⟨m, level, rfl⟩
      have level := List.forall_mem_map.mp level
      -- some literal stands behind the reference, so there is at least this one
      obtain ⟨k, present⟩ := List.exists_mem_of_ne_nil _ typed.levels_ne_nil
      obtain rfl : k + 1 = m := level k present
      refine ⟨_, ⟨k, fun j inside => ?_, rfl⟩, (τ.text_behind_succ k).symm⟩
      exact Nat.succ_inj.mp (level j inside)
  | @unary extent operator operand τ isOperator _ _ ih =>
    have arithmetic : Lowering.text operator ≠ "*" := by
      intro same
      rw [same] at isOperator
      exact absurd isOperator (by decide)
    rw [resolve_unary l extent operand arithmetic]
    exact ih t
  | @binary extent operator left right τ σ isOperator _ _ same _ _ ihLeft ihRight =>
    have arithmetic : Lowering.text operator ∉ truthOperators := by
      have apart : ∀ o ∈ ["+", "-", "*", "/", "%"], o ∉ truthOperators := by decide
      exact apart _ isOperator
    rw [resolve_binary_eq_ok_iff l extent left right arithmetic, ihLeft, ihRight]
    constructor
    · rintro ⟨⟨n, ofLeft, rfl⟩, m, ofRight, agree⟩
      rw [← IntegerType.behind_eq_behind same, IntegerType.text_behind_inj] at agree
      subst agree
      exact ⟨n, List.forall_mem_append.mpr ⟨ofLeft, ofRight⟩, rfl⟩
    · rintro ⟨n, level, rfl⟩
      obtain ⟨ofLeft, ofRight⟩ := List.forall_mem_append.mp level
      refine ⟨⟨n, ofLeft, rfl⟩, n, ofRight, ?_⟩
      rw [← IntegerType.behind_eq_behind same]
      rfl

/-! ## What is right -/

/-- The expressions of a type with references are the references. -/
theorem HasType.isReference_iff {e : Expr src} {τ : IntegerType} (typed : HasType e τ) :
    e.isReference = true ↔ 0 < τ.references := by
  induction typed with
  | literal | unary | binary => exact iff_of_false nofun (Nat.lt_irrefl 0)
  | paren _ ih => exact ih
  | @reference _ _ τ => exact iff_of_true rfl (Nat.succ_pos τ.references)

/-- Every literal stands behind the references of the type. -/
theorem HasType.references_le {e : Expr src} {τ : IntegerType} (typed : HasType e τ) :
    ∀ k ∈ e.levels, τ.references ≤ k := by
  induction typed with
  | literal | unary | binary => exact fun k _ => Nat.zero_le k
  | paren _ ih => exact ih
  | reference _ ih => exact List.forall_mem_map.mpr fun k present => Nat.succ_le_succ (ih k present)

/-- There is a literal, so if all stand behind equally many references, the type has no more. -/
theorem HasType.references_le_level {e : Expr src} {τ : IntegerType} (typed : HasType e τ) {n : Nat}
    (level : ∀ k ∈ e.levels, k = n) : τ.references ≤ n := by
  obtain ⟨k, present⟩ := List.exists_mem_of_ne_nil _ typed.levels_ne_nil
  rw [← level k present]
  exact typed.references_le k present

/-- The literals of an operand stand behind no references, if it is none and the operands in it are
none. -/
theorem HasType.levels_eq_zero_iff {o : Expr src} {τ : IntegerType} (typed : HasType o τ)
    (inner : (∀ k ∈ o.levels, k = τ.references) ↔ ∀ p ∈ o.operands, p.isReference = false) :
    (∀ k ∈ o.levels, k = 0) ↔ o.isReference = false ∧ ∀ p ∈ o.operands, p.isReference = false := by
  have plain : o.isReference = false ↔ τ.references = 0 := by
    rw [← Bool.not_eq_true, typed.isReference_iff, Nat.pos_iff_ne_zero, not_not]
  rw [plain, ← inner]
  constructor
  · intro level
    have none : τ.references = 0 := Nat.le_zero.mp (typed.references_le_level level)
    exact ⟨none, none ▸ level⟩
  · rintro ⟨none, level⟩
    exact none ▸ level

/-- All literals stand behind just the references of the type, if no operand is a reference. -/
theorem HasType.levels_eq_iff {e : Expr src} {τ : IntegerType} (typed : HasType e τ) :
    (∀ k ∈ e.levels, k = τ.references) ↔ ∀ o ∈ e.operands, o.isReference = false := by
  induction typed with
  | literal => exact iff_of_true (List.forall_mem_singleton.mpr rfl) (List.forall_mem_nil _)
  | paren _ ih => exact ih
  | @reference extent inner τ _ ih =>
    refine Iff.trans ?_ ih
    show (∀ k ∈ inner.levels.map (· + 1), k = τ.references + 1) ↔ _
    simp only [List.forall_mem_map, Nat.add_right_cancel_iff]
  | @unary extent operator operand τ _ typed _ ih =>
    show (∀ k ∈ operand.levels, k = 0) ↔ ∀ o ∈ operand :: operand.operands, _
    rw [typed.levels_eq_zero_iff ih, List.forall_mem_cons]
  | @binary extent operator left right τ σ _ typed typed' _ _ _ ihLeft ihRight =>
    show (∀ k ∈ left.levels ++ right.levels, k = 0) ↔
      ∀ o ∈ left :: right :: (left.operands ++ right.operands), _
    rw [List.forall_mem_append, typed.levels_eq_zero_iff ihLeft, typed'.levels_eq_zero_iff ihRight,
      List.forall_mem_cons, List.forall_mem_cons, List.forall_mem_append, and_and_and_comm,
      and_assoc]

/-- An expression of arithmetic has one type. A type is found for it exactly if all literals stand
behind equally many references, and then it is the one with that many of them. It is the right one
exactly if no operand is a reference, and otherwise it has more references. -/
theorem arithmetic_type (l : Lowering) {e : Expr src} {τ : IntegerType} (typed : HasType e τ) :
    (∀ σ, HasType e σ → σ = τ) ∧
    (∀ t, resolve (l.lower e) = .ok t ↔ ∃ n, (∀ k ∈ e.levels, k = n) ∧ t = (τ.behind n).text) ∧
    (resolve (l.lower e) = .ok τ.text ↔ ∀ o ∈ e.operands, o.isReference = false) ∧
    ∀ t, resolve (l.lower e) = .ok t →
      t = τ.text ∨ ∃ n > τ.references, t = (τ.behind n).text := by
  have found := typed.resolve_eq_ok_iff l
  refine ⟨fun σ typed' => typed'.unique typed, found, ?_, fun t resolved => ?_⟩
  · rw [found, ← typed.levels_eq_iff]
    constructor
    · rintro ⟨n, level, same⟩
      obtain rfl : τ.references = n := τ.text_behind_inj.mp same
      exact level
    · intro level
      exact ⟨τ.references, level, rfl⟩
  · obtain ⟨n, level, rfl⟩ := (found t).mp resolved
    rcases Nat.eq_or_lt_of_le (typed.references_le_level level) with rfl | more
    · exact .inl rfl
    · exact .inr ⟨n, more, rfl⟩

/-- The expressions `&(0xFi64 * -2i64)` and `&(-&2i64)`, which are both references to an integer. -/
theorem arithmetic_type_nested :
    let sign (text : String) : Extent := [.token text false ⟨⟨1, 0⟩, ⟨1, 1⟩⟩]
    let fifteen : Expr [] := .exprLiteral [] .int "0xFi64"
    let two : Expr [] := .exprLiteral [] .int "2i64"
    let product : Expr [] := .exprBinary [] (sign "*") fifteen (.exprUnary [] (sign "-") two)
    let negation : Expr [] := .exprUnary [] (sign "-") (.exprReference [] false two)
    let τ : IntegerType := ⟨1, .i64, rfl⟩
    let l := Lowering.ofSource ""
    (HasType (.exprReference [] false (.exprParen [] product)) τ ∧
      resolve (l.lower (.exprReference [] false (.exprParen [] product))) = .ok "&i64") ∧
    HasType (.exprReference [] false (.exprParen [] negation)) τ ∧
      resolve (l.lower (.exprReference [] false (.exprParen [] negation))) = .ok "&&i64" := by
  intro sign fifteen two product negation τ l
  have isFifteen : HasType fifteen (τ.behind 0) := .literal (by decide)
  have isTwo : HasType two (τ.behind 0) := .literal (by decide)
  have isProduct : HasType product ((τ.behind 0).behind 0) :=
    .binary (by decide) isFifteen (.unary (by decide) isTwo (by decide)) rfl (by decide) (by decide)
  have isNegation : HasType negation (((τ.behind 0).behind 1).behind 0) :=
    .unary (by decide) (.reference isTwo) (by decide)
  have isFirst : HasType (.exprReference [] false (.exprParen [] product)) τ :=
    .reference (.paren isProduct)
  have isSecond : HasType (.exprReference [] false (.exprParen [] negation)) τ :=
    .reference (.paren isNegation)
  refine ⟨⟨isFirst, ?_⟩, isSecond, ?_⟩
  · refine (arithmetic_type l isFirst).2.2.1.mpr ?_
    show ∀ o ∈ [fifteen, .exprUnary [] (sign "-") two, two], o.isReference = false
    exact List.forall_mem_cons.mpr ⟨rfl, List.forall_mem_cons.mpr ⟨rfl,
      List.forall_mem_singleton.mpr rfl⟩⟩
  · refine ((arithmetic_type l isSecond).2.1 "&&i64").mpr ⟨2, ?_, by decide⟩
    exact List.forall_mem_singleton.mpr rfl

/-- Where references are added or negated, a reference is found, though the result is none. -/
theorem reference_operands_mistyped :
    let sign (text : String) : Extent := [.token text false ⟨⟨1, 0⟩, ⟨1, 1⟩⟩]
    let one : Expr [] := .exprReference [] false (.exprLiteral [] .int "1i32")
    let two : Expr [] := .exprReference [] false (.exprLiteral [] .int "2i32")
    let sum : Expr [] := .exprBinary [] (sign "+") one two
    let τ : IntegerType := ⟨0, .i32, rfl⟩
    (HasType sum τ ∧ τ.text = "i32" ∧ resolve ((Lowering.ofSource "").lower sum) = .ok "&i32") ∧
    Source.constantType? "const A: i32 = &1i32 + &2i32;" = some "&i32" ∧
    Source.constantType? "const A: i32 = -&1i32;" = some "&i32" := by
  intro sign one two sum τ
  have isLiteral (value : String)
      (suffix : (Literal.integerValue value.toList).2 = τ.integer.chars) :
      HasType (.exprLiteral [] .int value : Expr []) (τ.behind 0) := .literal suffix
  have isOne : HasType one (τ.behind 1) := .reference (isLiteral "1i32" (by decide))
  have isTwo : HasType two (τ.behind 1) := .reference (isLiteral "2i32" (by decide))
  have isSum : HasType sum τ := .binary (by decide) isOne isTwo rfl (by decide) (by decide)
  refine ⟨⟨isSum, by decide, ?_⟩, ?_, ?_⟩
  · decide +kernel
  · decide +kernel
  · decide +kernel

end Typing

end SyntaxExport
