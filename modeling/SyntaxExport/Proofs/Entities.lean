import Mathlib.Data.List.Infix
import SyntaxExport.Text.Escape

/-!
# Reading data back

Graph-markup data writes the angle brackets as entities and leaves the ampersand alone, so a value
that spells out an entity is written like the bracket. `unescapeData` undoes the two replacements,
the last one first. What it gives for an escaped value is what it gives for the value itself, so it
gives the value back where there was nothing to undo. Markup inside labels writes the ampersand as
an entity too, so there every text can be read back.

Results:
1. `resolve_flatMap_expand`: what was written as an entity reads as if it had not been.
2. `resolve_eq_self_iff`: reading changes exactly the texts with an entity.
3. `unescapeData_escapeData_eq_iff`: which values are read back.
4. `decodeEntities_escapeEntities`: all texts of labels are read back.
-/

namespace SyntaxExport.Text

/-- The text with every `&` that has `name` after it, and that name, replaced by `c`. -/
def resolve (name : List Char) (c : Char) : List Char → List Char
  | [] => []
  | head :: rest =>
      if head = '&' ∧ name <+: rest then c :: resolve name c (rest.drop name.length)
      else head :: resolve name c rest
termination_by text => text.length
decreasing_by
  · rw [List.length_drop, List.length_cons]
    omega
  · exact Nat.lt_succ_self _

/-- A character, with `c` written as the entity of that name. -/
def expand (name : List Char) (c d : Char) : List Char :=
  if d = c then '&' :: name else [d]

/-- Body of a graph-markup data element, read back. -/
def unescapeData (s : String) : String :=
  String.ofList (resolve ['l', 't', ';'] '<' (resolve ['g', 't', ';'] '>' s.toList))

theorem resolve_cons_of_ne {name : List Char} {c head : Char} (plain : head ≠ '&')
    (rest : List Char) : resolve name c (head :: rest) = head :: resolve name c rest := by
  rw [resolve, if_neg fun both => plain both.1]

theorem resolve_entity (name : List Char) (c : Char) (rest : List Char) :
    resolve name c ('&' :: (name ++ rest)) = c :: resolve name c rest := by
  rw [resolve, if_pos ⟨rfl, List.prefix_append ..⟩, List.drop_left]

theorem resolve_append_of_not_mem {name : List Char} {c : Char} {front : List Char}
    (plain : '&' ∉ front) (rest : List Char) :
    resolve name c (front ++ rest) = front ++ resolve name c rest := by
  induction front with
  | nil => rfl
  | cons head tail ih =>
    rw [List.mem_cons, not_or] at plain
    rw [List.cons_append, resolve_cons_of_ne (Ne.symm plain.1), ih plain.2, List.cons_append]

/-! ## What was written -/

/-- Entities stand where brackets stood, so a name without either is found at the same places. -/
theorem prefix_flatMap_expand_iff {name word : List Char} {c : Char} (noBracket : c ∉ word)
    (noMark : '&' ∉ word) (text : List Char) :
    word <+: text.flatMap (expand name c) ↔ word <+: text := by
  induction word generalizing text with
  | nil => simp
  | cons w word ih =>
    rw [List.mem_cons, not_or] at noBracket noMark
    cases text with
    | nil => rfl
    | cons d rest =>
      rw [List.flatMap_cons, expand]
      split
      · next isBracket =>
        rw [List.cons_append, List.cons_prefix_cons, List.cons_prefix_cons, isBracket]
        exact iff_of_false (fun both => noMark.1 both.1.symm) fun both => noBracket.1 both.1.symm
      · rw [List.cons_append, List.nil_append, List.cons_prefix_cons, List.cons_prefix_cons,
          ih noBracket.2 noMark.2]

theorem flatMap_expand_of_not_mem {name front : List Char} {c : Char} (plain : c ∉ front) :
    front.flatMap (expand name c) = front := by
  induction front with
  | nil => rfl
  | cons head tail ih =>
    rw [List.mem_cons, not_or] at plain
    rw [List.flatMap_cons, expand, if_neg (Ne.symm plain.1), ih plain.2]
    rfl

/-- An entity that was written reads as the bracket, and one that was there already too. -/
theorem resolve_flatMap_expand {name : List Char} {c : Char} (noBracket : c ∉ name)
    (noMark : '&' ∉ name) (bracket : c ≠ '&') (text : List Char) :
    resolve name c (text.flatMap (expand name c)) = resolve name c text := by
  fun_induction resolve name c text with
  | case1 => rw [List.flatMap_nil, resolve]
  | case2 head rest found ih =>
    obtain ⟨rfl, after, rfl⟩ := found
    rw [List.drop_left] at ih
    rw [List.flatMap_cons, expand, if_neg (Ne.symm bracket), List.flatMap_append,
      flatMap_expand_of_not_mem noBracket, List.singleton_append, resolve_entity, ih,
      List.drop_left]
  | case3 head rest missing ih =>
    rw [List.flatMap_cons, expand]
    split
    · next isBracket =>
      rw [List.cons_append, resolve_entity, ih, isBracket]
    · rw [List.singleton_append, resolve, if_neg, ih]
      rintro ⟨isMark, found⟩
      exact missing ⟨isMark, (prefix_flatMap_expand_iff noBracket noMark rest).mp found⟩

/-- One entity is read the same before and after another bracket is written. -/
theorem resolve_flatMap_expand_other {name other : List Char} {c d : Char} (noBracket : d ∉ name)
    (noMark : '&' ∉ name) (otherMark : '&' ∉ other) (bracket : d ≠ '&') (distinct : c ≠ d)
    (apart : ∀ rest, ¬ name <+: other ++ rest) (text : List Char) :
    resolve name c (text.flatMap (expand other d)) =
      (resolve name c text).flatMap (expand other d) := by
  fun_induction resolve name c text with
  | case1 => rw [List.flatMap_nil, resolve]
  | case2 head rest found ih =>
    obtain ⟨rfl, after, rfl⟩ := found
    rw [List.drop_left] at ih ⊢
    rw [List.flatMap_cons, expand, if_neg (Ne.symm bracket), List.flatMap_append,
      flatMap_expand_of_not_mem noBracket, List.singleton_append, resolve_entity, ih,
      List.flatMap_cons, expand, if_neg distinct, List.singleton_append]
  | case3 head rest missing ih =>
    rw [List.flatMap_cons, List.flatMap_cons, ← ih, expand]
    split
    · next isBracket =>
      -- the mark of the new entity is kept, as another name follows it
      rw [List.cons_append, List.cons_append, resolve, if_neg fun both => apart _ both.2,
        resolve_append_of_not_mem otherMark]
    · rw [List.singleton_append, List.singleton_append, resolve, if_neg]
      rintro ⟨isMark, found⟩
      exact missing ⟨isMark, (prefix_flatMap_expand_iff noBracket noMark rest).mp found⟩

/-! ## What is there to undo -/

theorem length_resolve_le (name : List Char) (c : Char) (text : List Char) :
    (resolve name c text).length ≤ text.length := by
  fun_induction resolve name c text with
  | case1 => exact Nat.le_refl _
  | case2 head rest found ih =>
    rw [List.length_drop] at ih
    rw [List.length_cons, List.length_cons]
    omega
  | case3 head rest missing ih =>
    rw [List.length_cons, List.length_cons]
    omega

theorem length_resolve_lt {name : List Char} {c : Char} (named : name ≠ []) {text : List Char}
    (found : ('&' :: name) <:+: text) : (resolve name c text).length < text.length := by
  have long : 0 < name.length := List.length_pos_iff.mpr named
  fun_induction resolve name c text with
  | case1 => cases List.infix_nil.mp found
  | case2 head rest here _ =>
    have shorter := length_resolve_le name c (rest.drop name.length)
    have inside := here.2.length_le
    rw [List.length_drop] at shorter
    rw [List.length_cons, List.length_cons]
    omega
  | case3 head rest missing ih =>
    rcases List.infix_cons_iff.mp found with here | later
    · obtain ⟨isMark, follows⟩ := List.cons_prefix_cons.mp here
      exact absurd ⟨isMark.symm, follows⟩ missing
    · rw [List.length_cons, List.length_cons]
      exact Nat.succ_lt_succ (ih later)

theorem resolve_eq_self {name : List Char} {c : Char} {text : List Char}
    (missing : ¬ ('&' :: name) <:+: text) : resolve name c text = text := by
  fun_induction resolve name c text with
  | case1 => rfl
  | case2 head rest here _ =>
    refine absurd (List.IsPrefix.isInfix ?_) missing
    exact List.cons_prefix_cons.mpr ⟨here.1.symm, here.2⟩
  | case3 head rest _ ih =>
    rw [ih fun later => missing (List.infix_cons later)]

theorem resolve_eq_self_iff {name : List Char} {c : Char} (named : name ≠ []) {text : List Char} :
    resolve name c text = text ↔ ¬ ('&' :: name) <:+: text := by
  refine ⟨fun same found => ?_, resolve_eq_self⟩
  have shorter := length_resolve_lt (c := c) named found
  rw [same] at shorter
  exact Nat.lt_irrefl _ shorter

/-! ## Data elements -/

theorem flatMap_dataChar (text : List Char) :
    text.flatMap dataChar =
      (text.flatMap (expand ['l', 't', ';'] '<')).flatMap (expand ['g', 't', ';'] '>') := by
  rw [List.flatMap_assoc]
  refine congrArg (text.flatMap ·) (funext fun d => ?_)
  unfold dataChar expand
  split
  · rfl
  · rfl
  · next noLess noGreater =>
    rw [if_neg noLess, List.flatMap_singleton, if_neg noGreater]

/-- To read an escaped value is to read the value. -/
theorem unescapeData_escapeData (s : String) : unescapeData (escapeData s) = unescapeData s := by
  unfold unescapeData escapeData replaceEach
  rw [String.toList_ofList, flatMap_dataChar,
    resolve_flatMap_expand (by decide) (by decide) (by decide),
    resolve_flatMap_expand_other (by decide) (by decide) (by decide) (by decide) (by decide) ?_,
    resolve_flatMap_expand (by decide) (by decide) (by decide)]
  intro rest found
  exact absurd (List.cons_prefix_cons.mp found).1 (by decide)

theorem unescapeData_eq_self_iff (s : String) :
    unescapeData s = s ↔ ¬ "&lt;".toList <:+: s.toList ∧ ¬ "&gt;".toList <:+: s.toList := by
  have same : unescapeData s = s ↔
      resolve ['l', 't', ';'] '<' (resolve ['g', 't', ';'] '>' s.toList) = s.toList := by
    rw [← String.toList_inj, unescapeData, String.toList_ofList]
  have greaterKept (noGreater : ¬ "&gt;".toList <:+: s.toList) :
      resolve ['g', 't', ';'] '>' s.toList = s.toList := resolve_eq_self noGreater
  rw [same]
  constructor
  · intro kept
    -- what the first replacement takes away the second does not bring back
    have noGreater : ¬ "&gt;".toList <:+: s.toList := by
      intro found
      have once : (resolve ['g', 't', ';'] '>' s.toList).length < s.toList.length :=
        length_resolve_lt (by decide) found
      have twice := length_resolve_le ['l', 't', ';'] '<' (resolve ['g', 't', ';'] '>' s.toList)
      rw [kept] at twice
      omega
    rw [greaterKept noGreater] at kept
    exact ⟨(resolve_eq_self_iff (by decide)).mp kept, noGreater⟩
  · rintro ⟨noLess, noGreater⟩
    rw [greaterKept noGreater]
    exact resolve_eq_self noLess

theorem unescapeData_escapeData_eq_iff (s : String) : unescapeData (escapeData s) = s ↔
    ¬ "&lt;".toList <:+: s.toList ∧ ¬ "&gt;".toList <:+: s.toList := by
  rw [unescapeData_escapeData, unescapeData_eq_self_iff]

/-! ## Markup inside labels -/

/-- The characters with each of the five entities replaced by the character it stands for. -/
def decodeEntities : List Char → List Char
  | '&' :: 'l' :: 't' :: ';' :: rest => '<' :: decodeEntities rest
  | '&' :: 'g' :: 't' :: ';' :: rest => '>' :: decodeEntities rest
  | '&' :: 'a' :: 'm' :: 'p' :: ';' :: rest => '&' :: decodeEntities rest
  | '&' :: 'q' :: 'u' :: 'o' :: 't' :: ';' :: rest => '"' :: decodeEntities rest
  | '&' :: '#' :: '3' :: '9' :: ';' :: rest => '\'' :: decodeEntities rest
  | c :: rest => c :: decodeEntities rest
  | [] => []

theorem decodeEntities_cons {c : Char} (plain : c ≠ '&') (rest : List Char) :
    decodeEntities (c :: rest) = c :: decodeEntities rest := by
  conv_lhs => unfold decodeEntities
  split <;> simp_all

theorem decodeEntities_entityChar (c : Char) (rest : List Char) :
    decodeEntities (entityChar c ++ rest) = c :: decodeEntities rest := by
  unfold entityChar
  split
  · rfl
  · rfl
  · rfl
  · rfl
  · rfl
  · next noMark _ _ => exact decodeEntities_cons noMark rest

/-- Text of markup is read back as it was. -/
theorem decodeEntities_escapeEntities (s : String) :
    decodeEntities (escapeEntities s).toList = s.toList := by
  rw [escapeEntities, replaceEach, String.toList_ofList]
  induction s.toList with
  | nil => rfl
  | cons c rest ih => rw [List.flatMap_cons, decodeEntities_entityChar, ih]

end SyntaxExport.Text
