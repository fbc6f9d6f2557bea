import Mathlib.Algebra.Group.Nat.Even
import SyntaxExport.Text.Escape

/-!
# Texts between quotes

Names of lists in the graph description and values in the query script stand between quotes. A quote
inside of them gets a backslash, and a backslash gets none. Whoever reads such a literal takes each
backslash together with the character behind it, so a backslash of the text itself can take the
place of the one that protects a quote. Backslashes in pairs do no harm, whatever stands behind
them.

Results:
1. `evenRuns_pair`, `evenRuns_single`: which backslashes in front of a text make no difference.
2. `endsBy_protect`: a literal ends behind its text, before that, or not at all.
3. `literal_closed_iff`: which texts stay between their quotes.
-/

namespace SyntaxExport.Text

/-! ## Literals -/

/-- The quotes of literals in which a backslash protects the character behind it. -/
inductive QuoteMark where
  | single
  | double
  deriving DecidableEq, Repr

namespace QuoteMark

/-- The quote itself. -/
def char : QuoteMark → Char
  | single => '\''
  | double => '"'

/-- The text as it is written between two such quotes. -/
def escape : QuoteMark → String → String
  | single => escapeQuery
  | double => escapeLabel

/-- The literal of a text. -/
def literal (mark : QuoteMark) (text : String) : List Char :=
  mark.char :: ((mark.escape text).toList ++ [mark.char])

end QuoteMark

/-- Reads a literal behind its opening quote. Gives what stands inside and what follows the closing
quote. -/
def readBody (quote : Char) : List Char → Option (List Char × List Char)
  | [] => none
  | ['\\'] => none
  | '\\' :: c :: rest => (readBody quote rest).map fun r => ('\\' :: c :: r.1, r.2)
  | c :: rest =>
      if c = quote then some ([], rest) else (readBody quote rest).map fun r => (c :: r.1, r.2)

/-- Reads a literal. -/
def readLiteral (quote : Char) : List Char → Option (List Char × List Char)
  | [] => none
  | c :: rest => if c = quote then readBody quote rest else none

/-- Each maximal run of backslashes before a quote or at the end of the text has an even length. -/
def EvenRuns (quote : Char) (text : List Char) : Prop :=
  ∀ front count back, text = front ++ (List.replicate count '\\' ++ back) →
    front.getLast? ≠ some '\\' → back = [] ∨ back.head? = some quote → Even count

variable {quote : Char}

/-! ## Runs of backslashes -/

theorem evenRuns_nil : EvenRuns quote [] := by
  intro front count back split _ _
  have length := congrArg List.length split
  rw [List.length_append, List.length_append, List.length_replicate, List.length_nil] at length
  have none_there : count = 0 := by omega
  exact none_there ▸ Even.zero

/-- A character in front of a text makes no difference, unless it is a backslash. -/
theorem evenRuns_cons {c : Char} (other : c ≠ '\\') {text : List Char} :
    EvenRuns quote (c :: text) ↔ EvenRuns quote text := by
  constructor
  · intro even front count back split maximal ends
    refine even (c :: front) count back (by rw [split, List.cons_append]) ?_ ends
    cases front with
    | nil => exact fun last => other (Option.some.inj last)
    | cons d front => rwa [List.getLast?_cons_cons]
  · intro even front count back split maximal ends
    cases front with
    | nil =>
      cases count with
      | zero => exact Even.zero
      | succ count => exact absurd (List.cons.inj split).1 other
    | cons d front =>
      refine even front count back (List.cons.inj split).2 ?_ ends
      cases front with
      | nil => exact fun last => nomatch last
      | cons e front => rwa [List.getLast?_cons_cons] at maximal

/-- Nor does a pair of backslashes. -/
theorem evenRuns_pair (protects : quote ≠ '\\') {text : List Char} :
    EvenRuns quote ('\\' :: '\\' :: text) ↔ EvenRuns quote text := by
  constructor
  · intro even front count back split maximal ends
    cases front with
    | nil =>
      have both := even [] (count + 2) back (by rw [split]; rfl) (fun last => nomatch last) ends
      exact (Nat.even_add.mp both).mpr (by decide)
    | cons d front =>
      refine even ('\\' :: '\\' :: d :: front) count back (by rw [split]; rfl) ?_ ends
      rwa [List.getLast?_cons_cons, List.getLast?_cons_cons]
  · intro even front count back split maximal ends
    match front, count with
    | [], 0 => exact Even.zero
    | [], 1 =>
      obtain rfl : '\\' :: text = back := (List.cons.inj split).2
      rcases ends with ends | ends
      · cases ends
      · exact absurd (Option.some.inj ends).symm protects
    | [], count + 2 =>
      have behind : text = [] ++ (List.replicate count '\\' ++ back) :=
        (List.cons.inj (List.cons.inj split).2).2
      exact (even [] count back behind (fun last => nomatch last) ends).add (by decide)
    | [d], _ =>
      obtain rfl : '\\' = d := (List.cons.inj split).1
      exact absurd rfl maximal
    | [d, e], _ =>
      obtain rfl : '\\' = e := (List.cons.inj (List.cons.inj split).2).1
      exact absurd rfl maximal
    | d :: e :: f :: front, count =>
      have behind : text = f :: front ++ (List.replicate count '\\' ++ back) :=
        (List.cons.inj (List.cons.inj split).2).2
      refine even (f :: front) count back behind ?_ ends
      rwa [List.getLast?_cons_cons, List.getLast?_cons_cons] at maximal

/-- Nor does a backslash before a character that is neither a backslash nor a quote. -/
theorem evenRuns_single {c : Char} (other : c ≠ '\\') (inner : c ≠ quote) {text : List Char} :
    EvenRuns quote ('\\' :: c :: text) ↔ EvenRuns quote text := by
  refine Iff.trans ?_ (evenRuns_cons other)
  constructor
  · intro even front count back split maximal ends
    cases front with
    | nil =>
      cases count with
      | zero => exact Even.zero
      | succ count => exact absurd (List.cons.inj split).1 other
    | cons d front =>
      refine even ('\\' :: d :: front) count back (by rw [split]; rfl) ?_ ends
      rwa [List.getLast?_cons_cons]
  · intro even front count back split maximal ends
    match front, count with
    | [], 0 => exact Even.zero
    | [], 1 =>
      obtain rfl : c :: text = back := (List.cons.inj split).2
      rcases ends with ends | ends
      · cases ends
      · exact absurd (Option.some.inj ends) inner
    | [], count + 2 => exact absurd (List.cons.inj (List.cons.inj split).2).1 other
    | [d], _ =>
      obtain rfl : '\\' = d := (List.cons.inj split).1
      exact absurd rfl maximal
    | d :: e :: front, count =>
      refine even (e :: front) count back (List.cons.inj split).2 ?_ ends
      rwa [List.getLast?_cons_cons] at maximal

/-- A single backslash at the end or before a quote is a run of odd length. -/
theorem not_evenRuns {back : List Char} (ends : back = [] ∨ back.head? = some quote) :
    ¬EvenRuns quote ('\\' :: back) := by
  intro even
  have one := even [] 1 back rfl (fun last => nomatch last) ends
  exact absurd one (by decide)

/-! ## Reading -/

theorem readBody_pair (c : Char) (rest : List Char) :
    readBody quote ('\\' :: c :: rest) =
      (readBody quote rest).map fun r => ('\\' :: c :: r.1, r.2) := by
  rw [readBody]

theorem readBody_cons {c : Char} (other : c ≠ '\\') (rest : List Char) :
    readBody quote (c :: rest) =
      if c = quote then some ([], rest)
      else (readBody quote rest).map fun r => (c :: r.1, r.2) := by
  rw [readBody]
  · exact fun same => absurd same other
  · exact fun _ _ same => absurd same other

/-- The stretch of text is read as a part of what stands inside, whatever comes next. -/
def Taken (quote : Char) (front : List Char) : Prop :=
  ∀ rest, readBody quote (front ++ rest) =
    (readBody quote rest).map fun r => (front ++ r.1, r.2)

theorem taken_pair (c : Char) : Taken quote ['\\', c] :=
  readBody_pair c

theorem taken_char {c : Char} (other : c ≠ '\\') (inner : c ≠ quote) : Taken quote [c] := by
  intro rest
  rw [List.singleton_append, readBody_cons other, if_neg inner]
  rfl

/-! ## How literals end -/

/-- The literal ends behind what was written. -/
def Closes (quote : Char) (written : List Char) : Prop :=
  ∀ rest, readBody quote (written ++ quote :: rest) = some (written, rest)

/-- The literal ends before that, and the rest of what was written stands outside of it. -/
def Breaks (quote : Char) (written : List Char) : Prop :=
  ∃ body back, written = body ++ quote :: back ∧
    ∀ rest, readBody quote (written ++ quote :: rest) = some (body, back ++ quote :: rest)

/-- The literal goes on with what follows it. -/
def StaysOpen (quote : Char) (written : List Char) : Prop :=
  ∀ rest, readBody quote (written ++ quote :: rest) =
    (readBody quote rest).map fun r => (written ++ quote :: r.1, r.2)

theorem closes_nil (protects : quote ≠ '\\') : Closes quote [] := by
  intro rest
  rw [List.nil_append, readBody_cons protects, if_pos rfl]

theorem Closes.after {front written : List Char} (taken : Taken quote front)
    (closes : Closes quote written) : Closes quote (front ++ written) := by
  intro rest
  rw [List.append_assoc, taken, closes]
  rfl

theorem Breaks.after {front written : List Char} (taken : Taken quote front)
    (breaks : Breaks quote written) : Breaks quote (front ++ written) := by
  obtain ⟨body, back, rfl, ends⟩ := breaks
  refine ⟨front ++ body, back, (List.append_assoc ..).symm, fun rest => ?_⟩
  rw [List.append_assoc front, taken, ends]
  rfl

theorem StaysOpen.after {front written : List Char} (taken : Taken quote front)
    (isOpen : StaysOpen quote written) : StaysOpen quote (front ++ written) := by
  intro rest
  rw [List.append_assoc, taken, isOpen, Option.map_map]
  simp only [Function.comp_def, List.append_assoc]

/-- What is written for a character. -/
def protect (quote c : Char) : List Char :=
  if c = quote then ['\\', quote] else [c]

/-- The literal of a text ends behind it exactly if the runs of backslashes that matter are even,
and in no other way. -/
structure EndsBy (quote : Char) (text written : List Char) : Prop where
  whole : EvenRuns quote text → Closes quote written
  other : ¬EvenRuns quote text → Breaks quote written ∨ StaysOpen quote written

theorem EndsBy.after {text text' front written : List Char} (taken : Taken quote front)
    (same : EvenRuns quote text' ↔ EvenRuns quote text) (ends : EndsBy quote text written) :
    EndsBy quote text' (front ++ written) where
  whole even := (ends.whole (same.mp even)).after taken
  other odd := (ends.other (mt same.mpr odd)).imp (·.after taken) (·.after taken)

theorem endsBy_protect (protects : quote ≠ '\\') (text : List Char) :
    EndsBy quote text (text.flatMap (protect quote)) := by
  match text with
  | [] => exact ⟨fun _ => closes_nil protects, fun odd => absurd evenRuns_nil odd⟩
  | c :: text =>
    have ends := endsBy_protect protects text
    rw [List.flatMap_cons]
    by_cases backslash : c = '\\'
    · subst backslash
      have written : protect quote '\\' = ['\\'] := if_neg protects.symm
      rw [written]
      match text with
      | [] =>
        -- the backslash of the text protects the closing quote
        refine ⟨fun even => absurd even (not_evenRuns (.inl rfl)), fun _ => .inr ?_⟩
        exact fun rest => readBody_pair quote rest
      | d :: text =>
        have ends := endsBy_protect protects text
        rw [List.flatMap_cons]
        by_cases quoted : d = quote
        · -- it protects the backslash that the quote has got
          subst quoted
          have written : protect d d = ['\\', d] := if_pos rfl
          rw [written]
          refine ⟨fun even => absurd even (not_evenRuns (.inr rfl)), fun _ => .inl ?_⟩
          refine ⟨['\\', '\\'], text.flatMap (protect d), rfl, fun rest => ?_⟩
          show readBody d ('\\' :: '\\' :: d :: (text.flatMap (protect d) ++ d :: rest)) = _
          rw [readBody_pair, readBody_cons protects, if_pos rfl]
          rfl
        · have written : protect quote d = [d] := if_neg quoted
          rw [written]
          show EndsBy quote _ (['\\', d] ++ text.flatMap (protect quote))
          refine ends.after (taken_pair d) ?_
          by_cases pair : d = '\\'
          · subst pair
            exact evenRuns_pair protects
          · exact evenRuns_single pair quoted
    · refine ends.after ?_ (evenRuns_cons backslash)
      unfold protect
      split
      · exact taken_pair quote
      · next inner => exact taken_char backslash inner
termination_by text.length

/-! ## Which texts stay between their quotes -/

namespace QuoteMark

theorem char_ne_backslash (mark : QuoteMark) : mark.char ≠ '\\' := by
  cases mark <;> decide

theorem toList_escape (mark : QuoteMark) (text : String) :
    (mark.escape text).toList = text.toList.flatMap (protect mark.char) := by
  cases mark <;> exact String.toList_ofList

theorem readLiteral_literal (mark : QuoteMark) (text : String) (rest : List Char) :
    readLiteral mark.char (mark.literal text ++ rest) =
      readBody mark.char ((mark.escape text).toList ++ mark.char :: rest) := by
  rw [literal, List.cons_append, readLiteral, if_pos rfl, List.append_assoc]
  rfl

end QuoteMark

/-- A literal is read as the text that was written and nothing else exactly if each maximal run of
backslashes before a quote or at the end of the text is even. Otherwise it ends within that text, of
which the rest stands outside then, or it goes on with what follows. -/
theorem literal_closed_iff (mark : QuoteMark) (text : String) :
    (∀ rest, readLiteral mark.char (mark.literal text ++ rest) =
        some ((mark.escape text).toList, rest) ↔ EvenRuns mark.char text.toList) ∧
      (¬EvenRuns mark.char text.toList →
        (∃ body back, (mark.escape text).toList = body ++ mark.char :: back ∧
          ∀ rest, readLiteral mark.char (mark.literal text ++ rest) =
            some (body, back ++ mark.char :: rest)) ∨
        ∀ rest, readLiteral mark.char (mark.literal text ++ rest) =
          (readBody mark.char rest).map fun r =>
            ((mark.escape text).toList ++ mark.char :: r.1, r.2)) := by
  have ends := endsBy_protect mark.char_ne_backslash text.toList
  rw [← mark.toList_escape] at ends
  simp only [mark.readLiteral_literal]
  refine ⟨fun rest => ⟨fun read => ?_, fun even => ends.whole even rest⟩, ends.other⟩
  by_contra odd
  rcases ends.other odd with ⟨body, back, split, breaks⟩ | isOpen
  · rw [breaks] at read
    have shorter := congrArg List.length (split.trans
      (congrArg (· ++ mark.char :: back) (Prod.mk.inj (Option.some.inj read)).1))
    rw [List.length_append, List.length_cons] at shorter
    omega
  · rw [isOpen] at read
    obtain ⟨r, -, same⟩ := Option.map_eq_some_iff.mp read
    have longer := congrArg List.length (Prod.mk.inj same).1
    rw [List.length_append, List.length_cons] at longer
    omega

/-- Two backslashes at the end do no harm. One before a quote ends the literal with that quote, and
one at the end takes in what follows. -/
theorem literal_closed_iff_backslashes :
    EvenRuns '"' "a\\\\".toList ∧
      (¬EvenRuns '\'' "\\' b".toList ∧
        readLiteral '\'' (QuoteMark.single.literal "\\' b") =
          some ("\\\\".toList, " b'".toList)) ∧
      ¬EvenRuns '"' "a\\".toList ∧
        readLiteral '"' (QuoteMark.double.literal "a\\" ++ ",\"".toList) =
          some ("a\\\",".toList, []) := by
  have whole := (literal_closed_iff .double "a\\\\").1 []
  have early := (literal_closed_iff .single "\\' b").1 []
  have isOpen := (literal_closed_iff .double "a\\").1 ",\"".toList
  refine ⟨whole.mp (by decide), ⟨mt early.mpr (by decide), by decide⟩, ?_⟩
  exact ⟨mt isOpen.mpr (by decide), by decide⟩

end SyntaxExport.Text
