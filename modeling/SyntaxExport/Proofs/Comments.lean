import Mathlib.Data.List.TakeWhile
import SyntaxExport.Text.Comment

/-!
# Comments in two passes

`stripComments` decides about characters and about lines in one pass. Here both are described on
their own. The first pass marks every character: literals and comments are found from the left and
passed over as a whole. The second pass looks at one line after the other, wherever the line breaks
stand, and drops those of which a comment leaves nothing but blanks.

The one pass does not always break its current line where the source does: a line break in a raw
string, or behind a backslash, stays inside of it. Such a line is never dropped, and neither are the
lines of the source that it consists of, so both passes keep the same text (`Agree`).

Results:
1. `Agree.chars`: at the end of the source, both have kept the same text.
2. `follows_code`, `follows_lineComment`, and so on: what each region does with a character.
3. `follows`: the one pass keeps what the two passes keep, from every region on.
4. `strip_eq_passes`: the same for whole sources.
-/

namespace SyntaxExport.Text

/-! ## First pass: code and comments -/

/-- What a character belongs to: code, or a comment that it starts or goes on with. -/
inductive Mark where
  | code
  | opening
  | inside
  deriving DecidableEq, Repr

/-- A character with its mark. -/
structure Marked where
  char : Char
  mark : Mark
  deriving DecidableEq, Repr

/-- How much of the source belongs to a block comment that is open so many times. -/
def blockLength : (depth : Nat) → List Char → Nat
  | 0, _ => 0
  | _ + 1, [] => 0
  | depth + 1, '/' :: '*' :: rest => blockLength (depth + 2) rest + 2
  | depth + 1, '*' :: '/' :: rest => blockLength depth rest + 2
  | depth + 1, _ :: rest => blockLength (depth + 1) rest + 1

/-- How much of the source belongs to a literal that ends with `close`. A backslash protects the
character behind it. -/
def quotedLength (close : Char) : List Char → Nat
  | [] => 0
  | '\\' :: _ :: rest => quotedLength close rest + 2
  | c :: rest => if c = close then 1 else quotedLength close rest + 1

/-- How much of the source belongs to a raw string, which ends with a quote and so many hashes. -/
def rawLength (hashes : Nat) : List Char → Nat
  | [] => 0
  | c :: rest =>
      if c = '"' ∧ List.replicate hashes '#' <+: rest then hashes + 1
      else rawLength hashes rest + 1

/-- How much of the source belongs to a raw string, from its hashes on. -/
def rawTail (hashes : Nat) : List Char → Nat
  | '#' :: rest => rawTail (hashes + 1) rest + 1
  | '"' :: rest => rawLength hashes rest + 1
  | _ => 0

/-- What starts with a character, and how many more belong to it. -/
inductive Start where
  | code (more : Nat)
  | comment (more : Nat)

/-- What starts with the first character of the source, outside of literals and comments. -/
def startOf (previous : Option Char) : List Char → Start
  | '/' :: '/' :: rest => .comment ((rest.takeWhile (· ≠ '\n')).length + 1)
  | '/' :: '*' :: rest => .comment (blockLength 1 rest + 1)
  | 'r' :: rest => .code (if mayStartRaw previous && opensRaw rest then rawTail 0 rest else 0)
  | '"' :: rest => .code (quotedLength '"' rest)
  | '\'' :: rest => .code (if opensCharacter rest then quotedLength '\'' rest else 0)
  | _ => .code 0

/-- The characters of the source with their marks. The next `more` of them belong to what has been
started, and `previous` stands before them. -/
def marksFrom (previous : Option Char) : (more : Nat) → Mark → List Char → List Marked
  | _, _, [] => []
  | more + 1, mark, c :: rest => ⟨c, mark⟩ :: marksFrom (some c) more mark rest
  | 0, _, c :: rest =>
      match startOf previous (c :: rest) with
      | .code more => ⟨c, .code⟩ :: marksFrom (some c) more .code rest
      | .comment more => ⟨c, .opening⟩ :: marksFrom (some c) more .inside rest

/-- The characters of a source with their marks. -/
def marks (cs : List Char) : List Marked :=
  marksFrom none 0 .code cs

/-! ## Second pass: lines -/

/-- The lines of a source, each with the line break that ends it. `line` is the current one,
backwards. -/
def cutLines (line : List Marked) : List Marked → List (List Marked)
  | [] => [line.reverse]
  | m :: rest =>
      if m.char = '\n' then (m :: line).reverse :: cutLines [] rest else cutLines (m :: line) rest

/-- A comment starts on the line, or the line begins inside of one. -/
def isTouched (line : List Marked) : Bool :=
  line.any (fun m => m.mark == .opening) || line.head?.any fun m => m.mark == .inside

/-- The code of a line and its line break. -/
def remains (line : List Marked) : List Char :=
  (line.filter fun m => m.mark == .code || m.char == '\n').map Marked.char

/-- What is kept of a line: nothing, if a comment touches it and all its code is blank. -/
def keepLine (line : List Marked) : List Char :=
  if isTouched line && (line.filter fun m => m.mark == .code).all fun m => isBlank m.char then []
  else remains line

theorem remains_cons_code (c : Char) (line : List Marked) :
    remains (⟨c, .code⟩ :: line) = c :: remains line := rfl

theorem remains_cons_break (mark : Mark) (line : List Marked) :
    remains (⟨'\n', mark⟩ :: line) = '\n' :: remains line := by
  simp [remains]

theorem remains_cons_comment {m : Marked} (comment : m.mark ≠ .code) (other : m.char ≠ '\n')
    (line : List Marked) : remains (m :: line) = remains line := by
  simp [remains, comment, other]

theorem remains_reverse (line : List Marked) : remains line.reverse = (remains line).reverse := by
  simp [remains]

/-- A line break is blank itself, so it does not matter to what the code of a line is. -/
theorem keepLine_eq (line : List Marked) :
    keepLine line = if isTouched line && (remains line).all isBlank then [] else remains line := by
  have blank : ((line.filter fun m => m.mark == .code).all fun m => isBlank m.char) =
      (remains line).all isBlank := by
    induction line with
    | nil => rfl
    | cons m line ih =>
      obtain ⟨c, mark⟩ := m
      by_cases own : mark = .code
      · subst own
        simp only [remains_cons_code, List.all_cons, ← ih]
        rfl
      · by_cases ends : c = '\n'
        · subst ends
          have isBlank : isBlank '\n' = true := by decide
          rw [remains_cons_break, List.all_cons, isBlank, ← ih]
          simp [own]
        · rw [remains_cons_comment own ends, ← ih]
          simp [own]
  rw [keepLine, blank]

/-- Only the start of a comment makes a difference to a line that has begun. -/
theorem isTouched_snoc {line : List Marked} (begun : line ≠ []) (m : Marked) :
    isTouched (line ++ [m]) = (isTouched line || m.mark == .opening) := by
  cases line with
  | nil => exact absurd rfl begun
  | cons first line =>
    simp only [isTouched, List.any_append, List.cons_append, List.head?_cons, List.any_cons,
      List.any_nil, Bool.or_false, Bool.or_assoc]
    rw [Bool.or_comm (m.mark == .opening)]

theorem isTouched_snoc_code (line : List Marked) (c : Char) :
    isTouched (line ++ [⟨c, .code⟩]) = isTouched line := by
  cases line with
  | nil => rfl
  | cons first line => exact (isTouched_snoc (by simp) _).trans (Bool.or_false _)

theorem isTouched_snoc_opening (line : List Marked) (c : Char) :
    isTouched (line ++ [⟨c, .opening⟩]) = true := by
  cases line with
  | nil => rfl
  | cons first line => exact (isTouched_snoc (by simp) _).trans (Bool.or_true _)

/-- A comment that goes on touches the line if it has touched it before, or begins it. -/
theorem isTouched_snoc_inside {line : List Marked} (before : line = [] ∨ isTouched line = true)
    (c : Char) : isTouched (line ++ [⟨c, .inside⟩]) = true := by
  cases line with
  | nil => rfl
  | cons first line =>
    have touched : isTouched (first :: line) = true := before.resolve_left (by simp)
    rw [isTouched_snoc (by simp), touched, Bool.true_or]

/-! ## The second pass under way -/

/-- The text of the lines so far and the current line, both backwards. -/
structure Page where
  done : List Char
  line : List Marked

namespace Page

/-- The page with one more character. -/
def feed (p : Page) (m : Marked) : Page :=
  if m.char = '\n' then ⟨(keepLine (m :: p.line).reverse).reverse ++ p.done, []⟩
  else ⟨p.done, m :: p.line⟩

/-- What is kept in the end, if these characters come next. -/
def text (p : Page) (rest : List Marked) : List Char :=
  p.done.reverse ++ (cutLines p.line rest).flatMap keepLine

/-- A comment touches the current line. -/
def touched (p : Page) : Bool :=
  isTouched p.line.reverse

/-- The current line would be dropped. -/
def isVoid (p : Page) : Bool :=
  p.touched && (remains p.line).all isBlank

theorem text_cons (p : Page) (m : Marked) (rest : List Marked) :
    p.text (m :: rest) = (p.feed m).text rest := by
  unfold text feed
  rw [cutLines]
  split
  · simp
  · rfl

theorem text_nil (p : Page) :
    p.text [] = (if p.isVoid then p.done else remains p.line ++ p.done).reverse := by
  rw [text, cutLines, List.flatMap_singleton, keepLine_eq, remains_reverse, List.all_reverse]
  unfold isVoid touched
  split <;> simp

theorem feed_of_ne (p : Page) {m : Marked} (other : m.char ≠ '\n') :
    p.feed m = ⟨p.done, m :: p.line⟩ :=
  if_neg other

theorem feed_break (p : Page) (mark : Mark) :
    p.feed ⟨'\n', mark⟩ =
      ⟨if isTouched (p.line.reverse ++ [⟨'\n', mark⟩]) && (remains p.line).all isBlank then p.done
        else '\n' :: (remains p.line ++ p.done), []⟩ := by
  have isBlank : isBlank '\n' = true := by decide
  rw [feed, if_pos rfl, keepLine_eq, remains_reverse, List.all_reverse, remains_cons_break,
    List.all_cons, isBlank, Bool.true_and, List.reverse_cons]
  split <;> simp

theorem feed_break_code (p : Page) :
    p.feed ⟨'\n', .code⟩ =
      ⟨if p.isVoid then p.done else '\n' :: (remains p.line ++ p.done), []⟩ := by
  rw [feed_break, isTouched_snoc_code]
  rfl

theorem touched_feed_code (p : Page) {c : Char} (other : c ≠ '\n') :
    (p.feed ⟨c, .code⟩).touched = p.touched := by
  rw [feed_of_ne p other, touched, List.reverse_cons, isTouched_snoc_code]
  rfl

end Page

/-! ## One pass and two passes agree -/

/-- The same text is kept, though the current line may begin at another line break. -/
def SameText (k : Kept) (p : Page) : Prop :=
  k.line ++ k.finished = remains p.line ++ p.done

/-- The current line is the same. -/
def Level (k : Kept) (p : Page) : Prop :=
  k.finished = p.done ∧ k.line = remains p.line

/-- No current line would be dropped. -/
def Firm (k : Kept) (p : Page) : Prop :=
  SameText k p ∧ k.isVoid = false ∧ p.isVoid = false

/-- No current line will be dropped, whatever comments follow. -/
def Solid (k : Kept) (p : Page) : Prop :=
  SameText k p ∧ k.line.all isBlank = false ∧ (remains p.line).all isBlank = false

/-- How the text kept by the one pass and that of the two passes go together in a region. -/
def Agree : Region → Kept → Page → Prop
  | .code, k, p => Level k p ∧ k.commented = p.touched ∨ Solid k p
  | .lineComment, k, p => Level k p ∧ k.commented = true ∧ p.touched = true ∨ Solid k p
  | .blockComment _, k, p =>
      Level k p ∧ k.commented = true ∧ (p.line = [] ∨ p.touched = true) ∨ Solid k p
  | .rawClosing _, k, p => Solid k p
  | _, k, p => Firm k p

section Agreement

variable {k : Kept} {p : Page}

theorem Level.sameText (level : Level k p) : SameText k p := by
  rw [SameText, level.1, level.2]

theorem Level.isVoid (level : Level k p) (commented : k.commented = p.touched) :
    k.isVoid = p.isVoid := by
  rw [Kept.isVoid, Page.isVoid, commented, level.2]

theorem Solid.firm (solid : Solid k p) : Firm k p := by
  refine ⟨solid.1, ?_, ?_⟩
  · rw [Kept.isVoid, solid.2.1, Bool.and_false]
  · rw [Page.isVoid, solid.2.2, Bool.and_false]

/-- The text is the same at the end of the source. -/
theorem Firm.chars (firm : Firm k p) : k.chars = p.text [] := by
  rw [Kept.chars, firm.2.1, Page.text_nil, firm.2.2]
  exact congrArg List.reverse firm.1

theorem Agree.chars {region : Region} (agree : Agree region k p) : k.chars = p.text [] := by
  have same (level : Level k p) (void : k.isVoid = p.isVoid) : k.chars = p.text [] := by
    rw [Kept.chars, void, Page.text_nil, level.1, level.2]
  match region, agree with
  | .code, .inl ⟨level, commented⟩ => exact same level (level.isVoid commented)
  | .lineComment, .inl ⟨level, commented, touched⟩ =>
    exact same level (level.isVoid (commented.trans touched.symm))
  | .blockComment _, .inl ⟨level, commented, .inr touched⟩ =>
    exact same level (level.isVoid (commented.trans touched.symm))
  | .blockComment _, .inl ⟨level, commented, .inl empty⟩ =>
    -- nothing of the line has been read, so it makes no difference whether it is dropped
    have bare : k.line = [] := by rw [level.2, empty]; rfl
    rw [Kept.chars, Page.text_nil, level.1, bare, empty]
    simp [remains]
  | .code, .inr solid | .lineComment, .inr solid | .blockComment _, .inr solid
  | .rawClosing _, solid => exact Firm.chars (Solid.firm solid)
  | .quoted _, firm | .rawOpening _, firm | .raw _, firm => exact Firm.chars firm

/-! ### Code -/

theorem Agree.sameText (agree : Agree .code k p) : SameText k p :=
  agree.elim (fun level => level.1.sameText) fun solid => solid.1

theorem Solid.push (solid : Solid k p) {c : Char} (other : c ≠ '\n') :
    Solid (k.push c) (p.feed ⟨c, .code⟩) := by
  obtain ⟨same, full, full'⟩ := solid
  rw [Page.feed_of_ne p other]
  refine ⟨congrArg (List.cons c) same, ?_, ?_⟩
  · rw [Kept.push, List.all_cons, full, Bool.and_false]
  · rw [remains_cons_code, List.all_cons, full', Bool.and_false]

theorem Agree.push (agree : Agree .code k p) {c : Char} (other : c ≠ '\n') :
    Agree .code (k.push c) (p.feed ⟨c, .code⟩) := by
  rcases agree with ⟨level, commented⟩ | solid
  · refine .inl ⟨?_, ?_⟩
    · rw [Page.feed_of_ne p other]
      exact ⟨level.1, congrArg (List.cons c) level.2⟩
    · rw [Page.touched_feed_code p other]
      exact commented
  · exact .inr (solid.push other)

/-- A line that ends in code. -/
theorem Agree.breakLine (agree : Agree .code k p) :
    Agree .code k.breakLine (p.feed ⟨'\n', .code⟩) := by
  have void : k.isVoid = p.isVoid := by
    rcases agree with ⟨level, commented⟩ | solid
    · exact level.isVoid commented
    · rw [solid.firm.2.1, solid.firm.2.2]
  rw [Page.feed_break_code, Kept.breakLine, void]
  split
  · next dropped =>
    refine .inl ⟨⟨?_, rfl⟩, rfl⟩
    rcases agree with ⟨level, -⟩ | solid
    · exact level.1
    · rw [solid.firm.2.2] at dropped
      cases dropped
  · exact .inl ⟨⟨congrArg (List.cons '\n') agree.sameText, rfl⟩, rfl⟩

/-! ### Comments -/

theorem Agree.comment (agree : Agree .code k p) :
    Agree .lineComment k.comment (p.feed ⟨'/', .opening⟩) := by
  rw [Page.feed_of_ne p (by decide)]
  rcases agree with ⟨level, -⟩ | solid
  · refine .inl ⟨⟨level.1, level.2⟩, rfl, ?_⟩
    rw [Page.touched, List.reverse_cons, isTouched_snoc_opening]
  · exact .inr solid

theorem Agree.code_of_lineComment (agree : Agree .lineComment k p) : Agree .code k p := by
  rcases agree with ⟨level, commented, touched⟩ | solid
  · exact .inl ⟨level, commented.trans touched.symm⟩
  · exact .inr solid

theorem Agree.block_of_lineComment (agree : Agree .lineComment k p) (depth : Nat) :
    Agree (.blockComment depth) k p := by
  rcases agree with ⟨level, commented, touched⟩ | solid
  · exact .inl ⟨level, commented, .inr touched⟩
  · exact .inr solid

/-- A comment goes on: the current line is one that a comment touches. -/
theorem Agree.inside {depth : Nat} (agree : Agree (.blockComment depth) k p) {c : Char}
    (other : c ≠ '\n') : Agree .lineComment k (p.feed ⟨c, .inside⟩) := by
  have kept : remains (⟨c, .inside⟩ :: p.line) = remains p.line :=
    remains_cons_comment (by simp) other p.line
  rw [Page.feed_of_ne p other]
  rcases agree with ⟨level, commented, before⟩ | ⟨same, full, full'⟩
  · refine .inl ⟨⟨level.1, level.2.trans kept.symm⟩, commented, ?_⟩
    rw [Page.touched, List.reverse_cons]
    exact isTouched_snoc_inside (before.imp_left fun empty => by rw [empty]; rfl) c
  · refine .inr ⟨same.trans (congrArg (· ++ p.done) kept.symm), full, ?_⟩
    rw [← full', kept]

/-- A line that ends in a comment. The next one begins inside of it. -/
theorem Agree.breakComment {depth : Nat} (agree : Agree (.blockComment depth) k p) :
    Agree (.blockComment depth) k.breakLine.comment (p.feed ⟨'\n', .inside⟩) := by
  rw [Page.feed_break]
  rcases agree with ⟨level, commented, before⟩ | ⟨same, full, full'⟩
  · have touched : isTouched (p.line.reverse ++ [⟨'\n', .inside⟩]) = true :=
      isTouched_snoc_inside (before.imp_left fun empty => by rw [empty]; rfl) '\n'
    have void : k.isVoid = (remains p.line).all isBlank := by
      rw [Kept.isVoid, commented, level.2, Bool.true_and]
    rw [touched, Bool.true_and, Kept.breakLine, void]
    split
    · exact .inl ⟨⟨level.1, rfl⟩, rfl, .inl rfl⟩
    · exact .inl ⟨⟨congrArg (List.cons '\n') level.sameText, rfl⟩, rfl, .inl rfl⟩
  · rw [full', Bool.and_false, Kept.breakLine, Kept.isVoid, full, Bool.and_false]
    exact .inl ⟨⟨congrArg (List.cons '\n') same, rfl⟩, rfl, .inl rfl⟩

/-! ### Literals -/

/-- The first and the last character of a literal are no blanks. -/
theorem solid_of_not_blank (same : SameText k p) {c : Char} (full : isBlank c = false) :
    Solid (k.push c) (p.feed ⟨c, .code⟩) := by
  have other : c ≠ '\n' := by
    rintro rfl
    revert full
    decide
  rw [Page.feed_of_ne p other]
  refine ⟨congrArg (List.cons c) same, ?_, ?_⟩
  · rw [Kept.push, List.all_cons, full, Bool.false_and]
  · rw [remains_cons_code, List.all_cons, full, Bool.false_and]

theorem Kept.isVoid_push (k : Kept) (c : Char) (kept : k.isVoid = false) :
    (k.push c).isVoid = false := by
  rw [Kept.isVoid, Bool.and_eq_false_iff] at kept ⊢
  rw [Kept.push, List.all_cons, Bool.and_eq_false_iff]
  exact kept.imp_right .inr

/-- A character of a literal, which may be a line break. -/
theorem Firm.push (firm : Firm k p) (c : Char) : Firm (k.push c) (p.feed ⟨c, .code⟩) := by
  obtain ⟨same, kept, kept'⟩ := firm
  refine ⟨?_, k.isVoid_push c kept, ?_⟩
  · by_cases ends : c = '\n'
    · rw [ends, Page.feed_break_code, kept']
      exact congrArg (List.cons '\n') same
    · rw [Page.feed_of_ne p ends]
      exact congrArg (List.cons c) same
  · by_cases ends : c = '\n'
    · rw [ends, Page.feed_break_code]
      rfl
    · rw [Page.isVoid, Bool.and_eq_false_iff] at kept' ⊢
      rw [Page.touched_feed_code p ends, Page.feed_of_ne p ends, remains_cons_code, List.all_cons,
        Bool.and_eq_false_iff]
      exact kept'.imp_right .inr

/-- A line that ends in a literal. -/
theorem Firm.breakLiteral (firm : Firm k p) : Firm k.breakLiteral (p.feed ⟨'\n', .code⟩) := by
  rw [Page.feed_break_code, firm.2.2]
  exact ⟨congrArg (List.cons '\n') firm.1, rfl, rfl⟩

end Agreement

/-! ## Regions -/

namespace Region

/-- How much of the source belongs to what the region is part of. -/
def more : Region → List Char → Nat
  | .code, _ => 0
  | .lineComment, cs => (cs.takeWhile (· ≠ '\n')).length
  | .blockComment depth, cs => blockLength depth cs
  | .quoted close, cs => quotedLength close cs
  | .rawOpening hashes, cs => rawTail hashes cs
  | .raw hashes, cs => rawLength hashes cs
  | .rawClosing hashes, _ => hashes

/-- The mark of characters in the region. -/
def mark : Region → Mark
  | .lineComment | .blockComment _ => .inside
  | _ => .code

/-- The source can go on in the region as it does. -/
def Fits : Region → List Char → Prop
  | .blockComment depth, _ => 0 < depth
  | .quoted close, _ => isBlank close = false
  | .rawOpening _, cs => opensRaw cs = true
  | .rawClosing hashes, cs => 0 < hashes ∧ List.replicate hashes '#' <+: cs
  | _, _ => True

end Region

/-- From every region on, the one pass keeps of the source what the two passes keep. -/
def Follows (cs : List Char) : Prop :=
  ∀ (region : Region) {k : Kept} {p : Page} (previous : Option Char), region.Fits cs →
    Agree region k p →
    (keepFrom region previous k cs).chars =
      p.text (marksFrom previous (region.more cs) region.mark cs)

section Regions

variable {c : Char} {rest : List Char} {k : Kept} {p : Page} {previous : Option Char}

/-- Where nothing has been started, it does not matter what the last thing was. -/
theorem marksFrom_zero (mark mark' : Mark) (cs : List Char) :
    marksFrom previous 0 mark cs = marksFrom previous 0 mark' cs := by
  cases cs <;> rfl

theorem follows_lineComment (ih : Follows rest) (agree : Agree .lineComment k p) :
    (keepFrom .lineComment previous k (c :: rest)).chars =
      p.text (marksFrom previous (Region.more .lineComment (c :: rest)) .inside (c :: rest)) := by
  rw [keepFrom]
  by_cases ends : c = '\n'
  · subst ends
    have more : Region.more .lineComment ('\n' :: rest) = 0 := by simp [Region.more]
    have start : startOf previous ('\n' :: rest) = .code 0 := rfl
    rw [if_pos rfl, more, marksFrom, start, Page.text_cons]
    exact ih .code _ trivial agree.code_of_lineComment.breakLine
  · have more : Region.more .lineComment (c :: rest) = Region.more .lineComment rest + 1 := by
      simp [Region.more, ends]
    rw [if_neg ends, more, marksFrom, Page.text_cons]
    exact ih .lineComment _ trivial ((agree.block_of_lineComment 1).inside ends)

theorem blockLength_cons (depth : Nat) (noOpening : ¬ (c = '/' ∧ rest.head? = some '*'))
    (noEnd : ¬ (c = '*' ∧ rest.head? = some '/')) :
    blockLength (depth + 1) (c :: rest) = blockLength (depth + 1) rest + 1 := by
  rw [blockLength]
  · rintro others rfl rfl
    exact noOpening ⟨rfl, rfl⟩
  · rintro others rfl rfl
    exact noEnd ⟨rfl, rfl⟩

/-- A comment opens and ends with two characters, none of which is a line break. -/
theorem follows_blockComment {depth : Nat}
    (ih : ∀ shorter : List Char, shorter.length ≤ rest.length → Follows shorter) (pos : 0 < depth)
    (agree : Agree (.blockComment depth) k p) :
    (keepFrom (.blockComment depth) previous k (c :: rest)).chars =
      p.text (marksFrom previous (blockLength depth (c :: rest)) .inside (c :: rest)) := by
  obtain ⟨d, rfl⟩ : ∃ d, depth = d + 1 := ⟨depth - 1, by omega⟩
  have twice {a b : Char} (first : a ≠ '\n') (second : b ≠ '\n') :
      Agree .lineComment k ((p.feed ⟨a, .inside⟩).feed ⟨b, .inside⟩) :=
    ((agree.inside first).block_of_lineComment 1).inside second
  unfold keepFrom
  dsimp only
  by_cases opening : c = '/' ∧ rest.head? = some '*'
  · obtain ⟨rfl, head⟩ := opening
    obtain ⟨others, rfl⟩ := List.head?_eq_some_iff.mp head
    rw [if_pos (by simp), blockLength, marksFrom, marksFrom, Page.text_cons, Page.text_cons]
    exact ih others (Nat.le_succ _) (.blockComment (d + 2)) _ (Nat.succ_pos _)
      ((twice (by decide) (by decide)).block_of_lineComment _)
  · rw [if_neg (by simpa using opening)]
    by_cases ending : c = '*' ∧ rest.head? = some '/'
    · obtain ⟨rfl, head⟩ := ending
      obtain ⟨others, rfl⟩ := List.head?_eq_some_iff.mp head
      have closed := twice (a := '*') (b := '/') (by decide) (by decide)
      rw [if_pos (by simp), blockLength, marksFrom, marksFrom, Page.text_cons, Page.text_cons]
      dsimp only
      split
      · next outermost =>
        obtain rfl : d = 0 := by omega
        rw [blockLength, marksFrom_zero .inside .code]
        exact ih others (Nat.le_succ _) .code _ trivial closed.code_of_lineComment
      · next nested =>
        exact ih others (Nat.le_succ _) (.blockComment d) _ (by omega : 0 < d)
          (closed.block_of_lineComment d)
    · rw [if_neg (by simpa using ending), blockLength_cons d opening ending, marksFrom,
        Page.text_cons]
      by_cases ends : c = '\n'
      · subst ends
        rw [if_pos rfl]
        exact ih rest le_rfl (.blockComment (d + 1)) _ pos agree.breakComment
      · rw [if_neg ends]
        exact ih rest le_rfl (.blockComment (d + 1)) _ pos
          ((agree.inside ends).block_of_lineComment _)

theorem quotedLength_cons (close : Char) (plain : c ≠ '\\') :
    quotedLength close (c :: rest) = if c = close then 1 else quotedLength close rest + 1 := by
  rw [quotedLength]
  rintro other others rfl
  exact absurd rfl plain

theorem follows_quoted {close : Char}
    (ih : ∀ shorter : List Char, shorter.length ≤ rest.length → Follows shorter)
    (full : isBlank close = false) (agree : Firm k p) :
    (keepFrom (.quoted close) previous k (c :: rest)).chars =
      p.text (marksFrom previous (quotedLength close (c :: rest)) .code (c :: rest)) := by
  unfold keepFrom
  dsimp only
  by_cases escapes : c = '\\'
  · subst escapes
    rw [if_pos rfl]
    cases rest with
    | nil =>
      have alone : quotedLength close ['\\'] = 1 := by
        rw [quotedLength]
        · split <;> rfl
        · exact fun _ _ _ nothing => nomatch nothing
      rw [alone, marksFrom, marksFrom, Page.text_cons]
      exact (agree.push '\\').chars
    | cons next others =>
      rw [quotedLength, marksFrom, marksFrom, Page.text_cons, Page.text_cons]
      exact ih others (Nat.le_succ _) (.quoted close) _ full
        ((agree.push '\\').push next)
  · rw [if_neg escapes, quotedLength_cons close escapes]
    by_cases ends : c = '\n'
    · subst ends
      have differs : '\n' ≠ close := by
        rintro rfl
        revert full
        decide
      rw [if_pos rfl, if_neg differs, marksFrom, Page.text_cons]
      exact ih rest le_rfl (.quoted close) _ full agree.breakLiteral
    · rw [if_neg ends]
      split
      · next closes =>
        subst closes
        rw [marksFrom, Page.text_cons]
        exact ih rest le_rfl .code _ trivial (.inr (solid_of_not_blank agree.1 full))
      · rw [marksFrom, Page.text_cons]
        exact ih rest le_rfl (.quoted close) _ full (agree.push c)

theorem follows_rawOpening {hashes : Nat} (ih : Follows rest) (opens : opensRaw (c :: rest) = true)
    (agree : Firm k p) :
    (keepFrom (.rawOpening hashes) previous k (c :: rest)).chars =
      p.text (marksFrom previous (rawTail hashes (c :: rest)) .code (c :: rest)) := by
  rw [keepFrom]
  by_cases quote : c = '"'
  · subst quote
    rw [if_pos rfl, rawTail, marksFrom, Page.text_cons]
    exact ih (.raw hashes) _ trivial (agree.push '"')
  · by_cases hash : c = '#'
    · subst hash
      rw [if_neg quote, rawTail, marksFrom, Page.text_cons]
      exact ih (.rawOpening (hashes + 1)) _ opens (agree.push '#')
    · rw [opensRaw] at opens
      · cases opens
      · rintro others ⟨⟩
        exact hash rfl
      · rintro others ⟨⟩
        exact quote rfl

theorem follows_raw {hashes : Nat} (ih : Follows rest) (agree : Firm k p) :
    (keepFrom (.raw hashes) previous k (c :: rest)).chars =
      p.text (marksFrom previous (rawLength hashes (c :: rest)) .code (c :: rest)) := by
  rw [keepFrom, rawLength]
  by_cases closes : c = '"' ∧ List.replicate hashes '#' <+: rest
  · obtain ⟨rfl, starts⟩ := closes
    have solid : Solid (k.push '"') (p.feed ⟨'"', .code⟩) :=
      solid_of_not_blank agree.1 (by decide)
    rw [if_pos (by simpa using starts), if_pos (And.intro rfl starts), marksFrom, Page.text_cons]
    split
    · next bare =>
      subst bare
      exact ih .code _ trivial (.inr solid)
    · next hashed =>
      exact ih (.rawClosing hashes) _ ⟨Nat.pos_of_ne_zero hashed, starts⟩ solid
  · rw [if_neg (by simpa using closes), if_neg closes, marksFrom, Page.text_cons]
    exact ih (.raw hashes) _ trivial (agree.push c)

theorem follows_rawClosing {hashes : Nat} (ih : Follows rest)
    (fits : Region.Fits (.rawClosing hashes) (c :: rest)) (agree : Solid k p) :
    (keepFrom (.rawClosing hashes) previous k (c :: rest)).chars =
      p.text (marksFrom previous hashes .code (c :: rest)) := by
  obtain ⟨pos, starts⟩ := fits
  obtain ⟨left, rfl⟩ : ∃ left, hashes = left + 1 := ⟨hashes - 1, by omega⟩
  rw [List.replicate_succ, List.cons_prefix_cons] at starts
  obtain ⟨rfl, starts⟩ := starts
  have solid : Solid (k.push '#') (p.feed ⟨'#', .code⟩) := agree.push (by decide)
  rw [keepFrom, marksFrom, Page.text_cons]
  split
  · next last =>
    obtain rfl : left = 0 := by omega
    exact ih .code _ trivial (.inr solid)
  · next further =>
    exact ih (.rawClosing left) _ ⟨by omega, starts⟩ solid

theorem startOf_cons (noComment : ¬ (c = '/' ∧ (rest.head? = some '/' ∨ rest.head? = some '*')))
    (noRaw : ¬ (c = 'r' ∧ mayStartRaw previous = true ∧ opensRaw rest = true)) (noQuote : c ≠ '"')
    (noCharacter : ¬ (c = '\'' ∧ opensCharacter rest = true)) :
    startOf previous (c :: rest) = .code 0 := by
  unfold startOf
  split <;> simp_all

/-- What starts with a character is found in the same order by both. -/
theorem follows_code (ih : ∀ shorter : List Char, shorter.length ≤ rest.length → Follows shorter)
    (agree : Agree .code k p) :
    (keepFrom .code previous k (c :: rest)).chars =
      p.text (marksFrom previous 0 .code (c :: rest)) := by
  have literal (full : isBlank c = false) : Firm (k.push c) (p.feed ⟨c, .code⟩) :=
    (solid_of_not_blank agree.sameText full).firm
  unfold keepFrom
  dsimp only
  by_cases ends : c = '\n'
  · subst ends
    have start : startOf previous ('\n' :: rest) = .code 0 := rfl
    rw [if_pos rfl, marksFrom, start, Page.text_cons]
    exact ih rest le_rfl .code _ trivial agree.breakLine
  rw [if_neg ends]
  by_cases toLine : c = '/' ∧ rest.head? = some '/'
  · obtain ⟨rfl, head⟩ := toLine
    obtain ⟨others, rfl⟩ := List.head?_eq_some_iff.mp head
    have more : Region.more .lineComment ('/' :: others) =
        (others.takeWhile (· ≠ '\n')).length + 1 := by simp [Region.more]
    rw [if_pos (by simp), marksFrom, startOf, Page.text_cons, ← more]
    exact ih _ le_rfl .lineComment _ trivial agree.comment
  rw [if_neg (by simpa using toLine)]
  by_cases toBlock : c = '/' ∧ rest.head? = some '*'
  · obtain ⟨rfl, head⟩ := toBlock
    obtain ⟨others, rfl⟩ := List.head?_eq_some_iff.mp head
    rw [if_pos (by simp), marksFrom, startOf]
    dsimp only
    rw [marksFrom, Page.text_cons, Page.text_cons]
    exact ih others (Nat.le_succ _) (.blockComment 1) _ Nat.one_pos
      (((agree.comment.block_of_lineComment 1).inside (by decide)).block_of_lineComment 1)
  rw [if_neg (by simpa using toBlock)]
  by_cases raw : c = 'r' ∧ mayStartRaw previous = true ∧ opensRaw rest = true
  · obtain ⟨rfl, may, opens⟩ := raw
    rw [if_pos (by simp [may, opens]), marksFrom, startOf, may, opens, Page.text_cons]
    exact ih rest le_rfl (.rawOpening 0) _ opens (literal (by decide))
  rw [if_neg (by simpa [and_assoc] using raw)]
  by_cases quote : c = '"'
  · subst quote
    rw [if_pos rfl, marksFrom, startOf, Page.text_cons]
    exact ih rest le_rfl (.quoted '"') _ (by decide : isBlank '"' = false)
      (literal (by decide))
  rw [if_neg quote]
  by_cases character : c = '\'' ∧ opensCharacter rest = true
  · obtain ⟨rfl, opens⟩ := character
    rw [if_pos (by simp [opens]), marksFrom, startOf, opens, Page.text_cons]
    exact ih rest le_rfl (.quoted '\'') _ (by decide : isBlank '\'' = false)
      (literal (by decide))
  have start : startOf previous (c :: rest) = .code 0 :=
    startOf_cons (fun comment => comment.2.elim (fun head => toLine ⟨comment.1, head⟩)
      fun head => toBlock ⟨comment.1, head⟩) raw quote character
  rw [if_neg (by simpa using character), marksFrom, start, Page.text_cons]
  exact ih rest le_rfl .code _ trivial (agree.push ends)

end Regions

/-- By induction on the length of the source, since some regions take two characters at once. -/
theorem follows (cs : List Char) : Follows cs := by
  induction length : cs.length using Nat.strong_induction_on generalizing cs with
  | _ n ih =>
    subst length
    intro region k p previous fits agree
    cases cs with
    | nil =>
      rw [keepFrom, marksFrom]
      exact agree.chars
    | cons c rest =>
      have shorter (others : List Char) (short : others.length ≤ rest.length) : Follows others :=
        ih others.length (Nat.lt_succ_of_le short) others rfl
      cases region with
      | code => exact follows_code shorter agree
      | lineComment => exact follows_lineComment (shorter rest le_rfl) agree
      | blockComment depth => exact follows_blockComment shorter fits agree
      | quoted close => exact follows_quoted shorter fits agree
      | rawOpening hashes => exact follows_rawOpening (shorter rest le_rfl) fits agree
      | raw hashes => exact follows_raw (shorter rest le_rfl) agree
      | rawClosing hashes => exact follows_rawClosing (shorter rest le_rfl) fits agree

/-! ## Whole sources -/

theorem map_char_marksFrom (previous : Option Char) (more : Nat) (mark : Mark) (cs : List Char) :
    (marksFrom previous more mark cs).map Marked.char = cs := by
  induction cs generalizing previous more mark with
  | nil => rfl
  | cons c rest ih =>
    cases more with
    | succ more => rw [marksFrom, List.map_cons, ih]
    | zero =>
      rw [marksFrom]
      split
      · rw [List.map_cons, ih]
      · rw [List.map_cons, ih]

theorem flatten_cutLines (line ms : List Marked) :
    (cutLines line ms).flatten = line.reverse ++ ms := by
  induction ms generalizing line with
  | nil => rw [cutLines, List.flatten_singleton, List.append_nil]
  | cons m rest ih =>
    rw [cutLines]
    split
    · rw [List.flatten_cons, ih, List.reverse_nil, List.nil_append, List.reverse_cons,
        List.append_assoc, List.singleton_append]
    · rw [ih, List.reverse_cons, List.append_assoc, List.singleton_append]

theorem keepLine_of_code {line : List Marked} (code : ∀ m ∈ line, m.mark = .code) :
    keepLine line = line.map Marked.char := by
  have untouched : isTouched line = false := by
    rw [isTouched, Bool.or_eq_false_iff]
    constructor
    · rw [List.any_eq_false]
      intro m present
      simp [code m present]
    · cases line with
      | nil => rfl
      | cons m line => simp [code m List.mem_cons_self]
  have whole : (line.filter fun m => m.mark == .code || m.char == '\n') = line := by
    rw [List.filter_eq_self]
    intro m present
    simp [code m present]
  rw [keepLine, untouched, Bool.false_and, if_neg (by decide), remains, whole]

/-- Where all is code, all is kept. -/
theorem flatMap_keepLine_of_code {ms : List Marked} (code : ∀ m ∈ ms, m.mark = .code) :
    (cutLines [] ms).flatMap keepLine = ms.map Marked.char := by
  have lines : ∀ line ∈ cutLines [] ms, ∀ m ∈ line, m.mark = .code := by
    intro line present m inside
    refine code m ?_
    have flat := List.mem_flatten.mpr ⟨line, present, inside⟩
    rwa [flatten_cutLines, List.reverse_nil, List.nil_append] at flat
  rw [List.flatMap_def,
    List.map_congr_left fun line present => keepLine_of_code (lines line present),
    ← List.map_flatten, flatten_cutLines, List.reverse_nil, List.nil_append]

theorem stripComments_eq_flatMap (s : String) :
    stripComments s = String.ofList ((cutLines [] (marks s.toList)).flatMap keepLine) := by
  have start : Agree .code Kept.empty ⟨[], []⟩ := .inl ⟨⟨rfl, rfl⟩, rfl⟩
  exact congrArg String.ofList (follows s.toList .code none trivial start)

theorem stripComments_of_code {s : String} (code : ∀ m ∈ marks s.toList, m.mark = .code) :
    stripComments s = s := by
  have chars : (marks s.toList).map Marked.char = s.toList := map_char_marksFrom ..
  rw [stripComments_eq_flatMap, flatMap_keepLine_of_code code, chars, String.ofList_toList]

/-- A source without its comments is what two passes keep of it: the first marks all its characters
as code or comment, the second drops the lines that a comment touches and that have no code but
blanks, and keeps the code and the line breaks of all others. A source without comments is kept as
it is. -/
theorem strip_eq_passes (s : String) :
    (marks s.toList).map Marked.char = s.toList ∧
      stripComments s = String.ofList ((cutLines [] (marks s.toList)).flatMap keepLine) ∧
      ((∀ m ∈ marks s.toList, m.mark = .code) → stripComments s = s) := by
  have chars : (marks s.toList).map Marked.char = s.toList := map_char_marksFrom ..
  exact ⟨chars, stripComments_eq_flatMap s, stripComments_of_code⟩

-- a comment over three lines, of which only the last keeps its code, and one behind a raw string
-- with a line break
example : (cutLines [] (marks "/* a\n /* b */\n */ x\nr\"//\n\" // c\n".toList)).flatMap keepLine =
    " x\nr\"//\n\" \n".toList := by decide

/-- Slashes in a raw string over two lines, and a lifetime. -/
theorem strip_eq_passes_raw :
    (∀ m ∈ marks "r#\"/*\n\"//\"# 'a".toList, m.mark = .code) ∧
      stripComments "r#\"/*\n\"//\"# 'a" = "r#\"/*\n\"//\"# 'a" := by
  have code : ∀ m ∈ marks "r#\"/*\n\"//\"# 'a".toList, m.mark = .code := by decide
  exact ⟨code, (strip_eq_passes _).2.2 code⟩

end SyntaxExport.Text
