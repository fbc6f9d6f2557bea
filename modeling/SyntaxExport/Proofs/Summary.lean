import Mathlib.Data.List.DropRight
import SyntaxExport.Node

/-!
# Summaries in one line

A summary is put together from pieces of the lines of a text, so it goes on one line whatever breaks
the text has. The text is trimmed before its lines are read: it ends with a character that is no
break, and so its last line is never empty.

Results:
1. `unbroken_linesFrom`: no line that is read has a break in it.
2. `unbroken_summary`: the summary of a node has no break.
3. `summaryOfLines_of_unbroken`, `summaryOfLines_of_broken`: a summary is the text itself, or what
   stands before its first break with three dots and its last character.
4. `summarize_eq`: the same for texts with blanks at their ends; a summary is its own summary.
-/

namespace SyntaxExport

namespace Text

/-- Characters that stand on one line. -/
def Unbroken (cs : List Char) : Prop :=
  '\n' ∉ cs ∧ '\r' ∉ cs

theorem Unbroken.reverse {cs : List Char} (unbroken : Unbroken cs) : Unbroken cs.reverse :=
  ⟨fun present => unbroken.1 (List.mem_reverse.mp present),
    fun present => unbroken.2 (List.mem_reverse.mp present)⟩

theorem Unbroken.append {front back : List Char} (first : Unbroken front)
    (second : Unbroken back) : Unbroken (front ++ back) := by
  refine ⟨fun present => ?_, fun present => ?_⟩
  · exact (List.mem_append.mp present).elim first.1 second.1
  · exact (List.mem_append.mp present).elim first.2 second.2

theorem unbroken_nil : Unbroken [] :=
  ⟨List.not_mem_nil, List.not_mem_nil⟩

theorem unbroken_linesFrom {current : List Char} (unbroken : Unbroken current) (text : List Char) :
    ∀ line ∈ linesFrom current text, Unbroken line := by
  fun_induction linesFrom current text with
  | case1 current none => exact fun line read => absurd read List.not_mem_nil
  | case2 current some =>
    intro line read
    rw [List.mem_singleton.mp read]
    exact unbroken.reverse
  | case3 current rest ih =>
    exact List.forall_mem_cons.mpr ⟨unbroken.reverse, ih unbroken_nil⟩
  | case4 current rest ih =>
    exact List.forall_mem_cons.mpr ⟨unbroken.reverse, ih unbroken_nil⟩
  | case5 current rest noFeed ih =>
    exact List.forall_mem_cons.mpr ⟨unbroken.reverse, ih unbroken_nil⟩
  | case6 current c rest noFeed noPair noReturn ih =>
    refine ih ⟨fun present => ?_, fun present => ?_⟩
    · exact (List.mem_cons.mp present).elim (fun feed => noFeed feed.symm) unbroken.1
    · exact (List.mem_cons.mp present).elim (fun ret => noReturn ret.symm) unbroken.2

theorem unbroken_summaryOfLines {lines : List (List Char)}
    (unbroken : ∀ line ∈ lines, Unbroken line) : Unbroken (summaryOfLines lines) := by
  match lines, unbroken with
  | [], _ => exact unbroken_nil
  | [only], unbroken => exact unbroken only (List.mem_singleton_self only)
  | first :: second :: rest, unbroken =>
    have dots : Unbroken ['.', '.', '.'] := ⟨by decide, by decide⟩
    have opening := (unbroken first (List.mem_cons_self ..)).append dots
    refine opening.append ?_
    cases closing : ((second :: rest).getLast?).bind List.getLast? with
    | none => exact unbroken_nil
    | some c =>
      obtain ⟨last, found, final⟩ := Option.bind_eq_some_iff.mp closing
      have whole := unbroken last (List.mem_cons_of_mem _ (List.mem_of_getLast? found))
      have inside := List.mem_of_getLast? final
      refine ⟨fun present => whole.1 ?_, fun present => whole.2 ?_⟩
      · exact List.mem_singleton.mp present ▸ inside
      · exact List.mem_singleton.mp present ▸ inside

theorem dropEmptyLast_subset (lines : List (List Char)) : dropEmptyLast lines ⊆ lines := by
  unfold dropEmptyLast
  split
  · exact List.dropLast_subset lines
  · exact List.Subset.refl lines

theorem unbroken_summarize (s : String) : Unbroken (summarize s).toList := by
  rw [summarize, String.toList_ofList]
  refine unbroken_summaryOfLines fun line read => ?_
  exact unbroken_linesFrom unbroken_nil _ line (dropEmptyLast_subset _ read)

/-! ## Lines and breaks -/

/-- The character ends a line. -/
def isBreak (c : Char) : Bool :=
  c == '\n' || c == '\r'

theorem isBreak_iff {c : Char} : isBreak c = true ↔ c = '\n' ∨ c = '\r' := by
  simp [isBreak]

theorem isBreak_of_not_isBlank {c : Char} (plain : isBlank c = false) : isBreak c = false := by
  rw [← Bool.not_eq_true, isBreak_iff]
  rintro (rfl | rfl) <;> exact absurd plain (by decide)

theorem unbroken_iff {cs : List Char} : Unbroken cs ↔ ∀ c ∈ cs, isBreak c = false := by
  constructor
  · intro unbroken c present
    rw [← Bool.not_eq_true, isBreak_iff]
    rintro (rfl | rfl)
    · exact unbroken.1 present
    · exact unbroken.2 present
  · intro plain
    exact ⟨fun feed => absurd (plain _ feed) (by decide),
      fun ret => absurd (plain _ ret) (by decide)⟩

theorem unbroken_takeWhile (cs : List Char) : Unbroken (cs.takeWhile (!isBreak ·)) := by
  rw [unbroken_iff]
  intro c present
  simpa using List.mem_takeWhile_imp present

/-- A text with a break is split at the first one. -/
theorem exists_break {cs : List Char} (broken : ¬Unbroken cs) :
    ∃ b rest, isBreak b = true ∧ cs = cs.takeWhile (!isBreak ·) ++ b :: rest := by
  cases after : cs.dropWhile (!isBreak ·) with
  | nil =>
    rw [List.dropWhile_eq_nil_iff] at after
    exact absurd (unbroken_iff.mpr fun c present => by simpa using after c present) broken
  | cons b rest =>
    have stopped := List.head?_dropWhile_not (!isBreak ·) cs
    rw [after] at stopped
    refine ⟨b, rest, by simpa using stopped, ?_⟩
    rw [← after, List.takeWhile_append_dropWhile]

theorem linesFrom_cons (current : List Char) {c : Char} (plain : isBreak c = false)
    (rest : List Char) : linesFrom current (c :: rest) = linesFrom (c :: current) rest := by
  rw [← Bool.not_eq_true, isBreak_iff, not_or] at plain
  rw [linesFrom]
  · exact plain.1
  · exact fun _ ret => absurd ret plain.2
  · exact plain.2

/-- Characters without a break go on the current line. -/
theorem linesFrom_append {front : List Char} (unbroken : Unbroken front)
    (current rest : List Char) :
    linesFrom current (front ++ rest) = linesFrom (front.reverse ++ current) rest := by
  rw [unbroken_iff] at unbroken
  induction front generalizing current with
  | nil => rfl
  | cons c front ih =>
    obtain ⟨plain, others⟩ := List.forall_mem_cons.mp unbroken
    rw [List.cons_append, linesFrom_cons current plain, ih others, List.reverse_cons,
      List.append_assoc]
    rfl

/-- A break ends the current line. The two characters of a break are read together. -/
theorem linesFrom_break (current : List Char) {b : Char} (ends : isBreak b = true)
    (rest : List Char) :
    ∃ rest', linesFrom current (b :: rest) = current.reverse :: linesFrom [] rest' ∧
      (rest = rest' ∨ rest = '\n' :: rest') := by
  rcases isBreak_iff.mp ends with rfl | rfl
  · exact ⟨rest, by rw [linesFrom], .inl rfl⟩
  · by_cases pair : ∃ rest', rest = '\n' :: rest'
    · obtain ⟨rest', rfl⟩ := pair
      exact ⟨rest', by rw [linesFrom], .inr rfl⟩
    · refine ⟨rest, ?_, .inl rfl⟩
      rw [linesFrom]
      exact fun rest' same => pair ⟨rest', same⟩

/-- Something follows a break that is not the end. -/
theorem getLast?_behind_break (front : List Char) {rest : List Char} {b c : Char}
    (ends : isBreak b = true) (final : (front ++ b :: rest).getLast? = some c)
    (plain : isBreak c = false) : rest.getLast? = some c := by
  rw [List.getLast?_append_cons] at final
  cases rest with
  | nil =>
    obtain rfl : b = c := Option.some_inj.mp final
    rw [ends] at plain
    cases plain
  | cons => rwa [List.getLast?_cons_cons] at final

/-- The last line ends like the text, if the text does not end with a break. -/
theorem getLast?_linesFrom (current text : List Char) {c : Char}
    (final : (current.reverse ++ text).getLast? = some c) (plain : isBreak c = false) :
    ∃ last, (linesFrom current text).getLast? = some last ∧ last.getLast? = some c := by
  have shown {line : List Char} {lines : List (List Char)}
      (below : ∃ last, lines.getLast? = some last ∧ last.getLast? = some c) :
      ∃ last, (line :: lines).getLast? = some last ∧ last.getLast? = some c := by
    obtain ⟨last, found, same⟩ := below
    exact ⟨last, by rw [List.getLast?_cons, found]; rfl, same⟩
  fun_induction linesFrom current text with
  | case1 current none =>
    rw [List.isEmpty_iff.mp none] at final
    cases final
  | case2 current some => exact ⟨_, rfl, by rwa [List.append_nil] at final⟩
  | case3 current rest ih => exact shown (ih (getLast?_behind_break _ rfl final plain))
  | case4 current rest ih =>
    have behind := getLast?_behind_break current.reverse (b := '\r') rfl final plain
    exact shown (ih (getLast?_behind_break [] (b := '\n') rfl behind plain))
  | case5 current rest noFeed ih => exact shown (ih (getLast?_behind_break _ rfl final plain))
  | case6 current c rest noFeed noPair noReturn ih =>
    exact ih (by rwa [List.reverse_cons, List.append_assoc])

/-! ## Blanks at the ends -/

/-- Neither the first nor the last character is blank. -/
def Trimmed (cs : List Char) : Prop :=
  (∀ c ∈ cs.head?, isBlank c = false) ∧ ∀ c ∈ cs.getLast?, isBlank c = false

theorem trimChars_eq (cs : List Char) :
    trimChars cs = (cs.dropWhile isBlank).rdropWhile isBlank :=
  rfl

theorem trimmed_trimChars (cs : List Char) : Trimmed (trimChars cs) := by
  rw [trimChars_eq]
  constructor
  · intro c isFirst
    -- the blanks at the end are dropped last, so they do not change the first character
    obtain ⟨dropped, whole⟩ := List.rdropWhile_prefix isBlank (cs.dropWhile isBlank)
    have plain := List.head?_dropWhile_not isBlank cs
    rw [← whole, List.head?_append, isFirst] at plain
    exact plain
  · intro c isLast
    have plain := List.head?_dropWhile_not isBlank (cs.dropWhile isBlank).reverse
    rw [List.rdropWhile, List.getLast?_reverse] at isLast
    rw [isLast] at plain
    exact plain

/-- What is left out at the ends is blank. -/
theorem exists_trimChars (cs : List Char) :
    ∃ front back, cs = front ++ trimChars cs ++ back ∧ ∀ c ∈ front ++ back, isBlank c = true := by
  refine ⟨cs.takeWhile isBlank, (cs.dropWhile isBlank).rtakeWhile isBlank, ?_, ?_⟩
  · rw [trimChars_eq, List.append_assoc, List.rdropWhile_append_rtakeWhile,
      List.takeWhile_append_dropWhile]
  · exact List.forall_mem_append.mpr
      ⟨fun _ => List.mem_takeWhile_imp, fun _ => List.mem_rtakeWhile_imp⟩

theorem trimStartChars_eq_self {cs : List Char} (plain : ∀ c ∈ cs.head?, isBlank c = false) :
    trimStartChars cs = cs := by
  cases cs with
  | nil => rfl
  | cons c rest =>
    have first : ¬isBlank c = true := Bool.not_eq_true _ ▸ plain c rfl
    rw [trimStartChars, List.dropWhile_cons_of_neg first]

theorem Trimmed.trimChars_eq_self {cs : List Char} (trimmed : Trimmed cs) : trimChars cs = cs := by
  rw [trimChars, trimStartChars_eq_self trimmed.1, trimStartChars_eq_self, List.reverse_reverse]
  rw [List.head?_reverse]
  exact trimmed.2

/-! ## Summaries -/

theorem summaryOfLines_of_unbroken {text : List Char} (unbroken : Unbroken text) :
    summaryOfLines (readerLines text) = text := by
  have lines : readerLines text = if text.reverse.isEmpty then [] else [text.reverse.reverse] := by
    have read := linesFrom_append unbroken [] []
    rw [List.append_nil, List.append_nil] at read
    rw [readerLines, read, linesFrom]
  rw [lines, List.reverse_reverse]
  cases text with
  | nil => rfl
  | cons => simp [summaryOfLines]

theorem summaryOfLines_of_broken {text : List Char} {c : Char} (broken : ¬Unbroken text)
    (final : text.getLast? = some c) (plain : isBreak c = false) :
    summaryOfLines (readerLines text) = text.takeWhile (!isBreak ·) ++ ['.', '.', '.'] ++ [c] := by
  obtain ⟨b, rest, ends, split⟩ := exists_break broken
  have unbroken := unbroken_takeWhile text
  generalize text.takeWhile (!isBreak ·) = first at split unbroken ⊢
  subst split
  obtain ⟨rest', read, skipped⟩ := linesFrom_break first.reverse ends rest
  have behind := getLast?_behind_break first ends final plain
  have final' : rest'.getLast? = some c := by
    rcases skipped with rfl | rfl
    · exact behind
    · exact getLast?_behind_break [] (b := '\n') rfl behind plain
  obtain ⟨last, isLast, same⟩ := getLast?_linesFrom [] rest' final' plain
  rw [readerLines, linesFrom_append unbroken, List.append_nil, read, List.reverse_reverse]
  cases lines : linesFrom [] rest' with
  | nil =>
    rw [lines] at isLast
    cases isLast
  | cons second others =>
    rw [lines] at isLast
    rw [summaryOfLines, isLast, Option.bind_some, same]
    rfl

/-- The last line of a trimmed text is not empty. -/
theorem Trimmed.getLast?_readerLines {cs : List Char} (trimmed : Trimmed cs) :
    (readerLines cs).getLast?.any List.isEmpty = false := by
  cases ends : cs.getLast? with
  | none =>
    rw [List.getLast?_eq_none_iff.mp ends]
    rfl
  | some c =>
    have plain := isBreak_of_not_isBlank (trimmed.2 c ends)
    obtain ⟨last, isLast, same⟩ := getLast?_linesFrom [] cs ends plain
    rw [readerLines, isLast]
    cases last with
    | nil => cases same
    | cons => rfl

theorem summarize_eq_lines (text : String) :
    summarize text = String.ofList (summaryOfLines (readerLines (trim text).toList)) := by
  have kept := (trimmed_trimChars text.toList).getLast?_readerLines
  rw [summarize, dropEmptyLast, if_neg (Bool.not_eq_true _ ▸ kept), trim, String.toList_ofList]

theorem summarize_of_unbroken {text : String} (unbroken : Unbroken (trim text).toList) :
    summarize text = trim text := by
  rw [summarize_eq_lines, summaryOfLines_of_unbroken unbroken, String.ofList_toList]

theorem trimmed_trim (text : String) : Trimmed (trim text).toList := by
  rw [trim, String.toList_ofList]
  exact trimmed_trimChars text.toList

theorem summarize_of_broken {text : String} (broken : ¬Unbroken (trim text).toList) :
    ∃ c, (trim text).toList.getLast? = some c ∧
      summarize text = String.ofList ((trim text).toList.takeWhile (!isBreak ·)) ++ "..." ++
        String.singleton c := by
  cases isLast : (trim text).toList.getLast? with
  | none =>
    rw [List.getLast?_eq_none_iff.mp isLast] at broken
    exact absurd unbroken_nil broken
  | some c =>
    have plain := isBreak_of_not_isBlank ((trimmed_trim text).2 c isLast)
    refine ⟨c, rfl, String.toList_injective ?_⟩
    rw [summarize_eq_lines, summaryOfLines_of_broken broken isLast plain]
    simp

/-- What stands before the first break starts like the text, whose first character is no break. -/
theorem Trimmed.head?_takeWhile {cs : List Char} (trimmed : Trimmed cs) :
    (cs.takeWhile (!isBreak ·)).head? = cs.head? := by
  cases cs with
  | nil => rfl
  | cons c rest => simp [isBreak_of_not_isBlank (trimmed.1 c rfl)]

theorem trimmed_summarize (text : String) : Trimmed (summarize text).toList := by
  by_cases unbroken : Unbroken (trim text).toList
  · rw [summarize_of_unbroken unbroken]
    exact trimmed_trim text
  · obtain ⟨c, isLast, spelled⟩ := summarize_of_broken unbroken
    have chars : (summarize text).toList =
        (trim text).toList.takeWhile (!isBreak ·) ++ ['.', '.', '.', c] := by
      rw [spelled]
      simp
    have trimmed := trimmed_trim text
    rw [chars]
    constructor
    · intro d isFirst
      rw [List.head?_append, trimmed.head?_takeWhile] at isFirst
      cases first : (trim text).toList.head? with
      | none =>
        rw [List.head?_eq_none_iff.mp first] at isLast
        cases isLast
      | some x =>
        rw [first] at isFirst
        exact trimmed.1 d (first.trans isFirst)
    · intro d isLast'
      rw [List.getLast?_append_of_ne_nil _ (List.cons_ne_nil _ _)] at isLast'
      exact trimmed.2 d (isLast.trans isLast')

/-- The summary of a text is the text without the blanks at its ends, if this has no break, and
otherwise what stands before its first break, three dots and its last character. So it stands on one
line, the last line that is read is never an empty one to be left out, and a summary is its own
summary. -/
theorem summarize_eq (text : String) :
    let t := (trim text).toList
    (∃ front back, text.toList = front ++ t ++ back ∧
      (∀ c ∈ front ++ back, isBlank c = true) ∧ Trimmed t) ∧
    (Unbroken t → summarize text = trim text) ∧
    (¬Unbroken t → ∃ c, t.getLast? = some c ∧
      summarize text = String.ofList (t.takeWhile (!isBreak ·)) ++ "..." ++ String.singleton c) ∧
    Unbroken (summarize text).toList ∧
    (readerLines t).getLast?.any List.isEmpty = false ∧
    summarize (summarize text) = summarize text := by
  have trimmed := trimmed_trim text
  refine ⟨?_, summarize_of_unbroken, summarize_of_broken, unbroken_summarize text,
    trimmed.getLast?_readerLines, ?_⟩
  · obtain ⟨front, back, whole, blank⟩ := exists_trimChars text.toList
    exact ⟨front, back, by rwa [trim, String.toList_ofList], blank, trimmed⟩
  · have same : trim (summarize text) = summarize text := by
      rw [trim, (trimmed_summarize text).trimChars_eq_self, String.ofList_toList]
    rw [summarize_of_unbroken, same]
    rw [same]
    exact unbroken_summarize text

end Text

theorem Node.unbroken_summary (n : Node) : Text.Unbroken n.summary.toList := by
  rw [Node.summary]
  split
  · exact Text.unbroken_summarize _
  · exact Text.unbroken_nil

end SyntaxExport
