import SyntaxExport.Proofs.Comments

/-!
# Raw strings and comments

A raw string has no escapes: it ends with the first quote that as many hashes follow as stand before
its first quote. What looks like a comment inside of it is none. Strings and byte strings of this
sort are kept as they are, whatever they hold.

The mark `cr` of strings for C is not known where comments are removed. Such a literal is read as a
word, hashes and a string with escapes, which ends with the next quote. So it is kept if there is no
quote in it, and otherwise what follows that quote can be lost.

Results:
1. `rawLength_closing`: a raw string ends where it should.
2. `flatMap_keepLine_append`: code before a quote makes no difference to what is kept behind it.
3. `raw_strings_kept`: which raw strings are kept, and what is kept of the others.
-/

namespace SyntaxExport.Text

/-! ## Raw strings -/

/-- The marks of raw strings. -/
inductive RawMark where
  | plain
  | byte
  | c
  deriving DecidableEq, Repr

/-- The letters of a mark. -/
def RawMark.letters : RawMark → List Char
  | plain => ['r']
  | byte => ['b', 'r']
  | c => ['c', 'r']

/-- What ends a raw string. -/
def closing (hashes : Nat) : List Char :=
  '"' :: List.replicate hashes '#'

/-- A raw string from its first quote on. -/
def enclosed (hashes : Nat) (body : List Char) : List Char :=
  '"' :: (body ++ closing hashes)

/-- A raw string. -/
def rawString (mark : RawMark) (hashes : Nat) (body : List Char) : List Char :=
  mark.letters ++ (List.replicate hashes '#' ++ enclosed hashes body)

/-! ## Where they end -/

theorem replicate_prefix_of_append {a b : Char} (differs : b ≠ a) {n : Nat} {front back : List Char}
    (begins : List.replicate n a <+: front ++ b :: back) : List.replicate n a <+: front := by
  induction front generalizing n with
  | nil =>
    cases n with
    | zero => exact List.nil_prefix
    | succ n =>
      rw [List.replicate_succ, List.nil_append, List.cons_prefix_cons] at begins
      exact absurd begins.1.symm differs
  | cons c front ih =>
    cases n with
    | zero => exact List.nil_prefix
    | succ n =>
      rw [List.replicate_succ, List.cons_append, List.cons_prefix_cons] at begins
      rw [List.replicate_succ, List.cons_prefix_cons]
      exact ⟨begins.1, ih begins.2⟩

/-- A raw string whose end does not stand in its body ends behind it. -/
theorem rawLength_closing {hashes : Nat} {body : List Char} (inside : ¬closing hashes <:+: body) :
    rawLength hashes (body ++ closing hashes) = (body ++ closing hashes).length := by
  induction body with
  | nil => simp [closing, rawLength]
  | cons c rest ih =>
    have further : ¬(c = '"' ∧ List.replicate hashes '#' <+: rest ++ closing hashes) := by
      rintro ⟨rfl, begins⟩
      have here := replicate_prefix_of_append (by decide) begins
      exact inside (List.cons_prefix_cons.mpr ⟨rfl, here⟩).isInfix
    have later : ¬closing hashes <:+: rest := fun found => inside (List.infix_cons found)
    rw [List.cons_append, rawLength, if_neg further, ih later, List.length_cons]

theorem rawTail_replicate (n hashes : Nat) (rest : List Char) :
    rawTail hashes (List.replicate n '#' ++ '"' :: rest) =
      n + (rawLength (hashes + n) rest + 1) := by
  induction n generalizing hashes with
  | zero =>
    rw [List.replicate_zero, List.nil_append, rawTail, Nat.zero_add]
    rfl
  | succ n ih =>
    rw [List.replicate_succ, List.cons_append, rawTail, ih, Nat.add_right_comm hashes,
      Nat.add_assoc hashes, Nat.add_right_comm]

theorem opensRaw_replicate (n : Nat) (rest : List Char) :
    opensRaw (List.replicate n '#' ++ '"' :: rest) = true := by
  induction n with
  | zero => rfl
  | succ n ih => exact ih

/-- In a string with escapes, no quote means no end. -/
theorem length_le_quotedLength {body : List Char} (noQuote : '"' ∉ body) (rest : List Char) :
    body.length ≤ quotedLength '"' (body ++ rest) := by
  induction length : body.length using Nat.strong_induction_on generalizing body with
  | _ n ih =>
    subst length
    cases body with
    | nil => exact Nat.zero_le _
    | cons c others =>
      obtain ⟨other, later⟩ := not_or.mp (mt List.mem_cons.mpr noQuote)
      by_cases escapes : c = '\\'
      · subst escapes
        cases others with
        | nil =>
          cases rest with
          | nil => decide
          | cons d rest => exact Nat.le_add_left 1 _
        | cons d others =>
          have shorter := ih others.length (by simp only [List.length_cons]; omega)
            (mt (List.mem_cons_of_mem _) later) rfl
          exact Nat.add_le_add_right shorter 2
      · have shorter := ih others.length (Nat.lt_succ_self _) later rfl
        rw [List.cons_append, quotedLength_cons '"' escapes, if_neg (Ne.symm other),
          List.length_cons]
        exact Nat.add_le_add_right shorter 1

/-! ## Code -/

theorem exists_startOf_code {c : Char} (noSlash : c ≠ '/') (previous : Option Char)
    (rest : List Char) : ∃ more, startOf previous (c :: rest) = .code more := by
  unfold startOf
  split <;> simp_all

/-- Without slashes behind what has been started, nothing but code comes. -/
theorem mark_of_no_slash {previous : Option Char} {more : Nat} {cs : List Char}
    (noSlash : '/' ∉ cs.drop more) : ∀ m ∈ marksFrom previous more .code cs, m.mark = .code := by
  induction cs generalizing previous more with
  | nil => exact fun _ absent => nomatch absent
  | cons c rest ih =>
    cases more with
    | succ more =>
      rw [marksFrom, List.forall_mem_cons]
      exact ⟨rfl, ih noSlash⟩
    | zero =>
      obtain ⟨other, later⟩ := not_or.mp (mt List.mem_cons.mpr noSlash)
      obtain ⟨more, start⟩ := exists_startOf_code (Ne.symm other) previous rest
      rw [marksFrom, start]
      dsimp only
      rw [List.forall_mem_cons]
      exact ⟨rfl, ih fun slash => later (List.mem_of_mem_drop slash)⟩

/-- After `r` that may start a raw string, all of the raw string is code. -/
theorem mark_of_raw {previous : Option Char} (may : mayStartRaw previous = true) {hashes : Nat}
    {body : List Char} (inside : ¬closing hashes <:+: body) :
    ∀ m ∈ marksFrom previous 0 .code
      ('r' :: (List.replicate hashes '#' ++ enclosed hashes body)), m.mark = .code := by
  have whole : rawTail 0 (List.replicate hashes '#' ++ enclosed hashes body) =
      (List.replicate hashes '#' ++ enclosed hashes body).length := by
    rw [enclosed, rawTail_replicate, Nat.zero_add, rawLength_closing inside]
    simp only [List.length_append, List.length_replicate, List.length_cons]
  have start : startOf previous ('r' :: (List.replicate hashes '#' ++ enclosed hashes body)) =
      .code (List.replicate hashes '#' ++ enclosed hashes body).length := by
    rw [startOf, may, ← whole, enclosed, opensRaw_replicate]
    rfl
  rw [marksFrom, start]
  dsimp only
  rw [List.forall_mem_cons]
  refine ⟨rfl, mark_of_no_slash ?_⟩
  rw [List.drop_length]
  exact List.not_mem_nil

theorem mark_of_enclosed {hashes : Nat} {body : List Char} (noQuote : '"' ∉ body) :
    ∀ m ∈ marks (enclosed hashes body), m.mark = .code := by
  rw [marks, enclosed, marksFrom, startOf]
  dsimp only
  rw [List.forall_mem_cons]
  refine ⟨rfl, mark_of_no_slash fun slash => ?_⟩
  -- what is left behind the string is part of the end of the literal
  rw [List.drop_append, List.drop_of_length_le (length_le_quotedLength noQuote _),
    List.nil_append] at slash
  have ending := List.mem_of_mem_drop slash
  simp [closing] at ending

/-! ## Words before quotes -/

theorem cutLines_append {front : List Marked} (unbroken : ∀ m ∈ front, m.char ≠ '\n')
    (line ms : List Marked) :
    cutLines line (front ++ ms) = cutLines (front.reverse ++ line) ms := by
  induction front generalizing line with
  | nil => rfl
  | cons m front ih =>
    obtain ⟨here, later⟩ := List.forall_mem_cons.mp unbroken
    rw [List.cons_append, cutLines, if_neg here, ih later, List.reverse_cons, List.append_assoc,
      List.singleton_append]

/-- The current line is the beginning of the first one. -/
theorem exists_cutLines (ms : List Marked) :
    ∃ first others, ∀ line, cutLines line ms = (line.reverse ++ first) :: others := by
  induction ms with
  | nil => exact ⟨[], [], fun line => by rw [cutLines, List.append_nil]⟩
  | cons m rest ih =>
    obtain ⟨first, others, cut⟩ := ih
    by_cases ends : m.char = '\n'
    · exact ⟨[m], cutLines [] rest, fun line => by rw [cutLines, if_pos ends, List.reverse_cons]⟩
    · refine ⟨m :: first, others, fun line => ?_⟩
      rw [cutLines, if_neg ends, cut, List.reverse_cons, List.append_assoc, List.singleton_append]

theorem keepLine_of_full {line : List Marked} {m : Marked} (present : m ∈ line)
    (code : m.mark = .code) (full : isBlank m.char = false) : keepLine line = remains line := by
  have kept : (line.filter fun m => m.mark == .code).all (fun m => isBlank m.char) = false := by
    rw [List.all_eq_false]
    exact ⟨m, List.mem_filter.mpr ⟨present, by simp [code]⟩, by simp [full]⟩
  rw [keepLine, kept, Bool.and_false, if_neg (by decide)]

/-- Code on the line of a quote that follows it is kept, and what is kept of the rest does not
depend on it. -/
theorem flatMap_keepLine_append {front : List Marked} (unbroken : ∀ m ∈ front, m.char ≠ '\n')
    (code : ∀ m ∈ front, m.mark = .code) (ms : List Marked) :
    (cutLines [] (front ++ ⟨'"', .code⟩ :: ms)).flatMap keepLine =
      front.map Marked.char ++ (cutLines [] (⟨'"', .code⟩ :: ms)).flatMap keepLine := by
  obtain ⟨first, others, cut⟩ := exists_cutLines ms
  have full : isBlank '"' = false := by decide
  have whole : remains front = front.map Marked.char := by
    rw [remains, List.filter_eq_self.mpr fun m present => by simp [code m present]]
  have line : keepLine (front ++ ⟨'"', .code⟩ :: first) =
      front.map Marked.char ++ keepLine (⟨'"', .code⟩ :: first) := by
    rw [keepLine_of_full (List.mem_append_right _ List.mem_cons_self) rfl full,
      keepLine_of_full List.mem_cons_self rfl full, ← whole, remains, remains, remains,
      List.filter_append, List.map_append]
  have quote (line : List Marked) :
      cutLines line (⟨'"', .code⟩ :: ms) = (line.reverse ++ ⟨'"', .code⟩ :: first) :: others := by
    rw [cutLines, if_neg (by decide), cut, List.reverse_cons, List.append_assoc,
      List.singleton_append]
  rw [cutLines_append unbroken, quote, quote, List.flatMap_cons, List.flatMap_cons,
    List.append_nil, List.reverse_reverse, line, List.append_assoc]
  rfl

/-- Hashes before a quote, outside of literals, are code. -/
theorem marksFrom_replicate (previous : Option Char) (n hashes : Nat) (body : List Char) :
    marksFrom previous 0 .code (List.replicate n '#' ++ enclosed hashes body) =
      (List.replicate n '#').map (⟨·, .code⟩) ++ marks (enclosed hashes body) := by
  induction n generalizing previous with
  | zero => rfl
  | succ n ih =>
    have start : startOf previous ('#' :: (List.replicate n '#' ++ enclosed hashes body)) =
        .code 0 := rfl
    rw [List.replicate_succ, List.cons_append, marksFrom, start, List.map_cons, List.cons_append]
    exact congrArg (List.cons _) (ih _)

/-- The mark `cr` is read as a word. -/
theorem marks_c (hashes : Nat) (body : List Char) :
    marks (rawString .c hashes body) =
      ('c' :: 'r' :: List.replicate hashes '#').map (⟨·, .code⟩) ++
        marks (enclosed hashes body) := by
  have word : mayStartRaw (some 'c') = false := by decide
  have first (rest : List Char) : startOf none ('c' :: rest) = .code 0 := rfl
  have second (rest : List Char) : startOf (some 'c') ('r' :: rest) = .code 0 := by
    rw [startOf, word]
    rfl
  rw [marks, rawString, RawMark.letters, List.cons_append, List.cons_append, List.nil_append,
    marksFrom, first]
  dsimp only
  rw [marksFrom, second]
  dsimp only
  rw [marksFrom_replicate, List.map_cons, List.map_cons, List.cons_append, List.cons_append]

/-- A raw string for C is kept as far as the string with escapes at its first quote is. -/
theorem stripComments_c (hashes : Nat) (body : List Char) :
    stripComments (String.ofList (rawString .c hashes body)) =
      String.ofList ('c' :: 'r' :: List.replicate hashes '#') ++
        stripComments (String.ofList (enclosed hashes body)) := by
  obtain ⟨ms, quote⟩ : ∃ ms, marks (enclosed hashes body) = ⟨'"', .code⟩ :: ms := by
    rw [marks, enclosed, marksFrom, startOf]
    exact ⟨_, rfl⟩
  have unbroken : ∀ m ∈ ('c' :: 'r' :: List.replicate hashes '#').map (⟨·, .code⟩ : Char → Marked),
      m.char ≠ '\n' := by
    rw [List.forall_mem_map]
    simp
  have code : ∀ m ∈ ('c' :: 'r' :: List.replicate hashes '#').map (⟨·, .code⟩ : Char → Marked),
      m.mark = .code := by
    rw [List.forall_mem_map]
    exact fun _ _ => rfl
  rw [stripComments_eq_flatMap, stripComments_eq_flatMap, String.toList_ofList,
    String.toList_ofList, marks_c, quote, flatMap_keepLine_append unbroken code,
    String.ofList_append, List.map_map]
  simp [Function.comp_def]

/-! ## Which raw strings are kept -/

theorem stripComments_raw {mark : RawMark} (known : mark ≠ .c) {hashes : Nat} {body : List Char}
    (inside : ¬closing hashes <:+: body) :
    stripComments (String.ofList (rawString mark hashes body)) =
      String.ofList (rawString mark hashes body) := by
  refine stripComments_of_code ?_
  rw [String.toList_ofList]
  cases mark with
  | plain => exact mark_of_raw rfl inside
  | byte =>
    have may : mayStartRaw (some 'b') = true := by decide
    have start (rest : List Char) : startOf none ('b' :: rest) = .code 0 := rfl
    rw [marks, rawString, RawMark.letters, List.cons_append, marksFrom, start]
    dsimp only
    rw [List.forall_mem_cons]
    exact ⟨rfl, mark_of_raw may inside⟩
  | c => exact absurd rfl known

/-- Raw strings and raw byte strings are kept as they are. A raw string for C is kept as far as the
string with escapes that starts at its first quote, with what follows that. This is all of it where
no quote stands inside. -/
theorem raw_strings_kept (mark : RawMark) (hashes : Nat) {body : List Char}
    (inside : ¬closing hashes <:+: body) :
    (stripComments (String.ofList (rawString mark hashes body)) =
        String.ofList (rawString mark hashes body) ↔
      (mark = .c → stripComments (String.ofList (enclosed hashes body)) =
        String.ofList (enclosed hashes body))) ∧
    (mark = .c → stripComments (String.ofList (rawString mark hashes body)) =
        String.ofList ('c' :: 'r' :: List.replicate hashes '#') ++
          stripComments (String.ofList (enclosed hashes body))) ∧
    ('"' ∉ body → stripComments (String.ofList (rawString mark hashes body)) =
        String.ofList (rawString mark hashes body)) := by
  have spelled : String.ofList (rawString .c hashes body) =
      String.ofList ('c' :: 'r' :: List.replicate hashes '#') ++
        String.ofList (enclosed hashes body) := by
    rw [← String.ofList_append]
    rfl
  have kept : stripComments (String.ofList (rawString mark hashes body)) =
        String.ofList (rawString mark hashes body) ↔
      (mark = .c → stripComments (String.ofList (enclosed hashes body)) =
        String.ofList (enclosed hashes body)) := by
    by_cases known : mark = .c
    · subst known
      rw [stripComments_c, spelled, String.append_right_inj]
      exact ⟨fun same _ => same, fun same => same rfl⟩
    · exact iff_of_true (stripComments_raw known inside) fun same => absurd same known
  refine ⟨kept, ?_, fun noQuote => kept.mpr fun _ => stripComments_of_code ?_⟩
  · rintro rfl
    exact stripComments_c hashes body
  · rw [String.toList_ofList]
    exact mark_of_enclosed noQuote

/-- A byte string with a quote, slashes, a line break and a backslash at its end. -/
theorem raw_strings_kept_slashes :
    ¬closing 1 <:+: "a\"//\n\\".toList ∧
      stripComments "br#\"a\"//\n\\\"#" = "br#\"a\"//\n\\\"#" := by
  have inside : ¬closing 1 <:+: "a\"//\n\\".toList := by decide
  have spelled : String.ofList (rawString .byte 1 "a\"//\n\\".toList) =
      "br#\"a\"//\n\\\"#" := rfl
  have kept := (raw_strings_kept .byte 1 inside).1.mpr fun same => nomatch same
  rw [spelled] at kept
  exact ⟨inside, kept⟩

/-- A string for C with the same quote and slashes is cut off behind the quote. -/
theorem raw_c_string_cut :
    ¬closing 1 <:+: "a\"// b".toList ∧
      String.ofList (rawString .c 1 "a\"// b".toList) = "cr#\"a\"// b\"#" ∧
      stripComments "cr#\"a\"// b\"#" = "cr#\"a\"" := by
  exact ⟨by decide, rfl, by decide +kernel⟩

end SyntaxExport.Text
