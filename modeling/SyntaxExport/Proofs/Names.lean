import SyntaxExport.Proofs.LineIndex
import SyntaxExport.Proofs.Schema

/-!
# Names and their source text

The node of a name tells its identifier twice: as an attribute, which is the word itself, and by its
place in the source, from which its text is taken. The place is counted in what is left of the
source without a second byte order mark and without the line for the operating system, while the
text is taken from the source with both. The line has no word behind it, so it does no harm. The
mark moves the words on the first line by one character.

Results:
1. `stripComments_of_plain`: a word has nothing in it that starts a comment or a literal.
2. `named_lower`: the nodes of names are those of words.
3. `sourceText?_name`: the text at a word's place is the word if no mark stands before it.
4. `names_quoted`: the same for all names of source texts; `name_after_two_marks`: the exception.
-/

namespace SyntaxExport

/-! ## Characters of words -/

namespace Scan

open Text

/-- The characters that words are made of; the hash is the one of raw identifiers. -/
def isWordChar (c : Char) : Bool :=
  isIdentifierStart c || isIdentifierContinue c || c == '#'

theorem isWordChar_of_mem_identifier (cs : List Char) :
    ∀ c ∈ cs.take (identifier cs), isWordChar c = true := by
  cases cs with
  | nil => exact fun c present => absurd present List.not_mem_nil
  | cons first rest =>
    rw [identifier]
    split
    · next starts =>
      have continued : rest.take (rest.takeWhile isIdentifierContinue).length =
          rest.takeWhile isIdentifierContinue :=
        (List.prefix_iff_eq_take.mp (List.takeWhile_prefix _)).symm
      rw [Nat.add_comm, List.take_succ_cons, continued, List.forall_mem_cons]
      refine ⟨by rw [isWordChar, starts]; rfl, fun c present => ?_⟩
      rw [isWordChar, List.mem_takeWhile_imp present, Bool.or_true, Bool.true_or]
    · exact fun c present => absurd present List.not_mem_nil

theorem isWordChar_of_word? {cs : List Char} {count : Nat} (scanned : word? cs = some count) :
    ∀ c ∈ cs.take count, isWordChar c = true := by
  obtain ⟨-, rfl | ⟨rest, rfl, rfl⟩⟩ := word?_cases scanned
  · exact isWordChar_of_mem_identifier cs
  · refine List.forall_mem_cons.mpr ⟨by decide, List.forall_mem_cons.mpr ⟨by decide, ?_⟩⟩
    exact isWordChar_of_mem_identifier rest

end Scan

namespace Word

variable {src : List Char} (w : Word src)

theorem length_pos : 0 < w.text.toList.length := by
  obtain ⟨_, _, _, _, scanned⟩ := w.located
  exact (Scan.word?_cases scanned).1

theorem isWordChar_of_mem : ∀ c ∈ w.text.toList, Scan.isWordChar c = true := by
  obtain ⟨_, after, _, _, scanned⟩ := w.located
  have chars := Scan.isWordChar_of_word? scanned
  rwa [List.take_left] at chars

theorem not_mem {c : Char} (other : Scan.isWordChar c = false) : c ∉ w.text.toList := fun present =>
  Bool.false_ne_true (other.symm.trans (w.isWordChar_of_mem c present))

end Word

/-! ## Text without comments -/

namespace Text

/-- Nothing in the text starts a comment or a literal or ends a line. -/
def Plain (cs : List Char) : Prop :=
  ∀ c ∈ cs, c ∉ ['\n', '/', '"', '\'']

theorem opensRaw_of_not_mem {cs : List Char} (noQuote : '"' ∉ cs) : opensRaw cs = false := by
  fun_induction opensRaw cs with
  | case1 rest ih => exact ih (mt (List.mem_cons_of_mem _) noQuote)
  | case2 rest => exact absurd List.mem_cons_self noQuote
  | case3 => rfl

theorem keepFrom_of_plain {cs : List Char} (plain : Plain cs) (previous : Option Char) (k : Kept) :
    keepFrom .code previous k cs = ⟨k.finished, cs.reverse ++ k.line, k.commented⟩ := by
  induction cs generalizing previous k with
  | nil => rfl
  | cons c rest ih =>
    obtain ⟨own, plain⟩ := List.forall_mem_cons.mp plain
    have noRaw : opensRaw rest = false :=
      opensRaw_of_not_mem fun present => plain '"' present (by decide)
    simp only [List.mem_cons, List.not_mem_nil, or_false, not_or] at own
    unfold keepFrom
    simp [own, noRaw, ih plain, Kept.push]

theorem stripComments_of_plain {s : String} (plain : Plain s.toList) : stripComments s = s := by
  rw [stripComments, keepFrom_of_plain plain]
  simp [Kept.chars, Kept.isVoid, Kept.empty]

end Text

theorem Word.plain {src : List Char} (w : Word src) : Text.Plain w.text.toList := by
  have others : ['\n', '/', '"', '\''].all (!Scan.isWordChar ·) = true := by decide
  intro c present special
  have other := List.all_eq_true.mp others c special
  rw [w.isWordChar_of_mem c present] at other
  cases other

/-! ## Nodes of names -/

namespace Lowering

open Node

variable {src : List Char} {l : Lowering} {typeName : String} {extent : Extent}
  {attributes : List (String × String)} {singular : List (String × Option Node)}
  {lists : List (String × List Node)}

/-- Every node of the tree that has the type of names is the node of a word. -/
def Named (src : List Char) (l : Lowering) (n : Node) : Prop :=
  ∀ m ∈ n.preorder, m.typeName = "Ident" → ∃ w : Word src, m = l.name w

theorem Named.mk {n : Node} (own : n.typeName = "Ident" → ∃ w : Word src, n = l.name w)
    (below : ∀ c ∈ n.children, Named src l c) : Named src l n := by
  intro m present
  rcases mem_preorder_iff.mp present with rfl | ⟨c, child, inside⟩
  · exact own
  · exact below c child m inside

theorem named_name (w : Word src) : Named src l (l.name w) :=
  .mk (fun _ => ⟨w, rfl⟩) (List.forall_mem_nil _)

theorem named_of_ne {info : NodeInfo} (other : info.typeName ≠ "Ident")
    (slots : ∀ slot ∈ singular, ∀ c ∈ slot.2, Named src l c)
    (items : ∀ list ∈ lists, ∀ c ∈ list.2, Named src l c) :
    Named src l (.mk info singular lists) :=
  .mk (fun same => absurd same other) (forall_mem_children slots items)

theorem typeName_info (span : Option Span) :
    (l.info typeName span attributes).typeName = typeName := by
  obtain ⟨coordinates, text, same⟩ := l.info_eq typeName span attributes
  rw [same]

theorem named_plain {span : Option Span} (other : typeName ≠ "Ident")
    (slots : ∀ slot ∈ singular, ∀ c ∈ slot.2, Named src l c)
    (items : ∀ list ∈ lists, ∀ c ∈ list.2, Named src l c) :
    Named src l (.mk (l.info typeName span attributes) singular lists) :=
  named_of_ne (by rw [typeName_info]; exact other) slots items

theorem named_leaf {span : Option Span} (other : typeName ≠ "Ident") :
    Named src l (.mk (l.info typeName span attributes) [] []) :=
  named_plain other (List.forall_mem_nil _) (List.forall_mem_nil _)

theorem named_expression (other : typeName ≠ "Ident")
    (slots : ∀ slot ∈ singular, ∀ c ∈ slot.2, Named src l c)
    (items : ∀ list ∈ lists, ∀ c ∈ list.2, Named src l c) :
    Named src l (l.expression typeName extent attributes singular lists) :=
  named_of_ne (fun same => other ((typeName_info _).symm.trans same)) slots items

theorem named_comment {attached : List Attribute} : ∀ c ∈ l.comment attached, Named src l c := by
  intro c present
  cases first : (attached.filter isDoc).head? with
  | none =>
    simp only [comment, first] at present
    cases present
  | some a =>
    cases last : (attached.filter isDoc).getLast? with
    | none =>
      simp only [comment, first, last] at present
      cases present
    | some b =>
      simp only [comment, first, last] at present
      cases present
      exact named_leaf (by decide)

theorem named_otherAttributes {attached : List Attribute} :
    ∀ c ∈ l.otherAttributes attached, Named src l c := by
  intro c present
  obtain ⟨a, _, rfl⟩ := List.mem_map.mp present
  exact named_leaf (by decide)

theorem named_attributed {attached : List Attribute} (other : typeName ≠ "Ident")
    (slots : ∀ slot ∈ singular, ∀ c ∈ slot.2, Named src l c)
    (items : ∀ list ∈ lists, ∀ c ∈ list.2, Named src l c) :
    Named src l (l.attributed typeName extent attached attributes singular lists) := by
  refine named_plain other ?_ ?_
  · exact List.forall_mem_cons.mpr ⟨named_comment, slots⟩
  · exact List.forall_mem_cons.mpr ⟨named_otherAttributes, items⟩

/-- In the nodes of syntax, the names are those of words. -/
theorem named_lower {c : Category} {s : Shape} (l : Lowering) (part : Ast src c s) :
    s.Each (Named src l) (l.lower part) := by
  have onName (word : Word src) : Named src l (l.name word) := named_name word
  have onTree (tree : Extent) : Named src l (l.verbatim "UseTree" tree) :=
    named_leaf (by decide)
  induction part with
  | nil => exact List.forall_mem_nil _
  | cons _ _ ihHead ihTail => exact List.forall_mem_cons.mpr ⟨ihHead, ihTail⟩
  | absent => exact nofun
  | present _ ih => exact fun _ same => Option.some_inj.mp same ▸ ih
  -- these stand for what is inside
  | typeGroup _ ih | argumentType _ ih | exprGroup _ ih | stmtItem _ ih | stmtExpression _ ih
  | itemFunction _ ih | implFunction _ ih | traitFunction _ ih => exact ih
  | exprLiteral | patLiteral =>
    exact named_of_ne (by rw [typeName_info]; decide) (List.forall_mem_nil _)
      (List.forall_mem_nil _)
  | exprStruct _ _ _ _ _ ihRest ihFields =>
    exact named_of_ne (by rw [typeName_info]; decide) (List.forall_mem_singleton.mpr ihRest)
      (List.forall_mem_singleton.mpr ihFields)
  | argumentLifetime | argumentOther | argumentParenthesized | patRange | patVerbatim | itemVerbatim
  | implVerbatim | traitVerbatim => exact named_leaf (by decide)
  -- the type name of these is chosen by a word of their own
  | typeVerbatim kind =>
    apply named_leaf
    cases kind <;> decide
  | function role =>
    apply named_attributed
    case other => cases role <;> decide
    case slots => simp_all
    case items => simp_all
  -- no other kind has the type of names, and what is in its slots is named by induction
  | typePath | typeReference | typeTuple | typeArray | typeSlice | typePointer | typeParen
  | segment | fieldValue | patName | patTyped | patTuple | patTupleStruct | patStruct
  | patReference | patWild | patPath | patOr | patSlice | patRest | fieldPat | block | stmtEffect
  | paramReceiver | paramTyped | genericType | genericLifetime | genericConst =>
    apply named_plain
    case other => decide
    case slots => simp_all
    case items => simp_all
  | exprPath | exprBinary | exprUnary | exprCall | exprMethodCall | exprField | exprIndex
  | exprParen | exprReference | exprCast | exprTuple | exprArray | exprRepeat | exprIf | exprWhile
  | exprFor | exprLoop | exprBlock | exprUnsafe | exprAsync | exprAwait | exprTry | exprReturn
  | exprBreak | exprContinue | exprAssign | exprRange | exprClosure | exprMatch | exprLet
  | exprMacro | exprVerbatim =>
    apply named_expression
    case other => decide
    case slots => simp_all
    case items => simp_all
  | arm | stmtLet | stmtMacro | field | variant | itemStruct | itemEnum | itemUse | itemConst
  | itemStatic | itemModule | itemImpl | itemTrait | itemType | itemMacro | implConst | implType
  | traitConst | traitType =>
    apply named_attributed
    case other => decide
    case slots => simp_all
    case items => simp_all

theorem named_file (l : Lowering) (f : SourceFile src) : Named src l (l.file f) :=
  named_attributed (by decide) (List.forall_mem_nil _)
    (List.forall_mem_singleton.mpr (l.named_lower f.items))

end Lowering

/-! ## Places of words -/

namespace Word

variable {src : List Char} (w : Word src)

theorem start_ne_stop : w.span.start ≠ w.span.stop := by
  obtain ⟨before, _, _, place, _⟩ := w.located
  have wide := w.length_pos
  rw [place, Position.after_of_not_mem (w.not_mem (c := '\n') (by decide))]
  intro same
  have columns : (Position.start.after before).column =
      (Position.start.after before).column + w.text.toList.length := congrArg Position.column same
  omega

/-- In a text that begins with a line feed all words come after it. -/
theorem one_lt_line_of_head (feed : ∀ c ∈ src.head?, c = '\n') : 1 < w.span.start.line := by
  obtain ⟨before, after, split, place, _⟩ := w.located
  rw [place, Position.one_lt_line_after_iff]
  cases before with
  | cons c rest =>
    rw [split] at feed
    exact feed c rfl ▸ List.mem_cons_self
  | nil =>
    obtain ⟨c, rest, spelled⟩ := List.exists_cons_of_length_pos w.length_pos
    rw [split, spelled] at feed
    exact absurd (spelled ▸ feed c rfl ▸ List.mem_cons_self) (w.not_mem (c := '\n') (by decide))

end Word

namespace Lowering

variable {content : List Char}

theorem info_name (l : Lowering) (w : Word content) :
    (l.name w).info =
      { typeName := "Ident", attributes := [("identifier", w.text)],
        coordinates := some (coordinates w.span), text := l.slice? w.span } := by
  have shown : (some w.span).filter (fun s => s.start ≠ s.stop) = some w.span :=
    Option.filter_eq_some_iff.mpr ⟨rfl, decide_eq_true w.start_ne_stop⟩
  rw [name, Node.info, info, shown]

theorem attribute?_name (l : Lowering) (w : Word content) :
    (l.name w).attribute? "identifier" = some w.text := by
  rw [Node.attribute?, Node.attributes, info_name]
  rfl

/-- The text of a name is what the source has at the place of its word. -/
theorem sourceText?_of_span {source front cs back : List Char} {w : Word content}
    (split : source = front ++ cs ++ back)
    (span : w.span = ⟨Position.start.after front, Position.start.after (front ++ cs)⟩) :
    ((ofSource (String.ofList source)).name w).sourceText? =
      some (Text.stripComments (String.ofList cs)) := by
  rw [Node.sourceText?, info_name, split, span, text?_slice?, Option.map_some]

/-- The text at the place of a word is the word. What stands before the text whose positions are
counted may be of one line if the word is not on that line. -/
theorem sourceText?_name {lead : List Char} (w : Word content) (noFeed : '\n' ∉ lead)
    (apart : lead = [] ∨ 1 < w.span.start.line) :
    ((ofSource (String.ofList (lead ++ content))).name w).sourceText? = some w.text := by
  obtain ⟨before, after, split, place, _⟩ := w.located
  have aligned : Position.start.after (lead ++ before) = Position.start.after before := by
    rcases apart with rfl | below
    · rfl
    · rw [place, Position.one_lt_line_after_iff] at below
      exact Position.after_append_of_feed noFeed below
  have span : w.span = ⟨Position.start.after (lead ++ before),
      Position.start.after (lead ++ before ++ w.text.toList)⟩ := by
    rw [Cursor.after_append _ (lead ++ before), aligned, place]
  have source : lead ++ content = lead ++ before ++ w.text.toList ++ after := by
    rw [List.append_assoc, List.append_assoc, ← List.append_assoc before, ← split]
  rw [sourceText?_of_span source span, String.ofList_toList, Text.stripComments_of_plain w.plain]

/-- A mark in front of the text whose positions are counted moves the first line. The text at the
place of a word there begins one character before the word. -/
theorem sourceText?_name_of_mark (mark : Char) (isMark : mark ≠ '\n') (w : Word content)
    (above : ¬1 < w.span.start.line) :
    ∃ front c after, mark :: content = front ++ c :: w.text.toList ++ after ∧
      ((ofSource (String.ofList (mark :: content))).name w).sourceText? =
        some (Text.stripComments (String.ofList (c :: w.text.toList.dropLast))) := by
  obtain ⟨before, after, split, place, _⟩ := w.located
  rw [place, Position.one_lt_line_after_iff] at above
  have noFeed : '\n' ∉ w.text.toList := w.not_mem (by decide)
  -- the last character of what stands before the word moves into the place of its first
  obtain ⟨front, c, shifted⟩ : ∃ front c, mark :: before = front ++ [c] :=
    ⟨_, _, (List.dropLast_append_getLast (List.cons_ne_nil _ _)).symm⟩
  obtain ⟨start, last, spelled⟩ : ∃ start last, w.text.toList = start ++ [last] :=
    ⟨_, _, (List.dropLast_append_getLast (List.length_pos_iff.mp w.length_pos)).symm⟩
  have source : mark :: content = front ++ c :: start ++ last :: after := by
    rw [split, ← List.cons_append, ← List.cons_append, shifted, spelled]
    simp only [List.append_assoc, List.cons_append, List.nil_append]
  have unbroken : '\n' ∉ front ++ c :: start := by
    have line : mark :: before ++ start = front ++ c :: start := by
      rw [shifted, List.append_assoc, List.singleton_append]
    intro present
    rw [← line] at present
    rcases List.mem_append.mp present with inFront | inWord
    · exact (List.mem_cons.mp inFront).elim (fun same => isMark same.symm) above
    · exact noFeed (spelled ▸ List.mem_append_left _ inWord)
  have length : front.length = before.length :=
    Nat.succ.inj ((congrArg List.length shifted).trans List.length_append).symm
  have span : w.span =
      ⟨Position.start.after front, Position.start.after (front ++ c :: start)⟩ := by
    rw [place, Position.after_of_not_mem above, Position.after_of_not_mem noFeed,
      Position.after_of_not_mem unbroken, Position.after_of_not_mem
        (mt (List.mem_append_left _) unbroken), List.length_append, length, spelled,
      List.length_append]
    exact congrArg _ (congrArg _ (Nat.add_assoc ..))
  refine ⟨front, c, after, by rw [source, spelled]; simp, ?_⟩
  rw [sourceText?_of_span source span, spelled, List.dropLast_concat]

end Lowering

/-! ## Source texts -/

namespace Source

/-- The byte order mark twice. -/
def twoMarks : List Char :=
  [Tree.byteOrderMark, Tree.byteOrderMark]

theorem withoutMark_twice (text : List Char) :
    (¬twoMarks <+: text ∧ withoutMark (withoutMark text) = withoutMark text) ∨
      text = twoMarks ++ withoutMark (withoutMark text) := by
  cases text with
  | nil => exact .inl ⟨by decide, rfl⟩
  | cons c others =>
    by_cases first : c = Tree.byteOrderMark
    · cases others with
      | nil =>
        refine .inl ⟨?_, by simp [withoutMark, first]⟩
        rintro ⟨_, marked⟩
        simp [twoMarks] at marked
      | cons d rest =>
        by_cases second : d = Tree.byteOrderMark
        · exact .inr (by simp [withoutMark, twoMarks, first, second])
        · refine .inl ⟨?_, by simp [withoutMark, first, second]⟩
          rintro ⟨_, marked⟩
          exact second (List.cons.inj (List.cons.inj marked).2).1.symm
    · refine .inl ⟨?_, by simp [withoutMark, first]⟩
      rintro ⟨_, marked⟩
      exact first (List.cons.inj marked).1.symm

theorem exists_shebang (cs : List Char) :
    ∃ line, cs = line ++ (splitShebang cs).2 ∧ '\n' ∉ line ∧
      (line = [] ∨ ∀ c ∈ (splitShebang cs).2.head?, c = '\n') := by
  have whole : ∃ line, cs = line ++ cs ∧ '\n' ∉ line ∧ (line = [] ∨ ∀ c ∈ cs.head?, c = '\n') :=
    ⟨[], rfl, List.not_mem_nil, .inl rfl⟩
  unfold splitShebang
  split
  · split
    · exact whole
    · next rest _ =>
      refine ⟨('#' :: '!' :: rest).takeWhile (· ≠ '\n'), ?_, ?_, .inr ?_⟩
      · exact List.takeWhile_append_dropWhile.symm
      · intro present
        exact absurd (List.mem_takeWhile_imp present) (by decide)
      · intro c first
        have stopped := List.head?_dropWhile_not (· ≠ '\n') ('#' :: '!' :: rest)
        rw [Option.mem_def.mp first] at stopped
        simpa using stopped
  · exact whole

/-- The tree of a source text is that of a file. Its positions are counted in the content of the
source, before which only a mark and the line for the operating system can stand. -/
theorem exists_content {text : String} {root : Node} (parsed : parse text = .ok root) :
    ∃ (marks line content : List Char) (f : SourceFile content),
      root = (Lowering.ofSource (String.ofList (marks ++ line ++ content))).file f ∧
        (marks = [] ∧ ¬twoMarks <+: text.toList ∨
          marks = [Tree.byteOrderMark] ∧ text.toList = twoMarks ++ (line ++ content)) ∧
        '\n' ∉ line ∧ (line = [] ∨ ∀ c ∈ content.head?, c = '\n') := by
  obtain ⟨line, split, noFeed, shebang⟩ := exists_shebang (withoutMark (withoutMark text.toList))
  have placed (f : SourceFile (splitShebang (withoutMark (withoutMark text.toList))).2) {source}
      (same : withoutMark text.toList = source) :
      (Lowering.ofSource (String.ofList (withoutMark text.toList))).file f =
        (Lowering.ofSource (String.ofList source)).file f :=
    congrArg (fun source => (Lowering.ofSource (String.ofList source)).file f) same
  simp only [parse] at parsed
  split at parsed
  · cases parsed
  · next f _ =>
    cases parsed
    rcases withoutMark_twice text.toList with ⟨single, same⟩ | marked
    · refine ⟨[], line, _, f, placed f ?_, .inl ⟨rfl, single⟩, noFeed, shebang⟩
      rw [List.nil_append, ← split, same]
    · refine ⟨[Tree.byteOrderMark], line, _, f, placed f ?_, .inr ⟨rfl, ?_⟩, noFeed, shebang⟩
      · rw [List.append_assoc, ← split]
        exact congrArg withoutMark marked
      · rw [← split, ← marked]

/-- The name stands on the first line of a text that begins with two marks. -/
def Shifted (text : String) (n : Node) : Prop :=
  twoMarks <+: text.toList ∧ n.info.coordinates.all (·.startLine = 1) = true

theorem shifted_name_iff {text : String} {content : List Char} (l : Lowering) (w : Word content) :
    Shifted text (l.name w) ↔ twoMarks <+: text.toList ∧ ¬1 < w.span.start.line := by
  have positive : 0 < w.span.start.line := by
    obtain ⟨before, _, _, place, _⟩ := w.located
    rw [place, Position.line_after]
    exact Nat.add_pos_left Nat.zero_lt_one _
  have first : (Lowering.coordinates w.span).startLine = 1 ↔ ¬1 < w.span.start.line := by
    show w.span.start.line = 1 ↔ _
    omega
  rw [Shifted, Lowering.info_name, Option.all_some, decide_eq_true_iff, first]

/-- The names of a source text tell their identifiers and have them as their source text, whatever
stands before them. On the first line of a text with two marks in front, the source text of a name
begins with the character before it and lacks its last one. -/
theorem names_quoted {text : String} {root : Node} (parsed : parse text = .ok root) {n : Node}
    (inside : n ∈ root.preorder) (isName : n.typeName = "Ident") :
    ∃ identifier : String, n.attribute? "identifier" = some identifier ∧
      (¬Shifted text n → n.sourceText? = some identifier) ∧
      (Shifted text n → ∃ front c after,
        text.toList = front ++ c :: identifier.toList ++ after ∧
          n.sourceText? =
            some (Text.stripComments (String.ofList (c :: identifier.toList.dropLast)))) := by
  obtain ⟨marks, line, content, f, rfl, marked, noFeed, shebang⟩ := exists_content parsed
  obtain ⟨w, rfl⟩ := Lowering.named_file _ f n inside isName
  rw [shifted_name_iff]
  refine ⟨w.text, Lowering.attribute?_name _ w, fun straight => ?_, fun ⟨twice, above⟩ => ?_⟩
  · rcases marked with ⟨rfl, _⟩ | ⟨rfl, spelled⟩
    · exact Lowering.sourceText?_name w noFeed (shebang.imp_right w.one_lt_line_of_head)
    · have below : 1 < w.span.start.line :=
        Decidable.not_not.mp fun above => straight ⟨⟨line ++ content, spelled.symm⟩, above⟩
      have unbroken : '\n' ∉ [Tree.byteOrderMark] ++ line := fun present =>
        (List.mem_cons.mp present).elim (by decide) noFeed
      exact Lowering.sourceText?_name w unbroken (.inr below)
  · rcases marked with ⟨_, single⟩ | ⟨rfl, spelled⟩
    · exact absurd twice single
    · obtain rfl : line = [] := shebang.resolve_right fun feed => above (w.one_lt_line_of_head feed)
      obtain ⟨front, c, after, split, quoted⟩ :=
        Lowering.sourceText?_name_of_mark Tree.byteOrderMark (by decide) w above
      refine ⟨Tree.byteOrderMark :: front, c, after, ?_, quoted⟩
      exact spelled.trans (congrArg (Tree.byteOrderMark :: ·) split)

/-- The first part of the first item of a text. -/
def firstPart? (text : String) : Option Node :=
  (parse text).toOption.bind fun root => root.children[0]?.bind fun item => item.children[0]?

theorem exists_of_firstPart? {α : Type} {look : Node → α} {seen : α} {text : String}
    (found : (firstPart? text).map look = some seen) :
    ∃ root n, parse text = .ok root ∧ n ∈ root.preorder ∧ look n = seen := by
  obtain ⟨n, part, shown⟩ := Option.map_eq_some_iff.mp found
  obtain ⟨root, parsed, below⟩ := Option.bind_eq_some_iff.mp part
  obtain ⟨item, first, second⟩ := Option.bind_eq_some_iff.mp below
  have inside : n ∈ root.preorder :=
    Node.mem_preorder_of_getElem? first
      (Node.mem_preorder_of_getElem? second (Node.mem_preorder_self n))
  refine ⟨root, n, ?_, inside, shown⟩
  cases result : parse text with
  | error e => rw [result] at parsed; cases parsed
  | ok tree => rw [result] at parsed; cases parsed; rfl

/-- A name on the second line, behind two marks, a line for the operating system that ends with a
carriage return, and a comment with a long character. -/
theorem names_quoted_second_line :
    ∃ root n, parse "\uFEFF\uFEFF#!\r\n/* é */ mod é;" = .ok root ∧ n ∈ root.preorder ∧
      n.typeName = "Ident" ∧ ¬Shifted "\uFEFF\uFEFF#!\r\n/* é */ mod é;" n ∧
      n.attribute? "identifier" = some "é" ∧ n.sourceText? = some "é" := by
  have found : (firstPart? "\uFEFF\uFEFF#!\r\n/* é */ mod é;").map
      (fun n => (n.typeName, n.attribute? "identifier", n.info.coordinates)) =
      some ("Ident", some "é", some ⟨2, 13, 2, 13⟩) := by decide +kernel
  obtain ⟨root, n, parsed, inside, seen⟩ := exists_of_firstPart? found
  simp only [Prod.mk.injEq] at seen
  obtain ⟨isName, named, placed⟩ := seen
  obtain ⟨identifier, known, straight, _⟩ := names_quoted parsed inside isName
  obtain rfl : identifier = "é" := Option.some.inj (known.symm.trans named)
  have second : ¬Shifted "\uFEFF\uFEFF#!\r\n/* é */ mod é;" n := by
    rw [Shifted, placed]
    exact fun both => absurd both.2 (by decide)
  exact ⟨root, n, parsed, inside, isName, second, named, straight second⟩

/-- The name in a text of one line behind two marks has the blank before it as its source text. -/
theorem name_after_two_marks :
    ∃ root n, parse "\uFEFF\uFEFFstruct A;" = .ok root ∧ n ∈ root.preorder ∧
      n.typeName = "Ident" ∧ n.attribute? "identifier" = some "A" ∧ n.sourceText? = some " " := by
  have found : (firstPart? "\uFEFF\uFEFFstruct A;").map
      (fun n => (n.typeName, n.attribute? "identifier", n.sourceText?)) =
      some ("Ident", some "A", some " ") := by decide +kernel
  obtain ⟨root, n, parsed, inside, seen⟩ := exists_of_firstPart? found
  simp only [Prod.mk.injEq] at seen
  exact ⟨root, n, parsed, inside, seen⟩

end Source

end SyntaxExport
