import Mathlib.Data.List.DropRight
import SyntaxExport.Proofs.LineIndex

/-!
# Boundaries of a text and their positions

A byte offset is a boundary of a text if no character is cut apart there. Boundaries have positions:
the line is told by the line feeds before, the column by the characters behind the last of them. The
index of the text leads from positions back to boundaries. It counts columns beyond the end of a
line, so other positions lead to boundaries too, and what leads nowhere is told by three conditions.

Results:
1. `exists_boundary_iff`: boundaries are the valid positions of a string.
2. `LineIndex.offset?_eq_none_iff`: the positions without offset.
3. `Boundary.le_of_le`: the order of positions is that of offsets.
4. `source_located`: all about the places in a source text and the spans between them.
-/

namespace SyntaxExport

open Text (byteLength byteLength_append)

/-- The position behind a text. -/
def Position.behind (text : String) : Position :=
  ⟨1 + text.toList.count '\n', (text.toList.rtakeWhile (· ≠ '\n')).length⟩

/-- Byte `p` of the text is a boundary between characters and has this position. -/
def Boundary (s : String) (p : Nat) (position : Position) : Prop :=
  ∃ before after, s = before ++ after ∧ p = before.utf8ByteSize ∧ position = .behind before

theorem exists_boundary_iff {s : String} {p : Nat} :
    (∃ position, Boundary s p position) ↔ String.Pos.Raw.IsValid s ⟨p⟩ := by
  rw [String.Pos.Raw.isValid_iff_exists_append]
  constructor
  · rintro ⟨_, before, after, split, rfl, -⟩
    exact ⟨before, after, split, rfl⟩
  · rintro ⟨before, after, split, place⟩
    exact ⟨_, before, after, split, congrArg String.Pos.Raw.byteIdx place, rfl⟩

theorem Text.byteLength_toList (s : String) : byteLength s.toList = s.utf8ByteSize := by
  have counted (cs : List Char) : byteLength cs = (String.ofList cs).utf8ByteSize := by
    induction cs with
    | nil => rfl
    | cons c rest ih =>
      rw [byteLength, ih, String.ofList_cons, String.utf8ByteSize_append,
        String.utf8ByteSize_singleton]
  rw [counted, String.ofList_toList]

theorem Text.byteLength_pos {cs : List Char} (some : cs ≠ []) : 0 < byteLength cs := by
  cases cs with
  | nil => exact absurd rfl some
  | cons c rest => exact Nat.add_pos_left c.utf8Size_pos _

/-- Of two beginnings of a text, the one with fewer bytes begins the other. -/
theorem Text.prefix_of_byteLength_le {front front' cs : List Char} (begins : front <+: cs)
    (begins' : front' <+: cs) (fewer : byteLength front ≤ byteLength front') :
    front <+: front' := by
  rcases List.prefix_or_prefix_of_prefix begins begins' with shorter | ⟨rest, rfl⟩
  · exact shorter
  · by_cases same : rest = []
    · exact ⟨[], by rw [same, List.append_nil, List.append_nil]⟩
    · have longer := byteLength_pos same
      rw [byteLength_append] at fewer
      omega

namespace Position

theorem behind_push (text : String) (c : Char) :
    behind (text.push c) = (behind text).next c := by
  unfold behind
  rw [String.toList_push, List.rtakeWhile_concat, List.count_append]
  by_cases feed : c = '\n'
  · rw [feed, next_feed]
    simp [Nat.add_assoc]
  · rw [next_of_ne _ feed]
    simp [feed]

/-- Counting one character after the other comes to the same. -/
theorem after_start (cs : List Char) : start.after cs = behind (String.ofList cs) := by
  induction cs using List.reverseRecOn with
  | nil => rfl
  | append_singleton cs c ih =>
    have pushed : String.ofList (cs ++ [c]) = (String.ofList cs).push c := by
      rw [← String.toList_inj, String.toList_push, String.toList_ofList, String.toList_ofList]
    rw [Cursor.after_append, ih, pushed, behind_push]
    rfl

theorem le_iff {p q : Position} :
    p.le q = true ↔ p.line < q.line ∨ p.line = q.line ∧ p.column ≤ q.column := by
  simp [le]

theorem not_after_le (p : Position) {cs : List Char} (some : cs ≠ []) :
    ¬(p.after cs).le p = true := by
  rw [le_iff]
  by_cases feed : '\n' ∈ cs
  · have further := List.count_pos_iff.mpr feed
    rw [line_after]
    omega
  · have further := List.length_pos_iff.mpr some
    rw [after_of_not_mem feed]
    show ¬(p.line < p.line ∨ p.line = p.line ∧ p.column + cs.length ≤ p.column)
    omega

end Position

namespace Boundary

variable {s : String} {p q : Nat} {first stop : Position}

/-- A boundary as the end of a beginning of the text. -/
theorem exists_prefix (boundary : Boundary s p first) :
    ∃ before, before <+: s.toList ∧ byteLength before = p ∧
      Position.start.after before = first := by
  obtain ⟨before, after, rfl, rfl, rfl⟩ := boundary
  refine ⟨before.toList, ?_, Text.byteLength_toList before, ?_⟩
  · rw [String.toList_append]
    exact List.prefix_append ..
  · rw [Position.after_start, String.ofList_toList]

theorem of_prefix {before : List Char} (begins : before <+: s.toList) :
    Boundary s (byteLength before) (Position.start.after before) := by
  obtain ⟨after, split⟩ := begins
  refine ⟨String.ofList before, String.ofList after, ?_, ?_, Position.after_start before⟩
  · rw [← String.ofList_append, split, String.ofList_toList]
  · rw [← Text.byteLength_toList, String.toList_ofList]

theorem exists_between (boundary : Boundary s p first) (boundary' : Boundary s q stop)
    (ordered : p ≤ q) :
    ∃ before covered, before ++ covered <+: s.toList ∧ byteLength before = p ∧
      byteLength (before ++ covered) = q ∧ Position.start.after before = first ∧
      Position.start.after (before ++ covered) = stop := by
  obtain ⟨before, begins, rfl, rfl⟩ := boundary.exists_prefix
  obtain ⟨before', begins', rfl, rfl⟩ := boundary'.exists_prefix
  obtain ⟨covered, rfl⟩ := Text.prefix_of_byteLength_le begins begins' ordered
  exact ⟨before, covered, begins', rfl, rfl, rfl, rfl⟩

theorem position_unique (boundary : Boundary s p first) (boundary' : Boundary s p stop) :
    first = stop := by
  obtain ⟨before, covered, -, rfl, same, rfl, rfl⟩ :=
    boundary.exists_between boundary' (Nat.le_refl p)
  by_cases empty : covered = []
  · rw [empty, List.append_nil]
  · have longer := Text.byteLength_pos empty
    rw [byteLength_append] at same
    omega

/-- Behind a character that is no line feed the column is one more. -/
theorem eq_next {before after : String} {c : Char} (split : s = before.push c ++ after)
    (other : c ≠ '\n') (place : Boundary s before.utf8ByteSize first)
    (place' : Boundary s (before.push c).utf8ByteSize stop) :
    stop = ⟨first.line, first.column + 1⟩ := by
  have here : Boundary s before.utf8ByteSize (.behind before) := by
    refine ⟨before, String.singleton c ++ after, ?_, rfl, rfl⟩
    rw [split, ← String.append_assoc]
    rfl
  have next : Boundary s (before.push c).utf8ByteSize (.behind (before.push c)) :=
    ⟨before.push c, after, split, rfl, rfl⟩
  rw [place.position_unique here, place'.position_unique next, Position.behind_push,
    Position.next_of_ne _ other]

/-- Positions are ordered as the boundaries they belong to. -/
theorem le_of_le (boundary : Boundary s p first) (boundary' : Boundary s q stop)
    (ordered : first.le stop = true) : p ≤ q := by
  by_contra reversed
  obtain ⟨before, covered, -, rfl, rfl, rfl, rfl⟩ :=
    boundary'.exists_between boundary (Nat.le_of_not_le reversed)
  rw [Cursor.after_append] at ordered
  refine Position.not_after_le _ ?_ ordered
  rintro rfl
  exact reversed (by rw [List.append_nil])

end Boundary

/-! ## Offsets -/

/-- What stands behind the first `n` line feeds. -/
def behindFeeds : (n : Nat) → List Char → List Char
  | 0, cs => cs
  | _ + 1, [] => []
  | n + 1, c :: rest => if c = '\n' then behindFeeds n rest else behindFeeds (n + 1) rest

theorem behindFeeds_zero (cs : List Char) : behindFeeds 0 cs = cs := by
  cases cs <;> rfl

namespace LineIndex

theorem length_startsFrom (offset : Nat) (cs : List Char) :
    (startsFrom offset cs).length = cs.count '\n' := by
  induction cs generalizing offset with
  | nil => rfl
  | cons c rest ih =>
    rw [startsFrom]
    by_cases feed : c = '\n'
    · rw [if_pos feed, List.length_cons, ih, feed, List.count_cons_self]
    · rw [if_neg feed, ih, List.count_cons_of_ne feed]

theorem getElem?_startsFrom {n : Nat} (offset : Nat) {cs : List Char} (within : n < cs.count '\n') :
    ∃ front, cs = front ++ behindFeeds (n + 1) cs ∧
      (startsFrom offset cs)[n]? = some (offset + byteLength front, behindFeeds (n + 1) cs) := by
  induction cs generalizing n offset with
  | nil => cases within
  | cons c rest ih =>
    rw [startsFrom, behindFeeds]
    by_cases feed : c = '\n'
    · rw [if_pos feed, if_pos feed]
      cases n with
      | zero =>
        rw [behindFeeds_zero]
        exact ⟨[c], rfl, rfl⟩
      | succ n =>
        rw [feed, List.count_cons_self] at within
        obtain ⟨front, split, found⟩ := ih (offset + c.utf8Size) (Nat.lt_of_succ_lt_succ within)
        refine ⟨c :: front, congrArg (List.cons c) split, ?_⟩
        rw [List.getElem?_cons_succ, found, byteLength, Nat.add_assoc]
    · rw [if_neg feed, if_neg feed]
      rw [List.count_cons_of_ne feed] at within
      obtain ⟨front, split, found⟩ := ih (offset + c.utf8Size) within
      refine ⟨c :: front, congrArg (List.cons c) split, ?_⟩
      rw [found, byteLength, Nat.add_assoc]

theorem getElem?_starts {n : Nat} {cs : List Char} (within : n ≤ cs.count '\n') :
    ∃ front, cs = front ++ behindFeeds n cs ∧
      (ofChars cs).starts[n]? = some (byteLength front, behindFeeds n cs) := by
  unfold ofChars
  cases n with
  | zero =>
    rw [behindFeeds_zero]
    exact ⟨[], rfl, rfl⟩
  | succ n =>
    obtain ⟨front, split, found⟩ := getElem?_startsFrom 0 within
    refine ⟨front, split, ?_⟩
    rw [List.getElem?_toArray, List.getElem?_cons_succ, found, Nat.zero_add]

theorem getElem?_starts_eq_none {n : Nat} {cs : List Char} (beyond : cs.count '\n' < n) :
    (ofChars cs).starts[n]? = none := by
  unfold ofChars
  rw [List.getElem?_toArray, List.getElem?_eq_none_iff, List.length_cons, length_startsFrom]
  exact beyond

theorem advance_of_le {count : Nat} (offset : Nat) {cs : List Char} (within : count ≤ cs.length) :
    advance count offset cs = some (offset + byteLength (cs.take count)) := by
  have whole := advance_append offset (cs.take count) (cs.drop count)
  rwa [List.take_append_drop, List.length_take_of_le within] at whole

theorem advance_of_lt {count : Nat} (offset : Nat) {cs : List Char} (beyond : cs.length < count) :
    advance count offset cs = none := by
  induction cs generalizing count offset with
  | nil =>
    cases count with
    | zero => cases beyond
    | succ count => rfl
  | cons c rest ih =>
    cases count with
    | zero => cases beyond
    | succ count => exact ih _ (Nat.lt_of_succ_lt_succ beyond)

/-- A position of a line that is there leads to what its column counts from the start of the line
on. -/
theorem offset?_succ {line : Nat} {cs : List Char} (within : line ≤ cs.count '\n') (column : Nat) :
    ∃ front, cs = front ++ behindFeeds line cs ∧
      (ofChars cs).offset? ⟨line + 1, column⟩ =
        if column ≤ (behindFeeds line cs).length then
          some (byteLength (front ++ (behindFeeds line cs).take column))
        else none := by
  obtain ⟨front, split, found⟩ := getElem?_starts within
  refine ⟨front, split, ?_⟩
  simp only [offset?, found, Option.bind_some]
  split
  · next short => rw [advance_of_le _ short, byteLength_append]
  · next long => exact advance_of_lt _ (Nat.lt_of_not_le long)

theorem offset?_of_lt {line : Nat} {cs : List Char} (beyond : cs.count '\n' < line)
    (column : Nat) : (ofChars cs).offset? ⟨line + 1, column⟩ = none := by
  simp only [offset?, getElem?_starts_eq_none beyond, Option.bind_none]

theorem offset?_eq_none_iff (cs : List Char) (position : Position) :
    (ofChars cs).offset? position = none ↔
      position.line = 0 ∨ 1 + cs.count '\n' < position.line ∨
        (behindFeeds (position.line - 1) cs).length < position.column := by
  obtain ⟨line, column⟩ := position
  cases line with
  | zero => exact ⟨fun _ => .inl rfl, fun _ => rfl⟩
  | succ line =>
    rw [Nat.add_sub_cancel]
    by_cases within : line ≤ cs.count '\n'
    · obtain ⟨front, -, found⟩ := offset?_succ within column
      simp only [found, ite_eq_right_iff, reduceCtorEq, imp_false, Nat.not_le, false_or]
      omega
    · simp only [offset?_of_lt (Nat.lt_of_not_le within), true_iff]
      omega

/-- What a position leads to stands between two characters. -/
theorem exists_prefix_of_offset? {cs : List Char} {position : Position} {p : Nat}
    (found : (ofChars cs).offset? position = some p) :
    ∃ before, before <+: cs ∧ byteLength before = p := by
  obtain ⟨line, column⟩ := position
  cases line with
  | zero => cases found
  | succ line =>
    by_cases within : line ≤ cs.count '\n'
    · obtain ⟨front, split, leads⟩ := offset?_succ within column
      rw [leads] at found
      split at found
      · refine ⟨_, ⟨(behindFeeds line cs).drop column, ?_⟩, Option.some.inj found⟩
        rw [List.append_assoc, List.take_append_drop]
        exact split.symm
      · cases found
    · rw [offset?_of_lt (Nat.lt_of_not_le within)] at found
      cases found

end LineIndex

/-! ## Spans -/

namespace Boundary

variable {s : String} {p q p' q' : Nat} {first stop first' stop' : Position}

theorem offset? (boundary : Boundary s p first) :
    (LineIndex.ofChars s.toList).offset? first = some p := by
  obtain ⟨before, ⟨after, split⟩, rfl, rfl⟩ := boundary.exists_prefix
  rw [← split]
  exact LineIndex.offset?_after before after

theorem ne_of_lt (boundary : Boundary s p first) (boundary' : Boundary s q stop)
    (ordered : p < q) : first ≠ stop := by
  rintro rfl
  have same := boundary.offset?.symm.trans boundary'.offset?
  exact absurd (Option.some.inj same) (Nat.ne_of_lt ordered)

theorem slice? (boundary : Boundary s p first) (boundary' : Boundary s q stop)
    (ordered : p ≤ q) : (Lowering.ofSource s).slice? ⟨first, stop⟩ = some ⟨s, p, q⟩ := by
  simp only [Lowering.slice?, Lowering.ofSource, boundary.offset?, boundary'.offset?,
    if_pos ordered]

theorem text?_of_prefix {before covered : List Char} (begins : before ++ covered <+: s.toList) :
    TextSlice.text? ⟨s, byteLength before, byteLength (before ++ covered)⟩ =
      some (String.ofList covered) := by
  obtain ⟨after, split⟩ := begins
  have whole := TextSlice.text?_append before covered after
  rwa [split, String.ofList_toList] at whole

/-- The text between two boundaries has the bytes between them. -/
theorem exists_text? (boundary : Boundary s p first) (boundary' : Boundary s q stop)
    (ordered : p ≤ q) :
    ∃ text, TextSlice.text? ⟨s, p, q⟩ = some text ∧
      text.toByteArray = s.toByteArray.extract p q := by
  obtain ⟨before, covered, begins, rfl, rfl, -, -⟩ := boundary.exists_between boundary' ordered
  refine ⟨String.ofList covered, text?_of_prefix begins, ?_⟩
  obtain ⟨after, split⟩ := begins
  have size (cs : List Char) : byteLength cs = (String.ofList cs).toByteArray.size := by
    rw [String.size_toByteArray, ← Text.byteLength_toList, String.toList_ofList]
  have bytes : s.toByteArray = (String.ofList before).toByteArray ++
      (String.ofList covered).toByteArray ++ (String.ofList after).toByteArray := by
    rw [← String.toByteArray_append, ← String.toByteArray_append, ← String.ofList_append,
      ← String.ofList_append, split, String.ofList_toList]
  rw [bytes, size, size, String.ofList_append, String.toByteArray_append,
    ByteArray.extract_append_size_left, ByteArray.extract_append_eq_right rfl ByteArray.size_append]

theorem exists_text?_nested (boundary : Boundary s p first) (boundary' : Boundary s q stop)
    (inner : Boundary s p' first') (inner' : Boundary s q' stop') (begins : p ≤ p')
    (ordered : p' ≤ q') (ends : q' ≤ q) :
    ∃ outer inner, TextSlice.text? ⟨s, p, q⟩ = some outer ∧
      TextSlice.text? ⟨s, p', q'⟩ = some inner ∧ inner.toList <:+: outer.toList := by
  obtain ⟨before, start, rfl, -⟩ := boundary.exists_prefix
  obtain ⟨_, start', rfl, -⟩ := inner.exists_prefix
  obtain ⟨_, stop', rfl, -⟩ := inner'.exists_prefix
  obtain ⟨_, stop, rfl, -⟩ := boundary'.exists_prefix
  obtain ⟨left, rfl⟩ := Text.prefix_of_byteLength_le start start' begins
  obtain ⟨covered, rfl⟩ := Text.prefix_of_byteLength_le start' stop' ordered
  obtain ⟨right, rfl⟩ := Text.prefix_of_byteLength_le stop' stop ends
  refine ⟨String.ofList (left ++ covered ++ right), String.ofList covered, ?_,
    text?_of_prefix stop', ?_⟩
  · have whole : before ++ left ++ covered ++ right = before ++ (left ++ covered ++ right) := by
      simp only [List.append_assoc]
    rw [whole] at stop ⊢
    exact text?_of_prefix stop
  · rw [String.toList_ofList, String.toList_ofList]
    exact ⟨left, right, rfl⟩

end Boundary

/-- What a lowering knows about the places in its source text.

* `boundary`: the boundaries of the text are those that have a position.
* `offset`: the position of a boundary leads back to it.
* `between`: whatever a position leads to is a boundary, not behind the end.
* `beyond`: a position leads nowhere if there is no such line, or if the text ends before its
  column.
* `covered`: a node between two boundaries has their positions as its coordinates, counted from one,
  and the bytes between them as its text.
* `inclusive`: coordinates end with the place of the last character, unless that is a line feed.
* `nested`: a span inside of another has a part of its text. -/
structure Lowering.Locates (l : Lowering) : Prop where
  boundary : ∀ p, String.Pos.Raw.IsValid l.source ⟨p⟩ ↔ ∃ position, Boundary l.source p position
  offset : ∀ {p position}, Boundary l.source p position → l.index.offset? position = some p
  between : ∀ {p position}, l.index.offset? position = some p →
    String.Pos.Raw.IsValid l.source ⟨p⟩ ∧ p ≤ l.source.utf8ByteSize
  beyond : ∀ position, l.index.offset? position = none ↔
    position.line = 0 ∨ 1 + l.source.toList.count '\n' < position.line ∨
      (behindFeeds (position.line - 1) l.source.toList).length < position.column
  covered : ∀ {p q first stop}, Boundary l.source p first → Boundary l.source q stop → p < q →
    ∀ typeName attributes,
      (l.info typeName (some ⟨first, stop⟩) attributes).coordinates =
          some ⟨first.line, first.column + 1, stop.line, stop.column⟩ ∧
        (l.info typeName (some ⟨first, stop⟩) attributes).text = some ⟨l.source, p, q⟩ ∧
        ∃ text, TextSlice.text? ⟨l.source, p, q⟩ = some text ∧
          text.toByteArray = l.source.toByteArray.extract p q
  inclusive : ∀ {before after : String} {c}, l.source = before.push c ++ after → c ≠ '\n' →
    ∀ {first last stop}, Boundary l.source before.utf8ByteSize last →
    Boundary l.source (before.push c).utf8ByteSize stop →
      (coordinates ⟨first, stop⟩).endLine = last.line ∧
        (coordinates ⟨first, stop⟩).endColumn = last.column + 1
  nested : ∀ {p q first stop}, Boundary l.source p first → Boundary l.source q stop → p < q →
    ∀ {p' q' first' stop'}, Boundary l.source p' first' → Boundary l.source q' stop' → p' < q' →
    first.le first' = true → stop'.le stop = true → p ≤ p' ∧ q' ≤ q ∧
      ∃ outer inner, TextSlice.text? ⟨l.source, p, q⟩ = some outer ∧
        TextSlice.text? ⟨l.source, p', q'⟩ = some inner ∧ inner.toList <:+: outer.toList

/-- Every boundary of a text is found by its position, and a span between two of them is shown as
the bytes between them. -/
theorem source_located (s : String) : (Lowering.ofSource s).Locates := by
  constructor
  case boundary => exact fun _ => exists_boundary_iff.symm
  case offset => exact fun boundary => boundary.offset?
  case between =>
    intro p position found
    obtain ⟨before, begins, rfl⟩ := LineIndex.exists_prefix_of_offset? found
    have valid := exists_boundary_iff.mp ⟨_, Boundary.of_prefix begins⟩
    exact ⟨valid, valid.le_utf8ByteSize⟩
  case beyond => exact LineIndex.offset?_eq_none_iff s.toList
  case covered =>
    intro p q first stop boundary boundary' ordered typeName attributes
    have apart := boundary.ne_of_lt boundary' ordered
    have slice := boundary.slice? boundary' (Nat.le_of_lt ordered)
    unfold Lowering.info
    rw [Option.filter_some_pos (by simpa using apart)]
    exact ⟨rfl, slice, boundary.exists_text? boundary' (Nat.le_of_lt ordered)⟩
  case inclusive =>
    intro before after c split other first last stop place place'
    rw [Boundary.eq_next split other place place']
    exact ⟨rfl, rfl⟩
  case nested =>
    intro p q first stop boundary boundary' _ p' q' first' stop' inner inner' ordered below above
    have begins := boundary.le_of_le inner below
    have ends := inner'.le_of_le boundary' above
    exact ⟨begins, ends,
      boundary.exists_text?_nested boundary' inner inner' begins (Nat.le_of_lt ordered) ends⟩

end SyntaxExport
