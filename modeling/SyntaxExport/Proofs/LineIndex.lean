import SyntaxExport.Lowering
import SyntaxExport.Token.Lexer

/-!
# Positions and byte offsets

A position counts lines and characters, a slice counts bytes. The index of a text turns the one into
the other. The position behind any beginning of a text has the length of that beginning as its
offset, whatever line breaks and long characters there are, so the slice between two such positions
is what stands between them.

Results:
1. `offset?_after`: the offset of the position behind a beginning is its length in bytes.
2. `text?_slice?`: the slice of a span has the characters that the span covers.
3. `after_append_of_feed`: what is put before a text on its first line moves that line only.
-/

namespace SyntaxExport

namespace Text

/-- The number of bytes of characters in UTF-8. -/
def byteLength : List Char → Nat
  | [] => 0
  | c :: rest => c.utf8Size + byteLength rest

theorem byteLength_append (front back : List Char) :
    byteLength (front ++ back) = byteLength front + byteLength back := by
  induction front with
  | nil => rw [List.nil_append, byteLength, Nat.zero_add]
  | cons c rest ih => rw [List.cons_append, byteLength, byteLength, ih, Nat.add_assoc]

end Text

open Text (byteLength byteLength_append)

/-! ## Positions -/

namespace Position

theorem after_cons (p : Position) (c : Char) (cs : List Char) :
    p.after (c :: cs) = (p.next c).after cs := rfl

theorem next_feed (p : Position) : p.next '\n' = ⟨p.line + 1, 0⟩ :=
  if_pos rfl

theorem next_of_ne (p : Position) {c : Char} (other : c ≠ '\n') :
    p.next c = ⟨p.line, p.column + 1⟩ :=
  if_neg other

theorem line_after (p : Position) (cs : List Char) :
    (p.after cs).line = p.line + cs.count '\n' := by
  induction cs generalizing p with
  | nil => rfl
  | cons c rest ih =>
    rw [after_cons, ih]
    by_cases feed : c = '\n'
    · rw [feed, next_feed, List.count_cons_self]
      exact Nat.add_right_comm ..
    · rw [next_of_ne p feed, List.count_cons_of_ne feed]

theorem one_lt_line_after_iff {cs : List Char} : 1 < (start.after cs).line ↔ '\n' ∈ cs := by
  have first : start.line = 1 := rfl
  rw [line_after, first, ← List.count_pos_iff]
  omega

theorem after_of_not_mem {p : Position} {cs : List Char} (noFeed : '\n' ∉ cs) :
    p.after cs = ⟨p.line, p.column + cs.length⟩ := by
  induction cs generalizing p with
  | nil => rfl
  | cons c rest ih =>
    obtain ⟨other, noFeed⟩ := not_or.mp (mt List.mem_cons.mpr noFeed)
    rw [after_cons, ih noFeed, next_of_ne p (Ne.symm other), List.length_cons]
    exact congrArg _ (Nat.add_right_comm ..)

/-- Behind a line feed, only the number of lines before it matters. -/
theorem after_append_of_feed {lead before : List Char} (noFeed : '\n' ∉ lead)
    (feed : '\n' ∈ before) : start.after (lead ++ before) = start.after before := by
  obtain ⟨line, rest, rfl⟩ := List.append_of_mem feed
  have lines : (start.after (lead ++ line)).line = (start.after line).line := by
    rw [line_after, line_after, List.count_append, List.count_eq_zero_of_not_mem noFeed,
      Nat.zero_add]
  rw [← List.append_assoc, Cursor.after_append _ (lead ++ line), Cursor.after_append _ line,
    after_cons, after_cons, next_feed, next_feed, lines]

end Position

/-! ## Offsets -/

namespace LineIndex

theorem advance_append (offset : Nat) (front back : List Char) :
    advance front.length offset (front ++ back) = some (offset + byteLength front) := by
  induction front generalizing offset with
  | nil => rfl
  | cons c rest ih =>
    rw [List.length_cons, List.cons_append, advance, ih, byteLength, Nat.add_assoc]

/-- An index that begins with some lines goes on with one that starts at byte `offset`. Of that line
`head` has been read, and what comes next is `before`. -/
theorem offset?_from (earlier : List (Nat × List Char)) (offset : Nat)
    (head before rest : List Char) :
    (⟨(earlier ++ (offset, head ++ (before ++ rest)) ::
        startsFrom (offset + byteLength head) (before ++ rest)).toArray⟩ : LineIndex).offset?
        (Position.after ⟨earlier.length + 1, head.length⟩ before) =
      some (offset + byteLength head + byteLength before) := by
  induction before generalizing earlier offset head with
  | nil =>
    simp only [Position.after, List.foldl_nil, offset?]
    rw [List.getElem?_toArray, List.getElem?_append_right (Nat.le_refl _), Nat.sub_self]
    exact advance_append offset head rest
  | cons c before ih =>
    rw [Position.after_cons, Position.next, List.cons_append, startsFrom]
    by_cases feed : c = '\n'
    · -- the line ends here and joins those before
      rw [if_pos feed, if_pos feed]
      have next := ih (earlier ++ [(offset, head ++ c :: (before ++ rest))])
        (offset + byteLength head + c.utf8Size) []
      rw [List.length_append, List.append_assoc] at next
      exact next.trans (by rw [byteLength, byteLength, Nat.add_zero, Nat.add_assoc _ c.utf8Size])
    · rw [if_neg feed, if_neg feed]
      have next := ih earlier offset (head ++ [c])
      rw [byteLength_append, byteLength, byteLength, Nat.add_zero, List.length_append,
        List.append_assoc, List.singleton_append, ← Nat.add_assoc] at next
      exact next.trans (by rw [byteLength, Nat.add_assoc _ c.utf8Size])

/-- The position behind a beginning of a text has that beginning's length as its offset. -/
theorem offset?_after (before rest : List Char) :
    (ofChars (before ++ rest)).offset? (Position.start.after before) =
      some (byteLength before) := by
  have found := offset?_from [] 0 [] before rest
  rw [byteLength, Nat.add_zero, Nat.zero_add] at found
  exact found

end LineIndex

/-! ## Slices -/

namespace TextSlice

theorem dropBytes_cons {count : Nat} (positive : 0 < count) (c : Char) (rest : List Char) :
    dropBytes count (c :: rest) =
      if c.utf8Size ≤ count then dropBytes (count - c.utf8Size) rest else none := by
  cases count with
  | zero => cases positive
  | succ count => rfl

theorem takeBytes_cons {count : Nat} (positive : 0 < count) (c : Char) (rest : List Char) :
    takeBytes count (c :: rest) =
      if c.utf8Size ≤ count then (takeBytes (count - c.utf8Size) rest).map (c :: ·) else none := by
  cases count with
  | zero => cases positive
  | succ count => rfl

theorem dropBytes_append (front back : List Char) :
    dropBytes (byteLength front) (front ++ back) = some back := by
  induction front with
  | nil => rw [byteLength, dropBytes, List.nil_append]
  | cons c rest ih =>
    have positive := Nat.add_pos_left c.utf8Size_pos (byteLength rest)
    rw [byteLength, List.cons_append, dropBytes_cons positive, if_pos (Nat.le_add_right ..),
      Nat.add_sub_cancel_left, ih]

theorem takeBytes_append (front back : List Char) :
    takeBytes (byteLength front) (front ++ back) = some front := by
  induction front with
  | nil => rw [byteLength, takeBytes]
  | cons c rest ih =>
    have positive := Nat.add_pos_left c.utf8Size_pos (byteLength rest)
    rw [byteLength, List.cons_append, takeBytes_cons positive, if_pos (Nat.le_add_right ..),
      Nat.add_sub_cancel_left, ih, Option.map_some]

theorem text?_append (before cs after : List Char) :
    text? ⟨String.ofList (before ++ cs ++ after), byteLength before,
      byteLength (before ++ cs)⟩ = some (String.ofList cs) := by
  have ordered : ¬byteLength (before ++ cs) < byteLength before := by
    rw [byteLength_append]
    omega
  have length : byteLength (before ++ cs) - byteLength before = byteLength cs := by
    rw [byteLength_append, Nat.add_sub_cancel_left]
  rw [text?, if_neg ordered, length, String.toList_ofList, List.append_assoc, dropBytes_append,
    Option.bind_some, takeBytes_append, Option.map_some]

end TextSlice

/-- The slice of a span that covers some characters of a source has these characters. -/
theorem Lowering.text?_slice? (before cs after : List Char) :
    ((ofSource (String.ofList (before ++ cs ++ after))).slice?
        ⟨Position.start.after before, Position.start.after (before ++ cs)⟩).bind TextSlice.text? =
      some (String.ofList cs) := by
  have ordered : byteLength before ≤ byteLength (before ++ cs) := by
    rw [byteLength_append]
    exact Nat.le_add_right ..
  have start := LineIndex.offset?_after before (cs ++ after)
  rw [← List.append_assoc] at start
  simp only [slice?, ofSource, String.toList_ofList, start, LineIndex.offset?_after, if_pos ordered,
    Option.bind_some, TextSlice.text?_append]

end SyntaxExport
