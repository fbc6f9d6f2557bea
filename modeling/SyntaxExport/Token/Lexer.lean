import SyntaxExport.Token.Scan
import SyntaxExport.Token.Tree

/-!
# From characters to token trees

`Tree.read` cuts a source text into token trees. It goes through the text once, with a stack of the
groups that are open. It fails at the first place where no token can start, at a closing delimiter
that does not match the innermost open group, and, if a group is never closed, at its opening
delimiter.
-/

namespace SyntaxExport

/-- A place in the source `src` and the characters from there on. -/
structure Cursor (src : List Char) where
  rest : List Char
  position : Position
  valid : ∃ before, before ++ rest = src ∧ position = Position.start.after before

namespace Cursor

variable {src : List Char}

/-- The beginning of a source. -/
def start (src : List Char) : Cursor src :=
  ⟨src, Position.start, [], rfl, rfl⟩

/-- The position after two stretches of text, one behind the other. -/
theorem after_append (p : Position) (a b : List Char) : p.after (a ++ b) = (p.after a).after b := by
  simp [Position.after]

/-- The place behind the next `count` characters. -/
def skip (c : Cursor src) (count : Nat) : Cursor src :=
  ⟨c.rest.drop count, c.position.after (c.rest.take count), by
    obtain ⟨before, split, position⟩ := c.valid
    exact ⟨before ++ c.rest.take count, by simp [split], by rw [after_append, position]⟩⟩

/-- The place of the next `count` characters. -/
def spanOf (c : Cursor src) (count : Nat) : Span :=
  ⟨c.position, c.position.after (c.rest.take count)⟩

/-- The text of the next `count` characters. -/
def textOf (c : Cursor src) (count : Nat) : String :=
  String.ofList (c.rest.take count)

/-- The next `count` characters as a word. -/
def wordOf (c : Cursor src) (count : Nat) (scanned : Scan.word? c.rest = some count) : Word src :=
  ⟨c.textOf count, c.spanOf count, by
    obtain ⟨before, split, position⟩ := c.valid
    refine ⟨before, c.rest.drop count, ?_, ?_, ?_⟩
    · simp [textOf, split]
    · simp [textOf, spanOf, position]
    · simp [textOf, scanned, Scan.word?_le scanned]⟩

theorem length_skip_lt (c : Cursor src) {count : Nat} (positive : 0 < count)
    (present : c.rest ≠ []) : (c.skip count).rest.length < c.rest.length := by
  have := List.length_pos_iff.mpr present
  simp only [skip, List.length_drop]
  omega

end Cursor

/-- A group whose closing delimiter has not been met: its delimiter, where it was opened, and the
trees before it, the last one first. -/
structure OpenGroup (src : List Char) where
  delimiter : Delimiter
  opening : Span
  outer : List (Tree src)

namespace Tree

variable {src : List Char}

/-- The delimiter that a character opens. -/
def opens? : Char → Option Delimiter
  | '(' => some .parenthesis
  | '[' => some .bracket
  | '\x7b' => some .brace
  | _ => none

/-- The delimiter that a character closes. -/
def closes? : Char → Option Delimiter
  | ')' => some .parenthesis
  | ']' => some .bracket
  | '\x7d' => some .brace
  | _ => none

/-- The token that comes next, other than a delimiter, and its length. -/
def leaf? (c : Cursor src) : Option (Tree src × Nat) :=
  match Scan.literal? c.rest with
  | some n => some (.literal (c.textOf n) (c.spanOf n), n)
  | none =>
      match Scan.lifetime? c.rest with
      | some n =>
          if (Scan.literal? (c.rest.drop 1)).isNone && (Scan.word? (c.rest.drop 1)).isSome then
            some (.lifetime (c.textOf n) (c.spanOf n), n)
          else some (.punct '\'' true (c.spanOf 1), 1)
      | none =>
          match c.rest with
          | [] => none
          | char :: rest =>
              if char != '\'' && Scan.startsPunct c.rest then
                some (.punct char (Scan.startsPunct rest) (c.spanOf 1), 1)
              else
                match scanned : Scan.word? c.rest with
                | some n => some (.word (c.wordOf n scanned), n)
                | none => none

/-- Reads on from a cursor, with the open groups and the trees of the innermost one, the last one
first. The error is the place where reading failed. -/
def readFrom (c : Cursor src) (stack : List (OpenGroup src)) (trees : List (Tree src)) :
    Except Position (List (Tree src)) :=
  match _h : c.rest with
  | [] =>
      match stack with
      | [] => .ok trees.reverse
      | innermost :: _ => .error innermost.opening.start
  | char :: _ =>
      match Scan.blank c.rest with
      | n + 1 => readFrom (c.skip (n + 1)) stack trees
      | 0 =>
          match Scan.docComment? c.rest with
          | some comment =>
              let tree := .doc comment.inner comment.text (c.spanOf comment.length)
              if _positive : 0 < comment.length then
                readFrom (c.skip comment.length) stack (tree :: trees)
              else .error c.position
          | none =>
              match opens? char, closes? char with
              | some delimiter, _ =>
                  readFrom (c.skip 1) (⟨delimiter, c.spanOf 1, trees⟩ :: stack) []
              | none, some delimiter =>
                  match stack with
                  | [] => .error c.position
                  | innermost :: outer =>
                      if innermost.delimiter = delimiter then
                        let group := .group delimiter trees.reverse innermost.opening (c.spanOf 1)
                        readFrom (c.skip 1) outer (group :: innermost.outer)
                      else .error c.position
              | none, none =>
                  match leaf? c with
                  | some (tree, n + 1) => readFrom (c.skip (n + 1)) stack (tree :: trees)
                  | _ => .error c.position
termination_by c.rest.length
decreasing_by
  all_goals
    apply Cursor.length_skip_lt
    · first | exact Nat.succ_pos _ | assumption
    · simp [_h]

/-- The mark of byte order, which may stand before a text. -/
def byteOrderMark : Char :=
  Char.ofNat 0xFEFF

/-- The token trees of a source text. A byte order mark at its beginning is skipped, but it counts
as a column. -/
def read (src : List Char) : Except Position (List (Tree src)) :=
  let start := Cursor.start src
  readFrom (if src.head? = some byteOrderMark then start.skip 1 else start) [] []

end Tree

end SyntaxExport
