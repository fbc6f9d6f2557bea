/-!
# Positions in a source text

A `Position` is a line, counted from one, and a column, counted from zero in characters. Only a line
feed ends a line. A `LineIndex` finds the byte offset of a position in the text's UTF-8 form.
-/

namespace SyntaxExport

/-- A place between two characters of a source text. -/
structure Position where
  line : Nat
  column : Nat
  deriving DecidableEq, Repr, Inhabited

namespace Position

/-- The position before the first character. -/
def start : Position :=
  ⟨1, 0⟩

/-- The position after a character that stands at `p`. -/
def next (p : Position) (c : Char) : Position :=
  if c = '\n' then ⟨p.line + 1, 0⟩ else ⟨p.line, p.column + 1⟩

/-- The position after the characters `cs` that stand at `p`. -/
def after (p : Position) (cs : List Char) : Position :=
  cs.foldl next p

/-- `p` is not after `q`. -/
def le (p q : Position) : Bool :=
  p.line < q.line || (p.line == q.line && p.column ≤ q.column)

end Position

/-- A stretch of source text, from its start to its stop. -/
structure Span where
  start : Position
  stop : Position
  deriving DecidableEq, Repr, Inhabited

namespace Span

/-- The span from the start of one to the stop of the other. -/
def through (first last : Span) : Span :=
  ⟨first.start, last.stop⟩

/-- The least span that covers both. -/
def cover (a b : Span) : Span :=
  ⟨if a.start.le b.start then a.start else b.start, if a.stop.le b.stop then b.stop else a.stop⟩

end Span

/-- The lines of a source text: for each the byte offset of its start and the characters from there
to the end of the text. -/
structure LineIndex where
  starts : Array (Nat × List Char)

namespace LineIndex

/-- The lines that start after a line feed of `cs`, which stands at byte `offset`. -/
def startsFrom (offset : Nat) : List Char → List (Nat × List Char)
  | [] => []
  | c :: rest =>
      if c = '\n' then (offset + c.utf8Size, rest) :: startsFrom (offset + c.utf8Size) rest
      else startsFrom (offset + c.utf8Size) rest

/-- The index of a text. -/
def ofChars (cs : List Char) : LineIndex :=
  ⟨((0, cs) :: startsFrom 0 cs).toArray⟩

/-- The byte offset after `count` characters of `cs`, which stands at byte `offset`; none if there
are not so many. -/
def advance : (count : Nat) → (offset : Nat) → List Char → Option Nat
  | 0, offset, _ => some offset
  | _ + 1, _, [] => none
  | count + 1, offset, c :: rest => advance count (offset + c.utf8Size) rest

/-- The byte offset of a position. The column is counted on from the start of its line, beyond the
end of the line if need be, but not beyond the end of the text. -/
def offset? (index : LineIndex) (p : Position) : Option Nat :=
  match p.line with
  | 0 => none
  | line + 1 => index.starts[line]?.bind fun start => advance p.column start.1 start.2

end LineIndex

end SyntaxExport
