import SyntaxExport.Text.Alphanumeric
import SyntaxExport.Text.Blank

/-!
# Source text without comments

`stripComments` removes line comments and block comments, which nest, from Rust source text. String,
raw string, byte string and character literals are copied as they are. A line that held nothing but
a comment is dropped together with its line break.

The text is read one character at a time. What the next character means depends on the `Region` it
stands in; what has been kept is held in a `Kept`.
-/

namespace SyntaxExport.Text

/-- What the text kept so far consists of: the finished lines, the current line, both backwards,
and whether a comment was removed from the current line. -/
structure Kept where
  finished : List Char
  line : List Char
  commented : Bool

namespace Kept

/-- Nothing read yet. -/
def empty : Kept :=
  ⟨[], [], false⟩

/-- Keeps one character of the current line. -/
def push (k : Kept) (c : Char) : Kept :=
  { k with line := c :: k.line }

/-- Notes that a comment was removed from the current line. -/
def comment (k : Kept) : Kept :=
  { k with commented := true }

/-- Nothing but blanks is left of a line from which a comment was removed. -/
def isVoid (k : Kept) : Bool :=
  k.commented && k.line.all isBlank

/-- Ends the current line at a line break outside a literal. -/
def breakLine (k : Kept) : Kept :=
  if k.isVoid then ⟨k.finished, [], false⟩ else ⟨'\n' :: (k.line ++ k.finished), [], false⟩

/-- Ends the current line at a line break inside a literal, where the line always stays. -/
def breakLiteral (k : Kept) : Kept :=
  ⟨'\n' :: (k.line ++ k.finished), [], false⟩

/-- The whole text that was kept, at the end of the source. -/
def chars (k : Kept) : List Char :=
  (if k.isVoid then k.finished else k.line ++ k.finished).reverse

end Kept

/-- What the next character of the source belongs to. Every level of a block comment takes the two
characters that open it, so its depth is at most half the length of the text: a count of 32 bits
with a sign could not hold it only in a text of four thousand million characters. -/
inductive Region where
  | code
  | lineComment
  | blockComment (depth : Nat)
  | quoted (close : Char)
  | rawOpening (hashes : Nat)
  | raw (hashes : Nat)
  | rawClosing (hashes : Nat)

/-- After the letter `r`, a raw string goes on with any number of hashes and a double quote. -/
def opensRaw : List Char → Bool
  | '#' :: rest => opensRaw rest
  | '"' :: _ => true
  | _ => false

/-- The letter `r` after `previous` may start a raw string: it does not continue a word, the byte
string mark `b` excepted. -/
def mayStartRaw (previous : Option Char) : Bool :=
  match previous with
  | none => true
  | some p => !((isAlphanumeric p || p == '_') && p != 'b')

/-- What follows a single quote closes a character literal; otherwise the quote starts a
lifetime. -/
def opensCharacter : List Char → Bool
  | '\\' :: _ => true
  | _ :: '\'' :: _ => true
  | _ => false

/-- What is kept of the rest of the source, given the region it starts in and the character before
it. -/
def keepFrom (region : Region) (previous : Option Char) (k : Kept) : List Char → Kept
  | [] => k
  | c :: rest =>
      match region with
      | .code =>
          if c = '\n' then keepFrom .code (some c) k.breakLine rest
          else if c = '/' && rest.head? == some '/' then
            keepFrom .lineComment (some c) k.comment rest
          else if c = '/' && rest.head? == some '*' then
            match rest with
            | [] => k
            | star :: rest' => keepFrom (.blockComment 1) (some star) k.comment rest'
          else if c = 'r' && mayStartRaw previous && opensRaw rest then
            keepFrom (.rawOpening 0) (some c) (k.push c) rest
          else if c = '"' then keepFrom (.quoted '"') (some c) (k.push c) rest
          else if c = '\'' && opensCharacter rest then
            keepFrom (.quoted '\'') (some c) (k.push c) rest
          else keepFrom .code (some c) (k.push c) rest
      | .lineComment =>
          if c = '\n' then keepFrom .code (some c) k.breakLine rest
          else keepFrom .lineComment (some c) k rest
      | .blockComment depth =>
          if c = '/' && rest.head? == some '*' then
            match rest with
            | [] => k
            | star :: rest' => keepFrom (.blockComment (depth + 1)) (some star) k rest'
          else if c = '*' && rest.head? == some '/' then
            match rest with
            | [] => k
            | slash :: rest' =>
                if depth ≤ 1 then keepFrom .code (some slash) k rest'
                else keepFrom (.blockComment (depth - 1)) (some slash) k rest'
          else if c = '\n' then keepFrom (.blockComment depth) (some c) k.breakLine.comment rest
          else keepFrom (.blockComment depth) (some c) k rest
      | .quoted close =>
          if c = '\\' then
            match rest with
            | [] => k.push c
            | next :: rest' => keepFrom (.quoted close) (some next) ((k.push c).push next) rest'
          else if c = '\n' then keepFrom (.quoted close) (some c) k.breakLiteral rest
          else if c = close then keepFrom .code (some c) (k.push c) rest
          else keepFrom (.quoted close) (some c) (k.push c) rest
      | .rawOpening hashes =>
          if c = '"' then keepFrom (.raw hashes) (some c) (k.push c) rest
          else keepFrom (.rawOpening (hashes + 1)) (some c) (k.push c) rest
      | .raw hashes =>
          if c = '"' && (List.replicate hashes '#').isPrefixOf rest then
            if hashes = 0 then keepFrom .code (some c) (k.push c) rest
            else keepFrom (.rawClosing hashes) (some c) (k.push c) rest
          else keepFrom (.raw hashes) (some c) (k.push c) rest
      | .rawClosing hashes =>
          if hashes ≤ 1 then keepFrom .code (some c) (k.push c) rest
          else keepFrom (.rawClosing (hashes - 1)) (some c) (k.push c) rest

/-- The source text without its comments. -/
def stripComments (s : String) : String :=
  String.ofList (keepFrom .code none Kept.empty s.toList).chars

end SyntaxExport.Text
