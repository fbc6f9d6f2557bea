import SyntaxExport.Source.Position
import SyntaxExport.Text.Invisible
import SyntaxExport.Token.Scan

/-!
# Token trees

A source text is read as a list of token trees: words, lifetimes, punctuation, literals,
documentation comments, and groups between delimiters. A `Word` carries the proof that it stands in
the source where its span says and is all that the scanner takes for a word there, so that whatever
is built from words is known to quote the source.

A `Piece` is a token as it is printed. Printed tokens are separated by one blank, except behind a
punctuation character that is joint with the next one.
-/

namespace SyntaxExport

/-- The characters `cs` stand in the source `src` at `span` and are the word there. -/
def Located (src cs : List Char) (span : Span) : Prop :=
  ∃ before after, src = before ++ cs ++ after ∧
    span = ⟨Position.start.after before, (Position.start.after before).after cs⟩ ∧
    Scan.word? (cs ++ after) = some cs.length

/-- A word of the source `src`: an identifier or keyword, with the place where it stands. -/
structure Word (src : List Char) where
  text : String
  span : Span
  located : Located src text.toList span

/-- Kinds of brackets. -/
inductive Delimiter where
  | parenthesis
  | bracket
  | brace
  deriving DecidableEq, Repr

/-- A token of the source `src`, or a group of them between delimiters. A punctuation character is
joint if another one follows it directly. -/
inductive Tree (src : List Char) where
  | word (w : Word src)
  | lifetime (text : String) (span : Span)
  | punct (char : Char) (joint : Bool) (span : Span)
  | literal (text : String) (span : Span)
  | doc (inner : Bool) (text : String) (span : Span)
  | group (delimiter : Delimiter) (body : List (Tree src)) (opening closing : Span)

/-- The place of a token; of a group, from its opening to its closing delimiter. -/
def Tree.span {src : List Char} : Tree src → Span
  | word w => w.span
  | lifetime _ span => span
  | punct _ _ span => span
  | literal _ span => span
  | doc _ _ span => span
  | group _ _ opening closing => opening.through closing

/-- A printed token, or a printed group. -/
inductive Piece where
  | token (text : String) (joint : Bool) (span : Span)
  | group (delimiter : Delimiter) (body : List Piece) (span : Span)

namespace Piece

/-- The place a printed token comes from. -/
def span : Piece → Span
  | token _ _ span => span
  | group _ _ span => span

/-- The piece is a group in braces. -/
def isBraces : Piece → Bool
  | group .brace _ _ => true
  | _ => false

/-- The place from the first to the last of some pieces. -/
def spanOf (pieces : List Piece) : Option Span :=
  match pieces.head?, pieces.getLast? with
  | some first, some last => some (first.span.through last.span)
  | _, _ => none

/-- The inside of a group between its delimiters. Braces keep a blank on the inside. -/
def enclose : Delimiter → String → String
  | .parenthesis, inside => "(" ++ inside ++ ")"
  | .bracket, inside => "[" ++ inside ++ "]"
  | .brace, inside => "\x7b " ++ (if inside.isEmpty then "" else inside ++ " ") ++ "\x7d"

mutual

/-- A piece as text. -/
def print : Piece → String
  | token text _ _ => text
  | group delimiter body _ => enclose delimiter (printAll body)

/-- Pieces as text. -/
def printAll : List Piece → String
  | [] => ""
  | [last] => print last
  | token text joint _ :: next :: rest =>
      text ++ (if joint then "" else " ") ++ printAll (next :: rest)
  | group delimiter body _ :: next :: rest =>
      enclose delimiter (printAll body) ++ " " ++ printAll (next :: rest)

end

end Piece

/-- A character of a quoted source text. Those without a shape of their own are written by their
code point, and a zero is spelled out where a digit would follow it. -/
def Text.sourceChar (next : Option Char) (c : Char) : List Char :=
  if c.toNat = 0 then
    if next.any (fun d => '0' ≤ d && d ≤ '7') then ['\\', 'x', '0', '0'] else ['\\', '0']
  else if c = '\t' then ['\\', 't']
  else if c = '\r' then ['\\', 'r']
  else if c = '\n' then ['\\', 'n']
  else if c = '"' then ['\\', '"']
  else if c = '\\' then ['\\', '\\']
  else if Text.isInvisible c then
    ['\\', 'u', '\x7b'] ++ Nat.toDigits 16 c.toNat ++ ['\x7d']
  else [c]

/-- The characters of a quoted source text. -/
def Text.sourceChars : List Char → List Char
  | [] => []
  | c :: rest => Text.sourceChar rest.head? c ++ Text.sourceChars rest

/-- A text as a literal of the source language. -/
def Text.quoteSource (s : String) : String :=
  String.ofList ('"' :: Text.sourceChars s.toList ++ ['"'])

namespace Tree

variable {src : List Char}

/-- A documentation comment as the attribute it stands for. -/
def docPieces (inner : Bool) (text : String) (span : Span) : List Piece :=
  .token "#" false span :: (if inner then [.token "!" false span] else []) ++
    [.group .bracket
      [.token "doc" false span, .token "=" false span, .token (Text.quoteSource text) false span]
      span]

mutual

/-- A token tree as it is printed, with the spacing of the source. -/
def pieces : Tree src → List Piece
  | word w => [.token w.text false w.span]
  | lifetime text span => [.token text false span]
  | punct char joint span => [.token (String.singleton char) joint span]
  | literal text span => [.token text false span]
  | doc inner text span => docPieces inner text span
  | group delimiter body opening closing =>
      [.group delimiter (piecesAll body) (opening.through closing)]

/-- Token trees as they are printed. -/
def piecesAll : List (Tree src) → List Piece
  | [] => []
  | tree :: rest => pieces tree ++ piecesAll rest

end

mutual

/-- The number of tokens of a tree, its delimiters included. -/
def size : Tree src → Nat
  | group _ body _ _ => 2 + sizeAll body
  | _ => 1

/-- The number of tokens of some trees. -/
def sizeAll : List (Tree src) → Nat
  | [] => 0
  | tree :: rest => size tree + sizeAll rest

end

end Tree

end SyntaxExport
