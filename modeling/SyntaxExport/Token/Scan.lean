import SyntaxExport.Text.Blank
import SyntaxExport.Text.Identifier

/-!
# Lengths of lexical elements

Each scanner looks at the characters that are left of a Rust source text and gives the number of
characters of the element it stands for, or none if no such element starts there. `literal?`,
`word?` and `comment?` are the entry points; blanks and plain comments are skipped by `blank`.
-/

namespace SyntaxExport.Scan

open Text

/-- The source goes on with the characters of `s`. -/
def startsWith (s : String) (cs : List Char) : Bool :=
  s.toList.isPrefixOf cs

/-! ## Blanks and comments -/

/-- White space between elements; the two marks of writing direction count as well. -/
def isSpace (c : Char) : Bool :=
  isBlank c || c.toNat == 0x200E || c.toNat == 0x200F

/-- The length of a line comment without its line break; a carriage return before it belongs to the
comment. -/
def lineLength (cs : List Char) : Nat :=
  (cs.takeWhile (· != '\n')).length

/-- The length of a block comment, given how many blocks are open and what has been read of it. -/
def blockLength? (depth read : Nat) : List Char → Option Nat
  | '/' :: '*' :: rest => blockLength? (depth + 1) (read + 2) rest
  | '*' :: '/' :: rest =>
      if depth ≤ 1 then some (read + 2) else blockLength? (depth - 1) (read + 2) rest
  | _ :: rest => blockLength? depth (read + 1) rest
  | [] => none

/-- A line comment that is no documentation. -/
def isPlainLine (cs : List Char) : Bool :=
  startsWith "//" cs && (!startsWith "///" cs || startsWith "////" cs) && !startsWith "//!" cs

/-- A block comment that is no documentation. -/
def isPlainBlock (cs : List Char) : Bool :=
  startsWith "/**/" cs ||
    startsWith "/*" cs && (!startsWith "/**" cs || startsWith "/***" cs) && !startsWith "/*!" cs

/-- The length of the blank or plain comment that comes next; zero if there is none. -/
def blankStep (cs : List Char) : Nat :=
  match cs with
  | [] => 0
  | c :: _ =>
      if isPlainLine cs then lineLength cs
      else if isPlainBlock cs then (blockLength? 0 0 cs).getD 0
      else if isSpace c then 1
      else 0

/-- The length of all blanks and plain comments that come next. -/
def blank (cs : List Char) : Nat :=
  match h : blankStep cs with
  | 0 => 0
  | n + 1 => if (cs.drop (n + 1)).length < cs.length then n + 1 + blank (cs.drop (n + 1)) else 0
termination_by cs.length
decreasing_by assumption

/-- A comment that documents what stands around it or after it. -/
structure DocComment where
  inner : Bool
  text : String
  length : Nat

/-- The text has no carriage return but before a line feed. -/
def returnsPaired : List Char → Bool
  | '\r' :: '\n' :: rest => returnsPaired rest
  | '\r' :: _ => false
  | _ :: rest => returnsPaired rest
  | [] => true

/-- A documentation comment in a line. Its text ends before the line break. -/
def docLine (inner : Bool) (cs : List Char) : DocComment :=
  let body := (cs.drop 3).takeWhile (· != '\n')
  let hasBreak := (cs.drop (3 + body.length)).head? == some '\n'
  let text := if hasBreak && body.getLast? == some '\r' then body.dropLast else body
  ⟨inner, String.ofList text, 3 + body.length⟩

/-- A documentation comment in a block. -/
def docBlock? (inner : Bool) (cs : List Char) : Option DocComment :=
  (blockLength? 0 0 cs).map fun length =>
    ⟨inner, String.ofList ((cs.take (length - 2)).drop 3), length⟩

/-- The documentation comment that comes next. -/
def docComment? (cs : List Char) : Option DocComment :=
  let comment :=
    if startsWith "//!" cs then some (docLine true cs)
    else if startsWith "/*!" cs then docBlock? true cs
    else if startsWith "///" cs && !startsWith "////" cs then some (docLine false cs)
    else if startsWith "/**" cs && !startsWith "/***" cs then docBlock? false cs
    else none
  comment.filter fun c => returnsPaired c.text.toList

/-! ## Words -/

/-- The length of an identifier without a raw mark; zero if there is none. -/
def identifier : List Char → Nat
  | [] => 0
  | c :: rest =>
      if isIdentifierStart c then 1 + (rest.takeWhile isIdentifierContinue).length else 0

/-- Words that cannot be raw identifiers. -/
def neverRaw : List String :=
  ["_", "super", "self", "Self", "crate"]

/-- The length of an identifier, raw or not. -/
def anyIdentifier? (cs : List Char) : Option Nat :=
  if startsWith "r#" cs then
    match identifier (cs.drop 2) with
    | 0 => none
    | n + 1 =>
        if neverRaw.contains (String.ofList ((cs.drop 2).take (n + 1))) then none else some (n + 3)
  else
    match identifier cs with
    | 0 => none
    | n + 1 => some (n + 1)

/-- What announces a text literal, so that no word starts there. -/
def textMarks : List String :=
  ["r\"", "r#\"", "r##", "b\"", "b'", "br\"", "br#", "c\"", "cr\"", "cr#"]

/-- The length of the word that comes next. -/
def word? (cs : List Char) : Option Nat :=
  if textMarks.any fun mark => startsWith mark cs then none else anyIdentifier? cs

theorem identifier_le (cs : List Char) : identifier cs ≤ cs.length := by
  cases cs with
  | nil => exact Nat.le_refl 0
  | cons c rest =>
    have continued := (List.takeWhile_prefix isIdentifierContinue (l := rest)).length_le
    rw [identifier, List.length_cons]
    split <;> omega

/-- A word is an identifier, or one behind the mark of raw identifiers. -/
theorem word?_cases {cs : List Char} {count : Nat} (scanned : word? cs = some count) :
    0 < count ∧ (count = identifier cs ∨
      ∃ rest, cs = 'r' :: '#' :: rest ∧ count = identifier rest + 2) := by
  unfold word? anyIdentifier? at scanned
  split at scanned
  · cases scanned
  split at scanned
  · next raw =>
    obtain ⟨rest, rfl⟩ := List.isPrefixOf_iff_prefix.mp raw
    have dropped : ("r#".toList ++ rest).drop 2 = rest := rfl
    rw [dropped] at scanned
    split at scanned
    · cases scanned
    · next n found =>
      split at scanned
      · cases scanned
      · cases scanned
        exact ⟨Nat.succ_pos _, .inr ⟨rest, rfl, by rw [found]⟩⟩
  · split at scanned
    · cases scanned
    · next n found =>
      cases scanned
      exact ⟨Nat.succ_pos _, .inl found.symm⟩

/-- A word does not go beyond the end of the source. -/
theorem word?_le {cs : List Char} {count : Nat} (scanned : word? cs = some count) :
    count ≤ cs.length := by
  obtain ⟨-, rfl | ⟨rest, rfl, rfl⟩⟩ := word?_cases scanned
  · exact identifier_le cs
  · exact Nat.add_le_add_right (identifier_le rest) 2

/-! ## Text literals -/

/-- What the characters of a text literal may be. -/
inductive TextKind where
  | text
  | bytes
  | terminated
  deriving DecidableEq

/-- A hexadecimal digit. -/
def isHex (c : Char) : Bool :=
  c.isDigit || ('a' ≤ c && c ≤ 'f') || ('A' ≤ c && c ≤ 'F')

/-- The value of a hexadecimal digit. -/
def hexValue (c : Char) : Nat :=
  if c.isDigit then c.toNat - '0'.toNat
  else if 'a' ≤ c && c ≤ 'f' then c.toNat - 'a'.toNat + 10
  else c.toNat - 'A'.toNat + 10

/-- The two digits of a numeric escape suit the kind of text. -/
def escapeDigits (kind : TextKind) (a b : Char) : Bool :=
  match kind with
  | .text => '0' ≤ a && a ≤ '7' && isHex b
  | .bytes => isHex a && isHex b
  | .terminated => isHex a && isHex b && !(a == '0' && b == '0')

/-- The digits of a code point up to the closing brace: how many characters were read, the closing
brace included, and the value. There are one to six digits, and underscores after the first. -/
def codePoint? (read digits value : Nat) : List Char → Option (Nat × Nat)
  | [] => none
  | c :: rest =>
      if c == '_' && digits > 0 then codePoint? (read + 1) digits value rest
      else if c == '\x7d' && digits > 0 then
        if Nat.isValidChar value then some (read + 1, value) else none
      else if isHex c && digits < 6 then
        codePoint? (read + 1) (digits + 1) (value * 16 + hexValue c) rest
      else none

/-- The escape of a code point: how many characters it has after the letter `u`, and its value. -/
def codePointEscape? : List Char → Option (Nat × Nat)
  | '\x7b' :: rest => codePoint? 1 0 0 rest
  | _ => none

/-- A letter that stands for one character after a backslash. -/
def isSimpleEscape (kind : TextKind) (c : Char) : Bool :=
  c == 'n' || c == 'r' || c == 't' || c == '\\' || c == '\'' || c == '"' ||
    (c == '0' && kind != .terminated)

/-- A character that stands for itself in a text of that kind. -/
def isOwnChar (kind : TextKind) (c : Char) : Bool :=
  match kind with
  | .text => true
  | .bytes => c.toNat < 128
  | .terminated => c.toNat != 0

/-- A blank that is skipped after a line break behind a backslash. -/
def isContinuation (c : Char) : Bool :=
  c == ' ' || c == '\t' || c == '\n' || c == '\r'

/-- The length of a text up to its closing quote. `skipping` is the last blank while blanks after a
line break behind a backslash are skipped. -/
def cooked? (kind : TextKind) (skipping : Option Char) (read : Nat) (cs : List Char) : Option Nat :=
  match cs with
  | [] => none
  | c :: rest =>
      if skipping == some '\r' then
        if c == '\n' then cooked? kind (some '\n') (read + 1) rest else none
      else if skipping.isSome && isContinuation c then cooked? kind (some c) (read + 1) rest
      else if c == '"' then some (read + 1)
      else if c == '\r' then
        match rest with
        | '\n' :: rest => cooked? kind none (read + 2) rest
        | _ => none
      else if c == '\\' then
        match rest with
        | 'x' :: a :: b :: rest =>
            if escapeDigits kind a b then cooked? kind none (read + 4) rest else none
        | 'u' :: rest =>
            match codePointEscape? rest with
            | some (length, value) =>
                if kind == .bytes || (kind == .terminated && value == 0) then none
                else cooked? kind none (read + 2 + length) (rest.drop length)
            | none => none
        | e :: rest =>
            if isSimpleEscape kind e then cooked? kind none (read + 2) rest
            else if e == '\n' || e == '\r' then cooked? kind (some e) (read + 2) rest
            else none
        | [] => none
      else if isOwnChar kind c then cooked? kind none (read + 1) rest
      else none
termination_by cs.length
decreasing_by all_goals (simp only [List.length_cons, List.length_drop]; omega)

/-- The length of a raw text up to the quote that is followed by as many hashes as it was opened
with. -/
def rawBody? (kind : TextKind) (hashes read : Nat) : List Char → Option Nat
  | [] => none
  | c :: rest =>
      if c == '"' && (List.replicate hashes '#').isPrefixOf rest then some (read + 1 + hashes)
      else if c == '\r' then
        match rest with
        | '\n' :: rest => rawBody? kind hashes (read + 2) rest
        | _ => none
      else if isOwnChar kind c then rawBody? kind hashes (read + 1) rest
      else none

/-- The length of a raw text from its hashes on. -/
def raw? (kind : TextKind) (cs : List Char) : Option Nat :=
  let hashes := (cs.takeWhile (· == '#')).length
  if hashes ≤ 255 && (cs.drop hashes).head? == some '"' then
    rawBody? kind hashes (hashes + 1) (cs.drop (hashes + 1))
  else none

/-- The length of an element of `length` characters together with the suffix behind it. -/
def withSuffix (cs : List Char) (length : Nat) : Nat :=
  length + identifier (cs.drop length)

/-- A text literal of one kind, with `mark` before its quote. -/
def textOf? (kind : TextKind) (mark : String) (cs : List Char) : Option Nat :=
  let length := mark.length
  if startsWith (mark ++ "\"") cs then
    (cooked? kind none (length + 1) (cs.drop (length + 1))).map (withSuffix cs)
  else if startsWith (mark ++ "r") cs then
    (raw? kind (cs.drop (length + 1))).map fun n => withSuffix cs (length + 1 + n)
  else none

/-- The length of the inside of a character literal, which is one character or an escape. -/
def character? (kind : TextKind) : List Char → Option Nat
  | '\\' :: 'x' :: a :: b :: _ => if escapeDigits kind a b then some 4 else none
  | '\\' :: 'u' :: rest =>
      if kind == .bytes then none else (codePointEscape? rest).map fun e => 2 + e.1
  | '\\' :: e :: _ => if isSimpleEscape kind e then some 2 else none
  | '\\' :: [] => none
  | c :: _ => if isOwnChar kind c then some 1 else none
  | [] => none

/-- A character literal of one kind, with `mark` before its quote. -/
def characterOf? (kind : TextKind) (mark : String) (cs : List Char) : Option Nat :=
  if startsWith (mark ++ "'") cs then
    match character? kind (cs.drop (mark.length + 1)) with
    | some n =>
        let length := mark.length + 1 + n
        if (cs.drop length).head? == some '\'' then some (withSuffix cs (length + 1)) else none
    | none => none
  else none

/-! ## Numbers -/

/-- How far the digits of a floating-point number reach. -/
structure Mantissa where
  length : Nat
  hasDot : Bool
  hasExponent : Bool

/-- The digits of a floating-point number, up to and including the letter of an exponent. A dot that
starts a range or a field access is not part of a number, and then there is no such number. -/
def mantissa? (read : Nat) (hasDot : Bool) : List Char → Option Mantissa
  | [] => some ⟨read, hasDot, false⟩
  | c :: rest =>
      if c.isDigit || c == '_' then mantissa? (read + 1) hasDot rest
      else if c == '.' then
        if hasDot then some ⟨read, hasDot, false⟩
        else if rest.head?.any fun d => d == '.' || isIdentifierStart d then none
        else mantissa? (read + 1) true rest
      else if c == 'e' || c == 'E' then some ⟨read + 1, hasDot, true⟩
      else some ⟨read, hasDot, false⟩

/-- The length of an exponent behind its letter; none if it has no digits or two signs. -/
def exponent? (read : Nat) (hasSign hasDigit : Bool) : List Char → Option Nat
  | [] => if hasDigit then some read else none
  | c :: rest =>
      if c == '+' || c == '-' then
        if hasDigit then some read
        else if hasSign then none
        else exponent? (read + 1) true hasDigit rest
      else if c.isDigit then exponent? (read + 1) hasSign true rest
      else if c == '_' then exponent? (read + 1) hasSign hasDigit rest
      else if hasDigit then some read
      else none

/-- The length of a number together with its suffix; none if it runs into more of a word. -/
def numberEnd? (cs : List Char) (length : Nat) : Option Nat :=
  let total := withSuffix cs length
  if (cs.drop total).head?.any isIdentifierContinue then none else some total

/-- A floating-point number. -/
def float? (cs : List Char) : Option Nat :=
  match cs with
  | [] => none
  | c :: rest =>
      if !c.isDigit then none
      else
        match mantissa? 1 false rest with
        | none => none
        | some m =>
            if m.hasExponent then
              match exponent? 0 false false (cs.drop m.length) with
              | some n => numberEnd? cs (m.length + n)
              | none => if m.hasDot then numberEnd? cs (m.length - 1) else none
            else if m.hasDot then numberEnd? cs m.length
            else none

/-- The digits of an integer of a base. -/
def digits? (base : Nat) (read : Nat) (isEmpty : Bool) : List Char → Option Nat
  | [] => if isEmpty then none else some read
  | c :: rest =>
      if c.isDigit then
        if hexValue c ≥ base then none else digits? base (read + 1) false rest
      else if isHex c && hexValue c < base then digits? base (read + 1) false rest
      else if c == '_' then
        if isEmpty && base == 10 then none else digits? base (read + 1) isEmpty rest
      else if isEmpty then none
      else some read

/-- An integer, with the mark of its base. -/
def integer? (cs : List Char) : Option Nat :=
  let length :=
    if startsWith "0x" cs then digits? 16 2 true (cs.drop 2)
    else if startsWith "0o" cs then digits? 8 2 true (cs.drop 2)
    else if startsWith "0b" cs then digits? 2 2 true (cs.drop 2)
    else digits? 10 0 true cs
  length.bind (numberEnd? cs)

/-! ## Literals and punctuation -/

/-- A literal: a text, bytes, a terminated text, a byte, a character or a number. -/
def literal? (cs : List Char) : Option Nat :=
  textOf? .text "" cs <|> textOf? .bytes "b" cs <|> textOf? .terminated "c" cs <|>
    characterOf? .bytes "b" cs <|> characterOf? .text "" cs <|> float? cs <|> integer? cs

/-- Characters of punctuation. -/
def punctuation : List Char :=
  "~!@#$%^&*-=+|;:,<.>/?'".toList

/-- A punctuation character comes next, and no comment. -/
def startsPunct (cs : List Char) : Bool :=
  match cs with
  | [] => false
  | c :: _ => punctuation.contains c && !startsWith "//" cs && !startsWith "/*" cs

/-- The length of a lifetime: a quote with a word behind it that is neither closed like a character
nor followed by a hash. -/
def lifetime? (cs : List Char) : Option Nat :=
  match cs with
  | '\'' :: rest =>
      match anyIdentifier? rest with
      | some n =>
          let after := (rest.drop n).head?
          if after == some '\'' || (after == some '#' && !startsWith "r#" rest) then none
          else some (n + 1)
      | none => none
  | _ => none

end SyntaxExport.Scan
