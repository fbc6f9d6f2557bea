import SyntaxExport.Token.Scan

/-!
# Kinds and values of literals

The kind of a literal follows from its text. Texts and characters have a value with the escapes
resolved; every other literal stands for itself.
-/

namespace SyntaxExport

/-- Kinds of literals. -/
inductive LiteralKind where
  | str
  | byteStr
  | cStr
  | byte
  | char
  | int
  | float
  | bool
  | verbatim
  deriving DecidableEq, Repr

namespace LiteralKind

/-- The name of a kind. -/
def name : LiteralKind → String
  | str => "str"
  | byteStr => "byte_str"
  | cStr => "c_str"
  | byte => "byte"
  | char => "char"
  | int => "int"
  | float => "float"
  | bool => "bool"
  | verbatim => "verbatim"

end LiteralKind

namespace Literal

open Scan Text

/-! ## Numbers -/

/-- A text of characters that may stand behind a number: nothing or an identifier. -/
def isSuffix : List Char → Bool
  | [] => true
  | c :: rest => isIdentifierStart c && rest.all isIdentifierContinue

/-- Behind the letter of an exponent: it is the exponent of a floating-point number. `hasDigit`
tells whether a digit was read. -/
def isExponent (hasDigit : Bool) : List Char → Bool
  | [] => hasDigit
  | c :: rest =>
      if c == '_' then isExponent hasDigit rest
      else if c == '-' || c == '+' then true
      else if c.isDigit then isExponent true rest
      else hasDigit && isSuffix (c :: rest)

/-- The digits of a base with a suffix behind them are those of an integer. -/
def isIntegerOf (base : Nat) (hasDigit : Bool) : List Char → Bool
  | [] => hasDigit
  | c :: rest =>
      if c.isDigit then hexValue c < base && isIntegerOf base true rest
      else if base > 10 && isHex c then isIntegerOf base true rest
      else if c == '_' then isIntegerOf base hasDigit rest
      else if base == 10 && c == '.' then false
      else if base == 10 && (c == 'e' || c == 'E') then
        !isExponent false rest && hasDigit && isSuffix (c :: rest)
      else hasDigit && isSuffix (c :: rest)

/-- A number without a sign is an integer: it has neither a dot nor an exponent. -/
def isInteger : List Char → Bool
  | '0' :: 'x' :: rest => isIntegerOf 16 false rest
  | '0' :: 'o' :: rest => isIntegerOf 8 false rest
  | '0' :: 'b' :: rest => isIntegerOf 2 false rest
  | cs => isIntegerOf 10 false cs

/-- A number without a sign is a floating-point number with a suffix behind it. The flags tell what
has been read: a dot, the letter of an exponent, its sign, its digits. -/
def isFloatFrom (hasDot hasLetter hasSign hasExponent : Bool) : List Char → Bool
  | [] => !hasLetter || hasExponent
  | c :: rest =>
      if c == '_' then isFloatFrom hasDot hasLetter hasSign hasExponent rest
      else if c.isDigit then
        isFloatFrom hasDot hasLetter hasSign (hasExponent || hasLetter) rest
      else if c == '.' then
        !hasLetter && !hasDot && isFloatFrom true hasLetter hasSign hasExponent rest
      else if c == 'e' || c == 'E' then
        if (rest.dropWhile (· == '_')).head?.any fun d => d == '-' || d == '+' || d.isDigit then
          if hasLetter then hasExponent && isSuffix (c :: rest)
          else isFloatFrom hasDot true hasSign hasExponent rest
        else (!hasLetter || hasExponent) && isSuffix (c :: rest)
      else if c == '-' || c == '+' then
        !hasSign && !hasExponent && hasLetter && isFloatFrom hasDot hasLetter true hasExponent rest
      else (!hasLetter || hasExponent) && isSuffix (c :: rest)

/-- The kind of a number without a sign. -/
def numberKind (cs : List Char) : LiteralKind :=
  if isInteger cs then .int
  else if isFloatFrom false false false false cs then .float
  else .verbatim

/-! ## All literals -/

/-- The kind of a literal. -/
def kind (cs : List Char) : LiteralKind :=
  match cs with
  | '"' :: _ | 'r' :: _ => .str
  | 'b' :: '\'' :: _ => .byte
  | 'b' :: _ => .byteStr
  | 'c' :: _ => .cStr
  | '\'' :: _ => .char
  | _ => numberKind cs

/-- The value of digits of a base. -/
def digitsValue (base : Nat) (cs : List Char) : Nat :=
  cs.foldl (fun value c => if isHex c then value * base + hexValue c else value) 0

/-- The value and the suffix of an integer. -/
def integerValue : List Char → Nat × List Char
  | '0' :: 'x' :: rest => split 16 isHex rest
  | '0' :: 'o' :: rest => split 8 Char.isDigit rest
  | '0' :: 'b' :: rest => split 2 Char.isDigit rest
  | cs => split 10 Char.isDigit cs
where
  /-- The value of the digits at the front and what stands behind them. -/
  split (base : Nat) (isDigit : Char → Bool) (cs : List Char) : Nat × List Char :=
    (digitsValue base (cs.takeWhile fun c => isDigit c || c == '_'),
      cs.dropWhile fun c => isDigit c || c == '_')

/-! ## Values of texts -/

/-- The characters that an escape stands for, and how many characters it has behind the backslash.
-/
def escapeValue : List Char → List Char × Nat
  | 'x' :: a :: b :: _ => ([Char.ofNat (hexValue a * 16 + hexValue b)], 3)
  | 'u' :: rest =>
      match codePointEscape? rest with
      | some (length, value) => ([Char.ofNat value], length + 1)
      | none => ([], 1)
  | 'n' :: _ => (['\n'], 1)
  | 'r' :: _ => (['\r'], 1)
  | 't' :: _ => (['\t'], 1)
  | '0' :: _ => ([Char.ofNat 0], 1)
  | c :: _ => ([c], 1)
  | [] => ([], 0)

/-- The value of a text behind its opening quote. A line break behind a backslash is skipped with
the blanks after it, and a carriage return before a line feed is dropped. -/
def cookedValue (cs : List Char) : List Char :=
  match cs with
  | [] => []
  | '"' :: _ => []
  | '\r' :: rest => cookedValue rest
  | '\\' :: rest =>
      if rest.head?.any fun c => c == '\n' || c == '\r' then
        cookedValue (rest.dropWhile isContinuation)
      else
        let (value, length) := escapeValue rest
        value ++ cookedValue (rest.drop length)
  | c :: rest => c :: cookedValue rest
termination_by cs.length
decreasing_by
  · simp
  · have := (List.dropWhile_suffix (l := rest) isContinuation).length_le
    simp only [List.length_cons]
    omega
  · simp only [List.length_drop, List.length_cons]
    omega
  · simp

/-- The value of a raw text behind its mark. -/
def rawValue (cs : List Char) : List Char :=
  let hashes := (cs.takeWhile (· == '#')).length
  let body := cs.drop (hashes + 1)
  body.take ((body.reverse.dropWhile (· != '"')).length - 1)

/-- The value of a character literal behind its opening quote. -/
def charValue : List Char → List Char
  | '\\' :: rest => (escapeValue rest).1
  | c :: _ => [c]
  | [] => []

/-- The value of a literal: that of a text or a character, otherwise the literal itself. -/
def value (text : String) : String :=
  match text.toList with
  | '"' :: rest => String.ofList (cookedValue rest)
  | 'r' :: rest => String.ofList (rawValue rest)
  | '\'' :: rest => String.ofList (charValue rest)
  | _ => text

end Literal

end SyntaxExport
