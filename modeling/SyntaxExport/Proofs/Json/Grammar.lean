import Mathlib.Algebra.Field.Rat

/-!
# The grammar of JSON

JSON as its standard defines it, together with the value that each text has. Every production is a
relation between what it stands for, the characters it starts from and the characters it leaves:
`Reads Plain v cs rest` says that `cs` begins with a text of `v` and that `rest` follows it.

* An object keeps the order of its members, and names may repeat.
* A number is the rational number it denotes.
* A text is a sequence of characters. Escapes can name the two halves of a character outside the
  basic plane one by one; `decodeUnits` puts them together.

The characters that may stand for themselves in a text are a parameter. The grammar of the standard
is the one with `Plain`.
-/

namespace SyntaxExport.Json

/-- A JSON value. -/
inductive Value where
  | null
  | bool (b : Bool)
  | number (q : ℚ)
  | text (s : String)
  | array (items : List Value)
  | object (members : List (String × Value))

/-! ## Blanks -/

/-- The characters that may stand around structural characters. -/
def isBlank (c : Char) : Bool :=
  c == ' ' || c == '\t' || c == '\n' || c == '\r'

/-- Any number of blanks. -/
inductive Blanks : List Char → List Char → Prop
  | none {rest : List Char} : Blanks rest rest
  | some {c : Char} {cs rest : List Char} : isBlank c → Blanks cs rest → Blanks (c :: cs) rest

/-! ## Texts -/

/-- The characters that stand for themselves in a text: all but the quote, the backslash and the
control characters. -/
def Plain (c : Char) : Prop :=
  0x20 ≤ c.toNat ∧ c ≠ '"' ∧ c ≠ '\\'

instance : DecidablePred Plain :=
  fun c => inferInstanceAs (Decidable (0x20 ≤ c.toNat ∧ c ≠ '"' ∧ c ≠ '\\'))

/-- What a letter after a backslash means. -/
def escaped? : Char → Option Char
  | '"' => some '"'
  | '\\' => some '\\'
  | '/' => some '/'
  | 'b' => some (Char.ofNat 0x08)
  | 'f' => some (Char.ofNat 0x0C)
  | 'n' => some '\n'
  | 'r' => some '\r'
  | 't' => some '\t'
  | _ => none

/-- The value of a hexadecimal digit. -/
def hexValue? (c : Char) : Option Nat :=
  if c.isDigit then some (c.toNat - 0x30)
  else if 'a' ≤ c ∧ c ≤ 'f' then some (c.toNat - 0x57)
  else if 'A' ≤ c ∧ c ≤ 'F' then some (c.toNat - 0x37)
  else none

/-- The rest of a text after its opening quote, as the code units it names. -/
inductive Units (plain : Char → Prop) : List Nat → List Char → List Char → Prop
  | close {rest : List Char} : Units plain [] ('"' :: rest) rest
  | plain {c : Char} {us : List Nat} {cs rest : List Char} :
      plain c → Units plain us cs rest → Units plain (c.toNat :: us) (c :: cs) rest
  | escape {e c : Char} {us : List Nat} {cs rest : List Char} :
      escaped? e = some c → Units plain us cs rest →
      Units plain (c.toNat :: us) ('\\' :: e :: cs) rest
  | code {h₃ h₂ h₁ h₀ : Char} {d₃ d₂ d₁ d₀ : Nat} {us : List Nat} {cs rest : List Char} :
      hexValue? h₃ = some d₃ → hexValue? h₂ = some d₂ → hexValue? h₁ = some d₁ →
      hexValue? h₀ = some d₀ → Units plain us cs rest →
      Units plain ((d₃ * 0x1000 + d₂ * 0x100 + d₁ * 0x10 + d₀) :: us)
        ('\\' :: 'u' :: h₃ :: h₂ :: h₁ :: h₀ :: cs) rest

/-- The character of a code unit. A half that stands alone is no character, and the replacement
character stands for it. -/
def unitChar (u : Nat) : Char :=
  if u.isValidChar then Char.ofNat u else Char.ofNat 0xFFFD

/-- The characters that code units stand for: an upper and a lower half together make one. -/
def decodeUnits : List Nat → List Char
  | [] => []
  | [u] => [unitChar u]
  | u :: l :: rest =>
      if 0xD800 ≤ u ∧ u < 0xDC00 ∧ 0xDC00 ≤ l ∧ l < 0xE000 then
        Char.ofNat (0x10000 + (u - 0xD800) * 0x400 + (l - 0xDC00)) :: decodeUnits rest
      else unitChar u :: decodeUnits (l :: rest)

/-- A text in quotes. -/
inductive Quoted (plain : Char → Prop) : String → List Char → List Char → Prop
  | mk {us : List Nat} {cs rest : List Char} : Units plain us cs rest →
      Quoted plain (String.ofList (decodeUnits us)) ('"' :: cs) rest

/-! ## Numbers -/

/-- Any number of digits. -/
inductive Digits : List Char → List Char → List Char → Prop
  | none {rest : List Char} : Digits [] rest rest
  | some {d : Char} {ds cs rest : List Char} :
      d.isDigit → Digits ds cs rest → Digits (d :: ds) (d :: cs) rest

/-- The digits before the point: a zero, or digits that do not begin with one. -/
inductive Whole : List Char → List Char → List Char → Prop
  | zero {rest : List Char} : Whole ['0'] ('0' :: rest) rest
  | digits {d : Char} {ds cs rest : List Char} :
      d.isDigit → d ≠ '0' → Digits ds cs rest → Whole (d :: ds) (d :: cs) rest

/-- The digits after the point, if there is one. -/
inductive Fraction : List Char → List Char → List Char → Prop
  | none {rest : List Char} : Fraction [] rest rest
  | some {d : Char} {ds cs rest : List Char} :
      d.isDigit → Digits ds cs rest → Fraction (d :: ds) ('.' :: d :: cs) rest

/-- The power of ten, if one is given. -/
inductive Exponent : Int → List Char → List Char → Prop
  | none {rest : List Char} : Exponent 0 rest rest
  | unsigned {e d : Char} {ds cs rest : List Char} :
      e = 'e' ∨ e = 'E' → d.isDigit → Digits ds cs rest →
      Exponent (Nat.ofDigitChars 10 (d :: ds) 0) (e :: d :: cs) rest
  | plus {e d : Char} {ds cs rest : List Char} :
      e = 'e' ∨ e = 'E' → d.isDigit → Digits ds cs rest →
      Exponent (Nat.ofDigitChars 10 (d :: ds) 0) (e :: '+' :: d :: cs) rest
  | minus {e d : Char} {ds cs rest : List Char} :
      e = 'e' ∨ e = 'E' → d.isDigit → Digits ds cs rest →
      Exponent (-Nat.ofDigitChars 10 (d :: ds) 0) (e :: '-' :: d :: cs) rest

/-- A number without its sign. The digits after the point lower the power of ten. -/
inductive Unsigned : ℚ → List Char → List Char → Prop
  | mk {ds fs : List Char} {e : Int} {cs cs₁ cs₂ rest : List Char} :
      Whole ds cs cs₁ → Fraction fs cs₁ cs₂ → Exponent e cs₂ rest →
      Unsigned (Nat.ofDigitChars 10 (ds ++ fs) 0 * 10 ^ (e - fs.length)) cs rest

/-- A number. -/
inductive Number : ℚ → List Char → List Char → Prop
  | plus {q : ℚ} {cs rest : List Char} : Unsigned q cs rest → Number q cs rest
  | minus {q : ℚ} {cs rest : List Char} : Unsigned q cs rest → Number (-q) ('-' :: cs) rest

/-! ## Values -/

section Sequences

variable {α : Type} (item : α → List Char → List Char → Prop) (close : Char)

/-- One item or more, with commas between them, up to the closing bracket. -/
inductive Items : List α → List Char → List Char → Prop
  | last {a : α} {cs cs₁ rest : List Char} :
      item a cs cs₁ → Blanks cs₁ (close :: rest) → Items [a] cs rest
  | more {a : α} {as : List α} {cs cs₁ cs₂ cs₃ rest : List Char} :
      item a cs cs₁ → Blanks cs₁ (',' :: cs₂) → Blanks cs₂ cs₃ → Items as cs₃ rest →
      Items (a :: as) cs rest

/-- What follows an opening bracket: the closing one, or items up to it. -/
inductive Body : List α → List Char → List Char → Prop
  | none {cs rest : List Char} : Blanks cs (close :: rest) → Body [] cs rest
  | some {as : List α} {cs cs₁ rest : List Char} :
      Blanks cs cs₁ → Items item close as cs₁ rest → Body as cs rest

end Sequences

/-- A name, a colon and a value. -/
inductive Member (plain : Char → Prop) (value : Value → List Char → List Char → Prop) :
    String × Value → List Char → List Char → Prop
  | mk {name : String} {v : Value} {cs cs₁ cs₂ cs₃ rest : List Char} :
      Quoted plain name cs cs₁ → Blanks cs₁ (':' :: cs₂) → Blanks cs₂ cs₃ → value v cs₃ rest →
      Member plain value (name, v) cs rest

/-- The characters begin with a text of the value. -/
inductive Reads (plain : Char → Prop) : Value → List Char → List Char → Prop
  | null {rest : List Char} : Reads plain .null ('n' :: 'u' :: 'l' :: 'l' :: rest) rest
  | true {rest : List Char} : Reads plain (.bool true) ('t' :: 'r' :: 'u' :: 'e' :: rest) rest
  | false {rest : List Char} :
      Reads plain (.bool false) ('f' :: 'a' :: 'l' :: 's' :: 'e' :: rest) rest
  | number {q : ℚ} {cs rest : List Char} : Number q cs rest → Reads plain (.number q) cs rest
  | text {s : String} {cs rest : List Char} : Quoted plain s cs rest → Reads plain (.text s) cs rest
  | array {items : List Value} {cs rest : List Char} :
      Body (Reads plain) ']' items cs rest → Reads plain (.array items) ('[' :: cs) rest
  | object {members : List (String × Value)} {cs rest : List Char} :
      Body (Member plain (Reads plain)) '\x7d' members cs rest →
      Reads plain (.object members) ('\x7b' :: cs) rest

/-- The document is a JSON text, and `v` is its value. -/
def Parses (document : String) (v : Value) : Prop :=
  ∃ cs rest, Blanks document.toList cs ∧ Reads Plain v cs rest ∧ Blanks rest []

/-- The document is a JSON text. -/
def Valid (document : String) : Prop :=
  ∃ v, Parses document v

end SyntaxExport.Json
