import SyntaxExport.Toml.Value

/-!
# Texts, numbers and points in time in TOML

Each reader takes an element from the front of the characters that are left and gives what it stands
for, or fails.
-/

namespace SyntaxExport.Toml

/-- Readers of characters. -/
abbrev Reader := StateT (List Char) Option

/-- Reads the characters of `s`. -/
def literal (s : String) : Reader Unit := fun cs =>
  if s.toList.isPrefixOf cs then some ((), cs.drop s.length) else none

/-- Reads the characters of `s` if they come next, and tells whether. -/
def literal? (s : String) : Reader Bool := fun cs =>
  if s.toList.isPrefixOf cs then some (true, cs.drop s.length) else some (false, cs)

/-- Reads characters as long as they pass a test. -/
def takeWhile (test : Char → Bool) : Reader (List Char) := fun cs =>
  some (cs.takeWhile test, cs.dropWhile test)

/-- The character that comes next. -/
def peek? : Reader (Option Char) := fun cs =>
  some (cs.head?, cs)

/-- A blank inside a line. -/
def isBlank (c : Char) : Bool :=
  c = ' ' || c = '\t'

/-- Skips blanks inside a line. -/
def blanks : Reader Unit := do
  let _ ← takeWhile isBlank

/-- A character that may stand in a text or comment as it is. -/
def isPlain (c : Char) : Bool :=
  c = '\t' || 0x20 ≤ c.toNat && c.toNat ≠ 0x7F

/-- Reads a line break. -/
def lineBreak : Reader Unit :=
  literal "\n" <|> literal "\r\n"

/-! ## Texts -/

/-- The value of a hexadecimal digit. -/
def hexDigit? (c : Char) : Option Nat :=
  if c.isDigit then some (c.toNat - '0'.toNat)
  else if 'a' ≤ c && c ≤ 'f' then some (c.toNat - 'a'.toNat + 10)
  else if 'A' ≤ c && c ≤ 'F' then some (c.toNat - 'A'.toNat + 10)
  else none

/-- The character of a code point in hexadecimal digits. -/
def scalar? (digits : List Char) : Option Char := do
  let n ← digits.foldlM (fun n c => (hexDigit? c).map (16 * n + ·)) 0
  if n.isValidChar then some (Char.ofNat n) else none

/-- The character that a letter stands for behind a backslash. -/
def escaped? : Char → Option Char
  | 'b' => some (Char.ofNat 8)
  | 't' => some '\t'
  | 'n' => some '\n'
  | 'f' => some (Char.ofNat 12)
  | 'r' => some '\r'
  | '"' => some '"'
  | '\\' => some '\\'
  | _ => none

/-- A text and what is left behind it, with a character before. -/
def withChar (c : Char) (rest : Option (List Char × List Char)) : Option (List Char × List Char) :=
  rest.map fun (text, left) => (c :: text, left)

/-- The inside of a text in quotes, and what is left behind the closing quote. -/
def basicBody : List Char → Option (List Char × List Char)
  | [] => none
  | '"' :: rest => some ([], rest)
  | '\\' :: 'u' :: a :: b :: c :: d :: rest =>
      (scalar? [a, b, c, d]).bind fun x => withChar x (basicBody rest)
  | '\\' :: 'U' :: a :: b :: c :: d :: e :: f :: g :: h :: rest =>
      (scalar? [a, b, c, d, e, f, g, h]).bind fun x => withChar x (basicBody rest)
  | '\\' :: c :: rest => (escaped? c).bind fun x => withChar x (basicBody rest)
  | c :: rest => if isPlain c && c ≠ '\\' then withChar c (basicBody rest) else none

/-- A line break comes next behind blanks. -/
def breaksLine (cs : List Char) : Bool :=
  match cs.dropWhile isBlank with
  | '\n' :: _ => true
  | '\r' :: '\n' :: _ => true
  | _ => false

/-- The inside of a text of several lines in triple quotes, and what is left behind them. `skips`
if blanks and line breaks are left out, as behind a backslash at the end of a line. One or two
quotes may stand right before the closing ones. -/
def basicLines (skips : Bool) : List Char → Option (List Char × List Char)
  | [] => none
  | '"' :: '"' :: '"' :: '"' :: '"' :: rest => some (['"', '"'], rest)
  | '"' :: '"' :: '"' :: '"' :: rest => some (['"'], rest)
  | '"' :: '"' :: '"' :: rest => some ([], rest)
  | '\\' :: 'u' :: a :: b :: c :: d :: rest =>
      (scalar? [a, b, c, d]).bind fun x => withChar x (basicLines false rest)
  | '\\' :: 'U' :: a :: b :: c :: d :: e :: f :: g :: h :: rest =>
      (scalar? [a, b, c, d, e, f, g, h]).bind fun x => withChar x (basicLines false rest)
  | '\\' :: c :: rest =>
      if breaksLine (c :: rest) then basicLines true (c :: rest)
      else (escaped? c).bind fun x => withChar x (basicLines false rest)
  | '\r' :: '\n' :: rest =>
      if skips then basicLines true rest else withChar '\n' (basicLines false rest)
  | c :: rest =>
      if skips && (isBlank c || c = '\n') then basicLines true rest
      else if c = '\n' || isPlain c && c ≠ '\\' then withChar c (basicLines false rest)
      else none

/-- The inside of a text in apostrophes, which is taken as it is, and what is left behind it. -/
def literalBody : List Char → Option (List Char × List Char)
  | [] => none
  | '\'' :: rest => some ([], rest)
  | c :: rest => if isPlain c then withChar c (literalBody rest) else none

/-- The inside of a text of several lines in triple apostrophes, and what is left behind them. -/
def literalLines : List Char → Option (List Char × List Char)
  | [] => none
  | '\'' :: '\'' :: '\'' :: '\'' :: '\'' :: rest => some (['\'', '\''], rest)
  | '\'' :: '\'' :: '\'' :: '\'' :: rest => some (['\''], rest)
  | '\'' :: '\'' :: '\'' :: rest => some ([], rest)
  | '\r' :: '\n' :: rest => withChar '\n' (literalLines rest)
  | c :: rest => if c = '\n' || isPlain c then withChar c (literalLines rest) else none

/-- The characters behind a line break at their beginning, if there is one. -/
def withoutBreak : List Char → List Char
  | '\n' :: rest => rest
  | '\r' :: '\n' :: rest => rest
  | cs => cs

/-- Reads a text in one line, the only kind that can be a key. -/
def lineText : Reader String := fun cs =>
  match cs with
  | '"' :: rest => (basicBody rest).map fun (text, left) => (String.ofList text, left)
  | '\'' :: rest => (literalBody rest).map fun (text, left) => (String.ofList text, left)
  | _ => none

/-- Reads a text. -/
def text : Reader String := fun cs =>
  match cs with
  | '"' :: '"' :: '"' :: rest =>
      (basicLines false (withoutBreak rest)).map fun (text, left) => (String.ofList text, left)
  | '\'' :: '\'' :: '\'' :: rest =>
      (literalLines (withoutBreak rest)).map fun (text, left) => (String.ofList text, left)
  | _ => lineText cs

/-! ## Numbers -/

/-- The digits at the front, with single underscores between them left out, and what is left. -/
def digitRun (isDigit : Char → Bool) : List Char → List Char × List Char
  | '_' :: c :: rest =>
      if isDigit c then
        let (digits, left) := digitRun isDigit rest
        (c :: digits, left)
      else ([], '_' :: c :: rest)
  | c :: rest =>
      if isDigit c then
        let (digits, left) := digitRun isDigit rest
        (c :: digits, left)
      else ([], c :: rest)
  | [] => ([], [])

/-- Reads digits, of which the first is no underscore. -/
def digits (isDigit : Char → Bool) : Reader (List Char) := fun cs =>
  match cs with
  | c :: _ => if isDigit c then some (digitRun isDigit cs) else none
  | [] => none

/-- The value of digits in a base. -/
def valueOf (base : Nat) (ds : List Char) : Nat :=
  ds.foldl (fun n c => base * n + (hexDigit? c).getD 0) 0

/-- Reads an integer in another base than ten. -/
def basedInteger : Reader Int := do
  if ← literal? "0x" then return valueOf 16 (← digits fun c => (hexDigit? c).isSome)
  else if ← literal? "0o" then return valueOf 8 (← digits fun c => '0' ≤ c && c ≤ '7')
  else
    literal "0b"
    return valueOf 2 (← digits fun c => c = '0' || c = '1')

/-- Reads a sign, and tells whether it is a minus. -/
def sign : Reader Bool := do
  if ← literal? "-" then return true
  else
    let _ ← literal? "+"
    return false

/-- Reads a decimal number without leading zeros behind its sign. -/
def decimal : Reader Nat := do
  if ← literal? "0" then return 0
  else return valueOf 10 (← digits Char.isDigit)

/-- Reads the exponent of a number. -/
def exponent : Reader Unit := do
  literal "e" <|> literal "E"
  let _ ← sign
  let _ ← digits Char.isDigit

/-- Reads what makes a decimal number one with a fraction. -/
def fraction : Reader Unit := do
  if ← literal? "." then
    let _ ← digits Char.isDigit
    exponent <|> pure ()
  else exponent

/-- Reads a number with a fraction or an exponent, or one of the special ones. -/
def float : Reader Unit := do
  let _ ← sign
  literal "inf" <|> literal "nan" <|> do
    let _ ← decimal
    fraction

/-- Reads an integer that fits into 64 bits. -/
def integer : Reader Int := do
  let n ← basedInteger <|> do
    let isNegative ← sign
    let n ← decimal
    return if isNegative then -(n : Int) else n
  if -0x8000000000000000 ≤ n && n < 0x8000000000000000 then return n else failure

/-! ## Points in time -/

/-- Reads a number of exactly `count` digits between two bounds. -/
def fixedNumber (count low high : Nat) : Reader Nat := fun cs =>
  let ds := cs.take count
  let n := valueOf 10 ds
  if ds.length = count && ds.all Char.isDigit && low ≤ n && n ≤ high then some (n, cs.drop count)
  else none

/-- The number of days of a month. -/
def monthDays (year month : Nat) : Nat :=
  if month = 2 then
    if year % 4 = 0 && (year % 100 ≠ 0 || year % 400 = 0) then 29 else 28
  else if month = 4 || month = 6 || month = 9 || month = 11 then 30
  else 31

/-- Reads a date. -/
def date : Reader Unit := do
  let year ← fixedNumber 4 0 9999
  literal "-"
  let month ← fixedNumber 2 1 12
  literal "-"
  let _ ← fixedNumber 2 1 (monthDays year month)

/-- Reads a time of day. -/
def time : Reader Unit := do
  let _ ← fixedNumber 2 0 23
  literal ":"
  let _ ← fixedNumber 2 0 59
  literal ":"
  let _ ← fixedNumber 2 0 60
  if ← literal? "." then
    let ds ← takeWhile Char.isDigit
    if ds.isEmpty then failure

/-- Reads the distance from universal time. -/
def offset : Reader Unit :=
  literal "Z" <|> literal "z" <|> do
    literal "+" <|> literal "-"
    let _ ← fixedNumber 2 0 23
    literal ":"
    let _ ← fixedNumber 2 0 59

/-- Reads a time behind its date, with the distance from universal time. -/
def timeBehind : Reader Unit := do
  literal "T" <|> literal "t" <|> literal " "
  time
  offset <|> pure ()

/-- Reads a point in time: a date with or without a time, or a time alone. -/
def moment : Reader Unit :=
  (do date; timeBehind <|> pure ()) <|> time

end SyntaxExport.Toml
