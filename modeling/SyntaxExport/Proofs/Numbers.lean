import SyntaxExport.Token.Literal

/-!
# Decimal numbers

A decimal number with a suffix is one token, and its kind follows from what stands before the suffix
alone: it is a floating-point number if it has a fraction or an exponent, and an integer otherwise.
`Literal.Suffixed` says what such numbers are. What reads them goes through digits and underscores
in one way, so each reader has one lemma for a run of these, whatever follows, and one for where the
suffix starts.

Results:
1. `Literal.kind_chars`: the kind of a number.
2. `Scan.literal?_chars`: numbers are read up to the end of their suffix.
-/

namespace SyntaxExport

/-! ## Decimal numbers -/

namespace Literal

/-- Types of numbers, which a suffix can name. -/
inductive Suffix where
  | i8
  | i16
  | i32
  | i64
  | i128
  | isize
  | u8
  | u16
  | u32
  | u64
  | u128
  | usize
  | f32
  | f64
  deriving DecidableEq, Repr

namespace Suffix

/-- The name of a type. -/
def name : Suffix → String
  | i8 => "i8"
  | i16 => "i16"
  | i32 => "i32"
  | i64 => "i64"
  | i128 => "i128"
  | isize => "isize"
  | u8 => "u8"
  | u16 => "u16"
  | u32 => "u32"
  | u64 => "u64"
  | u128 => "u128"
  | usize => "usize"
  | f32 => "f32"
  | f64 => "f64"

/-- The type is one of floating-point numbers. -/
def isFloat : Suffix → Bool
  | f32 | f64 => true
  | _ => false

/-- The characters of the name. -/
def chars (s : Suffix) : List Char :=
  s.name.toList

end Suffix

theorem Suffix.exists_chars (s : Suffix) :
    ∃ c more, s.chars = c :: more ∧ c ∈ ['i', 'u', 'f'] := by
  have letter : s.chars.head? ∈ [some 'i', some 'u', some 'f'] := by cases s <;> decide
  cases spelled : s.chars with
  | nil =>
    rw [spelled] at letter
    exact absurd letter (by decide)
  | cons c more =>
    rw [spelled] at letter
    exact ⟨c, more, rfl, by simpa using letter⟩

/-- Digits and underscores. -/
def IsRun (cs : List Char) : Prop :=
  ∀ c ∈ cs, c.isDigit = true ∨ c = '_'

instance (cs : List Char) : Decidable (IsRun cs) :=
  List.decidableBAll _ cs

/-- A digit, and any digits and underscores behind it. -/
structure Digits where
  first : Char
  rest : List Char
  isDigit : first.isDigit = true
  isRun : IsRun rest

/-- The characters of digits. -/
def Digits.chars (d : Digits) : List Char :=
  d.first :: d.rest

/-- An exponent: its letter, perhaps a sign, and digits and underscores, of which one is a digit. -/
structure Exponent where
  letter : Char
  sign : Option Char
  digits : List Char
  isLetter : letter = 'e' ∨ letter = 'E'
  isSign : ∀ c ∈ sign, c = '+' ∨ c = '-'
  isRun : IsRun digits
  hasDigit : digits.any Char.isDigit = true

/-- The characters of an exponent. -/
def Exponent.chars (e : Exponent) : List Char :=
  e.letter :: (e.sign.toList ++ e.digits)

/-- A decimal number with a suffix. Only with a suffix of floating-point numbers it may have a
fraction or an exponent. -/
structure Suffixed where
  whole : Digits
  fraction : Option Digits
  exponent : Option Exponent
  suffix : Suffix
  fits : suffix.isFloat = false → fraction = none ∧ exponent = none

namespace Suffixed

/-- The characters of a fraction, with its dot. -/
def fractionChars : Option Digits → List Char
  | some d => '.' :: d.chars
  | none => []

/-- The characters of an exponent, if there is one. -/
def exponentChars : Option Exponent → List Char
  | some e => e.chars
  | none => []

/-- The characters of a number. -/
def chars (n : Suffixed) : List Char :=
  n.whole.chars ++ (fractionChars n.fraction ++ (exponentChars n.exponent ++ n.suffix.chars))

/-- The text of a number. -/
def text (n : Suffixed) : String :=
  String.ofList n.chars

/-- The number has neither a fraction nor an exponent. -/
def isWhole (n : Suffixed) : Bool :=
  n.fraction.isNone && n.exponent.isNone

end Suffixed

theorem beq_of_isDigit {c d : Char} (digit : c.isDigit = true) (other : d.isDigit = false) :
    (c == d) = false := by
  rw [beq_eq_false_iff_ne]
  rintro rfl
  rw [digit] at other
  cases other

theorem IsRun.cons {c : Char} {cs : List Char} (run : IsRun (c :: cs)) :
    (c.isDigit = true ∨ c = '_') ∧ IsRun cs :=
  List.forall_mem_cons.mp run

theorem Digits.isRun_chars (d : Digits) : IsRun d.chars :=
  List.forall_mem_cons.mpr ⟨.inl d.isDigit, d.isRun⟩

theorem Digits.any_chars (d : Digits) : d.chars.any Char.isDigit = true := by
  rw [chars, List.any_cons, d.isDigit, Bool.true_or]

theorem toNat_of_isDigit {c : Char} (digit : c.isDigit = true) : 48 ≤ c.toNat ∧ c.toNat ≤ 57 := by
  rw [Char.isDigit, Bool.and_eq_true, decide_eq_true_eq, decide_eq_true_eq] at digit
  exact digit

theorem hexValue_lt {c : Char} (digit : c.isDigit = true) : Scan.hexValue c < 10 := by
  have range := toNat_of_isDigit digit
  have zero : '0'.toNat = 48 := rfl
  rw [Scan.hexValue, if_pos digit]
  omega

theorem not_isIdentifierStart {c : Char} (digit : c.isDigit = true) :
    Text.isIdentifierStart c = false := by
  have range := toNat_of_isDigit digit
  have ascii : c.toNat < 128 := by omega
  have noLetter : (65 ≤ c.toNat → 90 < c.toNat) ∧ (97 ≤ c.toNat → 122 < c.toNat) := by omega
  rw [Text.isIdentifierStart, if_pos ascii, beq_of_isDigit digit rfl, Bool.or_false]
  delta Char.isAlpha Char.isUpper Char.isLower
  simpa [UInt32.le_iff_toNat_le] using noLetter

/-! ## The kind of a number -/

variable {cs tail : List Char}

/-- Digits and underscores are passed over, and it counts only whether there was a digit. -/
theorem isIntegerOf_run (run : IsRun cs) (hasDigit : Bool) :
    isIntegerOf 10 hasDigit (cs ++ tail) =
      isIntegerOf 10 (hasDigit || cs.any Char.isDigit) tail := by
  induction cs generalizing hasDigit with
  | nil => rw [List.any_nil, Bool.or_false]; rfl
  | cons c cs ih =>
    obtain ⟨here, later⟩ := run.cons
    rw [List.cons_append, isIntegerOf, List.any_cons]
    rcases here with digit | rfl
    · rw [if_pos digit, decide_eq_true (hexValue_lt digit), Bool.true_and, ih later, digit]
      simp
    · exact ih later hasDigit

theorem isExponent_run (run : IsRun cs) (hasDigit : Bool) :
    isExponent hasDigit (cs ++ tail) = isExponent (hasDigit || cs.any Char.isDigit) tail := by
  induction cs generalizing hasDigit with
  | nil => rw [List.any_nil, Bool.or_false]; rfl
  | cons c cs ih =>
    obtain ⟨here, later⟩ := run.cons
    rw [List.cons_append, isExponent, List.any_cons]
    rcases here with digit | rfl
    · rw [beq_of_isDigit digit rfl, beq_of_isDigit digit rfl, beq_of_isDigit digit rfl, digit,
        Bool.true_or, Bool.or_true]
      exact ih later true
    · exact ih later hasDigit

theorem isFloatFrom_run (run : IsRun cs) (hasDot hasLetter hasSign hasExponent : Bool) :
    isFloatFrom hasDot hasLetter hasSign hasExponent (cs ++ tail) =
      isFloatFrom hasDot hasLetter hasSign (hasExponent || hasLetter && cs.any Char.isDigit)
        tail := by
  induction cs generalizing hasExponent with
  | nil => rw [List.any_nil, Bool.and_false, Bool.or_false]; rfl
  | cons c cs ih =>
    obtain ⟨here, later⟩ := run.cons
    rw [List.cons_append, isFloatFrom, List.any_cons]
    rcases here with digit | rfl
    · rw [beq_of_isDigit digit rfl, digit, if_neg Bool.false_ne_true, if_pos rfl, ih later]
      congr 1
      cases hasExponent <;> cases hasLetter <;> rfl
    · exact ih later hasExponent

theorem isIntegerOf_suffix (s : Suffix) : isIntegerOf 10 true s.chars = true := by
  cases s <;> decide

theorem isExponent_suffix (s : Suffix) : isExponent true s.chars = true := by
  cases s <;> decide

theorem isFloatFrom_suffix (s : Suffix) (hasDot hasLetter hasSign hasExponent : Bool) :
    isFloatFrom hasDot hasLetter hasSign hasExponent s.chars = (!hasLetter || hasExponent) := by
  cases s <;> revert hasDot hasLetter hasSign hasExponent <;> decide

theorem isExponent_chars (e : Exponent) (s : Suffix) :
    isExponent false (e.sign.toList ++ (e.digits ++ s.chars)) = true := by
  cases signed : e.sign with
  | none =>
    rw [Option.toList_none, List.nil_append, isExponent_run e.isRun, e.hasDigit]
    exact isExponent_suffix s
  | some sign =>
    rcases e.isSign sign signed with rfl | rfl
    · rfl
    · rfl

/-- A number is an integer exactly if it has neither a fraction nor an exponent. -/
theorem isIntegerOf_chars (n : Suffixed) : isIntegerOf 10 false n.chars = n.isWhole := by
  rw [Suffixed.chars, Suffixed.isWhole, isIntegerOf_run n.whole.isRun_chars, n.whole.any_chars]
  cases n.fraction with
  | some d => rfl
  | none =>
    cases n.exponent with
    | none => exact isIntegerOf_suffix n.suffix
    | some e =>
      have exponent := isExponent_chars e n.suffix
      rw [Suffixed.fractionChars, Suffixed.exponentChars, Exponent.chars, List.nil_append,
        List.cons_append, List.append_assoc]
      rcases e.isLetter with letter | letter
      · rw [letter, isIntegerOf]
        simp [exponent]
      · rw [letter, isIntegerOf]
        simp [exponent]

/-- Behind the first digit of a number stands no mark of another base. -/
theorem second_char (n : Suffixed) :
    ∃ d more, n.chars = n.whole.first :: d :: more ∧ d ∉ ['x', 'o', 'b'] := by
  obtain ⟨⟨first, rest, isDigit, isRun⟩, fraction, exponent, suffix, fits⟩ := n
  have apart : ∀ c ∈ ['x', 'o', 'b'], c ∉ ['i', 'u', 'f'] := by simp
  cases rest with
  | cons d rest =>
    refine ⟨d, _, rfl, ?_⟩
    rcases isRun.cons.1 with digit | rfl
    · have noDigit : ∀ c ∈ ['x', 'o', 'b'], (!c.isDigit) = true := List.all_eq_true.mp rfl
      intro mark
      have other := noDigit d mark
      rw [digit] at other
      cases other
    · decide
  | nil =>
    cases fraction with
    | some d => exact ⟨'.', _, rfl, by decide⟩
    | none =>
      cases exponent with
      | none =>
        obtain ⟨c, more, spelled, letter⟩ := suffix.exists_chars
        refine ⟨c, more, congrArg (first :: ·) spelled, fun mark => ?_⟩
        exact absurd letter (apart c mark)
      | some e =>
        refine ⟨e.letter, _, rfl, ?_⟩
        rcases e.isLetter with letter | letter <;> rw [letter] <;> decide

theorem isInteger_chars (n : Suffixed) : isInteger n.chars = n.isWhole := by
  rw [← isIntegerOf_chars]
  obtain ⟨d, more, spelled, unmarked⟩ := second_char n
  rw [spelled]
  unfold isInteger
  split
  case h_4 => rfl
  all_goals
    next same =>
      obtain ⟨-, behind⟩ := List.cons.inj same
      obtain ⟨rfl, -⟩ := List.cons.inj behind
      exact absurd unmarked (by decide)

/-- An exponent goes on with a sign or a digit. -/
theorem head_exponent (e : Exponent) (s : Suffix) :
    ((e.sign.toList ++ (e.digits ++ s.chars)).dropWhile (· == '_')).head?.any
      (fun d => d == '-' || d == '+' || d.isDigit) = true := by
  have digits {cs : List Char} (run : IsRun cs) (some_digit : cs.any Char.isDigit = true) :
      ((cs ++ s.chars).dropWhile (· == '_')).head?.any
        (fun d => d == '-' || d == '+' || d.isDigit) = true := by
    induction cs with
    | nil => cases some_digit
    | cons c cs ih =>
      rw [List.cons_append, List.dropWhile_cons]
      rcases run.cons.1 with digit | rfl
      · rw [beq_of_isDigit digit rfl, if_neg Bool.false_ne_true, List.head?_cons, Option.any_some,
          digit, Bool.or_true]
      · exact ih run.cons.2 some_digit
  cases signed : e.sign with
  | none => exact digits e.isRun e.hasDigit
  | some sign =>
    rcases e.isSign sign signed with rfl | rfl
    · rfl
    · rfl

theorem isFloatFrom_exponent (exponent : Option Exponent) (s : Suffix) (hasDot : Bool) :
    isFloatFrom hasDot false false false (Suffixed.exponentChars exponent ++ s.chars) = true := by
  cases exponent with
  | none => exact isFloatFrom_suffix s hasDot false false false
  | some e =>
    have digits (hasSign : Bool) :
        isFloatFrom hasDot true hasSign false (e.digits ++ s.chars) = true := by
      rw [isFloatFrom_run e.isRun, e.hasDigit, isFloatFrom_suffix]
      rfl
    have signed : isFloatFrom hasDot true false false
        (e.sign.toList ++ (e.digits ++ s.chars)) = true := by
      cases present : e.sign with
      | none => exact digits false
      | some sign =>
        rcases e.isSign sign present with rfl | rfl
        · exact digits true
        · exact digits true
    have head := head_exponent e s
    rw [Suffixed.exponentChars, Exponent.chars, List.cons_append, List.append_assoc]
    rcases e.isLetter with letter | letter
    · rw [letter, isFloatFrom, head]
      exact signed
    · rw [letter, isFloatFrom, head]
      exact signed

theorem isFloatFrom_chars (n : Suffixed) :
    isFloatFrom false false false false n.chars = true := by
  rw [Suffixed.chars, isFloatFrom_run n.whole.isRun_chars]
  cases n.fraction with
  | none => exact isFloatFrom_exponent n.exponent n.suffix false
  | some d =>
    exact (isFloatFrom_run d.isRun_chars true false false false).trans
      (isFloatFrom_exponent n.exponent n.suffix true)

theorem kind_of_isDigit {c : Char} (digit : c.isDigit = true) (rest : List Char) :
    kind (c :: rest) = numberKind (c :: rest) := by
  unfold kind
  split
  case h_7 => rfl
  all_goals
    next same =>
      obtain ⟨rfl, -⟩ := List.cons.inj same
      exact absurd digit (by decide)

/-- A number stands for itself. -/
theorem value_text (n : Suffixed) : value n.text = n.text := by
  have spelled : n.text.toList = n.whole.first :: _ := String.toList_ofList
  have digit := n.whole.isDigit
  unfold value
  split
  case h_4 => rfl
  all_goals
    next same =>
      rw [← (List.cons.inj (same.symm.trans spelled)).1] at digit
      exact absurd digit (by decide)

/-- Every number has a kind, which its suffix does not decide. -/
theorem kind_chars (n : Suffixed) : kind n.chars = if n.isWhole then .int else .float := by
  have number : kind n.chars = numberKind n.chars := kind_of_isDigit n.whole.isDigit _
  rw [number, numberKind, isInteger_chars, isFloatFrom_chars, if_pos rfl]

end Literal

/-! ## Reading a number -/

namespace Scan

open Literal Text

variable {cs tail after : List Char}

theorem mantissa?_run (run : IsRun cs) (read : Nat) (hasDot : Bool) :
    mantissa? read hasDot (cs ++ tail) = mantissa? (read + cs.length) hasDot tail := by
  induction cs generalizing read with
  | nil => rfl
  | cons c cs ih =>
    obtain ⟨here, later⟩ := run.cons
    have continues : (c.isDigit || c == '_') = true := by simpa using here
    rw [List.cons_append, mantissa?, if_pos continues, ih later, List.length_cons,
      Nat.add_comm cs.length, ← Nat.add_assoc]

theorem exponent?_run (run : IsRun cs) (read : Nat) (hasSign hasDigit : Bool) :
    exponent? read hasSign hasDigit (cs ++ tail) =
      exponent? (read + cs.length) hasSign (hasDigit || cs.any Char.isDigit) tail := by
  induction cs generalizing read hasDigit with
  | nil => rw [List.any_nil, Bool.or_false]; rfl
  | cons c cs ih =>
    obtain ⟨here, later⟩ := run.cons
    rw [List.cons_append, exponent?, List.any_cons, List.length_cons, Nat.add_comm cs.length,
      ← Nat.add_assoc]
    rcases here with digit | rfl
    · rw [beq_of_isDigit digit rfl, beq_of_isDigit digit rfl, digit, Bool.true_or, Bool.or_true]
      exact ih later (read + 1) true
    · exact ih later (read + 1) hasDigit

theorem digits?_run (run : IsRun cs) (read : Nat) :
    digits? 10 read false (cs ++ tail) = digits? 10 (read + cs.length) false tail := by
  induction cs generalizing read with
  | nil => rfl
  | cons c cs ih =>
    obtain ⟨here, later⟩ := run.cons
    rw [List.cons_append, digits?, List.length_cons, Nat.add_comm cs.length, ← Nat.add_assoc]
    rcases here with digit | rfl
    · rw [if_pos digit, if_neg (Nat.not_le.mpr (hexValue_lt digit))]
      exact ih later (read + 1)
    · exact ih later (read + 1)

theorem mantissa?_suffix (s : Suffix) (read : Nat) (hasDot : Bool) :
    mantissa? read hasDot (s.chars ++ after) = some ⟨read, hasDot, false⟩ := by
  cases s <;> rfl

theorem exponent?_suffix (s : Suffix) (read : Nat) (hasSign : Bool) :
    exponent? read hasSign true (s.chars ++ after) = some read := by
  cases s <;> rfl

theorem digits?_suffix (s : Suffix) (read : Nat) :
    digits? 10 read false (s.chars ++ after) = some read := by
  cases s <;> rfl

theorem identifier_suffix (s : Suffix) (ends : after.head?.any isIdentifierContinue = false) :
    identifier (s.chars ++ after) = s.chars.length := by
  have word : ∀ c ∈ s.chars, isIdentifierContinue c = true :=
    List.all_eq_true.mp (by cases s <;> rfl)
  have letters : ∀ c ∈ ['i', 'u', 'f'], isIdentifierStart c = true := List.all_eq_true.mp rfl
  obtain ⟨c, more, spelled, letter⟩ := s.exists_chars
  have stops : after.takeWhile isIdentifierContinue = [] := by
    cases after with
    | nil => rfl
    | cons d rest => exact List.takeWhile_cons_of_neg (Bool.eq_false_iff.mp ends)
  rw [spelled] at word ⊢
  rw [List.cons_append, identifier, if_pos (letters c letter),
    List.takeWhile_append_of_pos (List.forall_mem_cons.mp word).2, stops, List.append_nil,
    List.length_cons, Nat.add_comm]

/-- A number ends with its suffix. -/
theorem numberEnd?_suffix (front : List Char) (s : Suffix)
    (ends : after.head?.any isIdentifierContinue = false) :
    numberEnd? (front ++ (s.chars ++ after)) front.length =
      some (front ++ s.chars).length := by
  have total : withSuffix (front ++ (s.chars ++ after)) front.length =
      (front ++ s.chars).length := by
    rw [withSuffix, List.drop_left, identifier_suffix s ends, List.length_append]
  rw [numberEnd?, total, ← List.append_assoc, List.drop_left, ends]
  rfl

theorem mantissa?_fraction (fraction : Option Digits) (read : Nat) :
    mantissa? read false (Suffixed.fractionChars fraction ++ tail) =
      mantissa? (read + (Suffixed.fractionChars fraction).length) fraction.isSome tail := by
  cases fraction with
  | none => rfl
  | some d =>
    have field : ((d.chars ++ tail).head?.any fun c => c == '.' || isIdentifierStart c) =
        false := by
      rw [Digits.chars, List.cons_append, List.head?_cons, Option.any_some,
        beq_of_isDigit d.isDigit rfl, not_isIdentifierStart d.isDigit]
      rfl
    rw [Suffixed.fractionChars, List.cons_append, mantissa?, field, List.length_cons,
      ← Nat.add_assoc, Nat.add_right_comm]
    exact mantissa?_run d.isRun_chars (read + 1) true

theorem exponent?_chars (e : Exponent) (s : Suffix) :
    exponent? 0 false false (e.sign.toList ++ (e.digits ++ (s.chars ++ after))) =
      some (e.sign.toList ++ e.digits).length := by
  have digits (read : Nat) (hasSign : Bool) :
      exponent? read hasSign false (e.digits ++ (s.chars ++ after)) =
        some (read + e.digits.length) := by
    rw [exponent?_run e.isRun, e.hasDigit]
    exact exponent?_suffix s _ hasSign
  cases signed : e.sign with
  | none => exact (digits 0 false).trans (by rw [Nat.zero_add]; rfl)
  | some sign =>
    rw [List.length_append]
    rcases e.isSign sign signed with rfl | rfl
    · exact digits 1 true
    · exact digits 1 true

/-- The characters of a number in front of others. -/
theorem chars_append (n : Suffixed) :
    n.chars ++ after = n.whole.chars ++ (Suffixed.fractionChars n.fraction ++
      (Suffixed.exponentChars n.exponent ++ (n.suffix.chars ++ after))) := by
  simp only [Suffixed.chars, List.append_assoc]

theorem mantissa?_exponent (e : Exponent) (read : Nat) (hasDot : Bool) :
    mantissa? read hasDot (e.chars ++ tail) = some ⟨read + 1, hasDot, true⟩ := by
  rw [Exponent.chars, List.cons_append]
  rcases e.isLetter with letter | letter
  · rw [letter]
    rfl
  · rw [letter]
    rfl

section Float

variable {c : Char} {rest : List Char} {length : Nat}

theorem float?_of_exponent (digit : c.isDigit = true) {hasDot : Bool} {count : Nat}
    (mantissa : mantissa? 1 false rest = some ⟨length, hasDot, true⟩)
    (exponent : exponent? 0 false false ((c :: rest).drop length) = some count) :
    float? (c :: rest) = numberEnd? (c :: rest) (length + count) := by
  simp [float?, digit, mantissa, exponent]

theorem float?_of_mantissa (digit : c.isDigit = true) {hasDot : Bool}
    (mantissa : mantissa? 1 false rest = some ⟨length, hasDot, false⟩) :
    float? (c :: rest) = if hasDot then numberEnd? (c :: rest) length else none := by
  simp [float?, digit, mantissa]

end Float

theorem float?_chars (n : Suffixed) (ends : after.head?.any isIdentifierContinue = false) :
    float? (n.chars ++ after) = if n.isWhole then none else some n.chars.length := by
  -- what is read before the letter of the exponent or the suffix
  obtain ⟨front, isFront⟩ : ∃ front, front = n.whole.chars ++ Suffixed.fractionChars n.fraction :=
    ⟨_, rfl⟩
  have whole : n.chars = front ++ (Suffixed.exponentChars n.exponent ++ n.suffix.chars) := by
    rw [isFront, List.append_assoc]
    rfl
  have read (tail : List Char) :
      mantissa? 1 false (n.whole.rest ++ (Suffixed.fractionChars n.fraction ++ tail)) =
        mantissa? front.length n.fraction.isSome tail := by
    rw [mantissa?_run n.whole.isRun, mantissa?_fraction, isFront, List.length_append,
      Digits.chars, List.length_cons, Nat.add_comm 1]
  have joined (tail : List Char) :
      n.whole.first :: (n.whole.rest ++ (Suffixed.fractionChars n.fraction ++ tail)) =
        front ++ tail := by
    rw [isFront, List.append_assoc]
    rfl
  rw [chars_append, Digits.chars, List.cons_append, whole, Suffixed.isWhole]
  cases n.exponent with
  | none =>
    have mantissa := (read (n.suffix.chars ++ after)).trans (mantissa?_suffix n.suffix _ _)
    rw [Suffixed.exponentChars, List.nil_append, List.nil_append,
      float?_of_mantissa n.whole.isDigit mantissa, joined, numberEnd?_suffix front n.suffix ends]
    cases n.fraction <;> rfl
  | some e =>
    have mantissa := (read (e.chars ++ (n.suffix.chars ++ after))).trans (mantissa?_exponent e _ _)
    have behind : (front ++ (e.chars ++ (n.suffix.chars ++ after))).drop (front.length + 1) =
        e.sign.toList ++ (e.digits ++ (n.suffix.chars ++ after)) := by
      rw [← List.drop_drop, List.drop_left, Exponent.chars, List.cons_append, List.append_assoc]
      rfl
    have exponent : exponent? 0 false false
        (e.sign.toList ++ (e.digits ++ (n.suffix.chars ++ after))) = _ :=
      exponent?_chars e n.suffix
    rw [← behind, ← joined] at exponent
    have length : front.length + 1 + (e.sign.toList ++ e.digits).length =
        (front ++ e.chars).length := by
      simp only [Exponent.chars, List.length_append, List.length_cons]
      omega
    rw [Suffixed.exponentChars, float?_of_exponent n.whole.isDigit mantissa exponent, joined,
      length, ← List.append_assoc, numberEnd?_suffix _ n.suffix ends, Option.isNone_some,
      Bool.and_false, List.append_assoc]
    rfl

theorem integer?_chars (n : Suffixed) (whole : n.isWhole = true)
    (ends : after.head?.any isIdentifierContinue = false) :
    integer? (n.chars ++ after) = some n.chars.length := by
  obtain ⟨fraction, exponent⟩ : n.fraction = none ∧ n.exponent = none := by
    simpa [Suffixed.isWhole] using whole
  have spelled : n.chars = n.whole.chars ++ n.suffix.chars := by
    rw [Suffixed.chars, fraction, exponent]
    rfl
  have digits : digits? 10 0 true (n.chars ++ after) = some n.whole.chars.length := by
    rw [spelled, List.append_assoc, Digits.chars, List.cons_append, digits?, if_pos n.whole.isDigit,
      if_neg (Nat.not_le.mpr (hexValue_lt n.whole.isDigit)), digits?_run n.whole.isRun,
      digits?_suffix, List.length_cons, Nat.zero_add, Nat.add_comm]
  -- the second character is no mark of another base
  have decimal (s : String) (mark : Char) (spelled : s.toList = ['0', mark])
      (isMark : mark ∈ ['x', 'o', 'b']) : ¬startsWith s (n.chars ++ after) = true := by
    obtain ⟨d, more, second, unmarked⟩ := second_char n
    rw [startsWith, List.isPrefixOf_iff_prefix, spelled, second]
    rintro ⟨rest, same⟩
    obtain ⟨-, behind⟩ := List.cons.inj same
    rw [(List.cons.inj behind).1] at isMark
    exact unmarked isMark
  rw [integer?, if_neg (decimal "0x" 'x' rfl (by decide)),
    if_neg (decimal "0o" 'o' rfl (by decide)), if_neg (decimal "0b" 'b' rfl (by decide)), digits,
    Option.bind_some, spelled, List.append_assoc]
  exact numberEnd?_suffix n.whole.chars n.suffix ends

/-- A number is one token. -/
theorem literal?_chars (n : Suffixed) (ends : after.head?.any isIdentifierContinue = false) :
    literal? (n.chars ++ after) = some n.chars.length := by
  have other (s : String) {d : Char} {more : List Char} (spelled : s.toList = d :: more)
      (noDigit : d.isDigit = false) : ¬startsWith s (n.chars ++ after) = true := by
    rw [startsWith, List.isPrefixOf_iff_prefix, spelled, chars_append]
    rintro ⟨rest, same⟩
    have digit := n.whole.isDigit
    rw [← (List.cons.inj same).1, noDigit] at digit
    cases digit
  have number : literal? (n.chars ++ after) = (float? (n.chars ++ after) <|>
      integer? (n.chars ++ after)) := by
    rw [literal?, textOf?, textOf?, textOf?, characterOf?, characterOf?,
      if_neg (other ("" ++ "\"") rfl rfl), if_neg (other ("" ++ "r") rfl rfl),
      if_neg (other ("b" ++ "\"") rfl rfl), if_neg (other ("b" ++ "r") rfl rfl),
      if_neg (other ("c" ++ "\"") rfl rfl), if_neg (other ("c" ++ "r") rfl rfl),
      if_neg (other ("b" ++ "'") rfl rfl), if_neg (other ("" ++ "'") rfl rfl)]
    rfl
  rw [number, float?_chars n ends]
  split
  · next whole => exact integer?_chars n whole ends
  · rfl

end Scan

end SyntaxExport
