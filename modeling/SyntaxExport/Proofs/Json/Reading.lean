import Mathlib.Data.Bool.AllAny
import SyntaxExport.Proofs.Decimal
import SyntaxExport.Proofs.Json.Grammar
import SyntaxExport.Text.Escape

/-!
# Texts that can be read in one way only

The grammar leaves the end of a number open: the digits `12` can be taken for the number `1` with a
`2` behind it. What follows a value in a document decides it. A `Piece` is a text with the value it
is meant to have and the condition this needs. `Sole item p` says of it that
* the text is read as that value if the condition holds;
* in front of what can follow a value it is read in no other way, and not at all if the condition
  fails.

Results:
1. `quoted_quote_iff`: a quoted text is read exactly if its characters may stand in a text, and then
   as that text.
2. `sole_number`, `sole_text`, `sole_member`: digits, quoted texts and members are read in one way
   only.
3. `sole_array`, `sole_object`: so are sequences of such pieces in brackets.
-/

namespace SyntaxExport.Json

open Decimal

/-! ## What can follow a value -/

/-- Nothing, a blank, a comma or a closing bracket: what can follow a value. -/
def Ends (cs : List Char) : Prop :=
  ∀ c, cs.head? = some c → isBlank c ∨ c = ',' ∨ c = ']' ∨ c = '\x7d'

theorem ends_nil : Ends [] := by
  intro c head
  simp at head

theorem ends_cons {c : Char} {cs : List Char} (stop : c = ',' ∨ c = ']' ∨ c = '\x7d') :
    Ends (c :: cs) := by
  intro d head
  simp only [List.head?_cons, Option.some.injEq] at head
  subst head
  exact .inr stop

theorem Blanks.eq_of_not_blank {c : Char} {cs rest : List Char} (blanks : Blanks (c :: cs) rest)
    (visible : isBlank c = false) : rest = c :: cs := by
  cases blanks with
  | none => rfl
  | some blank _ => rw [visible] at blank; cases blank

theorem Blanks.cons_inj {c d : Char} {cs ds : List Char} (blanks : Blanks (c :: cs) (d :: ds))
    (visible : isBlank c = false) : d = c ∧ ds = cs :=
  List.cons.inj (blanks.eq_of_not_blank visible)

theorem Blanks.ends {cs rest : List Char} (blanks : Blanks cs rest) (follow : Ends rest) :
    Ends cs := by
  cases blanks with
  | none => exact follow
  | some blank _ =>
    intro d head
    simp only [List.head?_cons, Option.some.injEq] at head
    subst head
    exact .inl blank

theorem not_digit_of_ends {cs : List Char} (follow : Ends cs) {c : Char}
    (head : cs.head? = some c) : c.isDigit = false ∧ c ≠ '.' ∧ c ≠ 'e' ∧ c ≠ 'E' := by
  have cases := follow c head
  simp only [isBlank, Bool.or_eq_true, beq_iff_eq] at cases
  rcases cases with (((rfl | rfl) | rfl) | rfl) | rfl | rfl | rfl <;> decide

/-- A part of a document: its text, what it is meant to be read as, and the condition this needs. -/
structure Piece (α : Type) where
  text : List Char
  ok : Prop
  value : α

/-- The piece is read as its value if its condition holds, and in front of what can follow a value
it is read in no other way. It begins like a value, with neither a blank nor a closing bracket. -/
structure Sole {α : Type} (item : α → List Char → List Char → Prop) (p : Piece α) : Prop where
  start : ∃ c cs, p.text = c :: cs ∧ isBlank c = false ∧ c ≠ ']' ∧ c ≠ '\x7d'
  reads : p.ok → ∀ rest, item p.value (p.text ++ rest) rest
  only : ∀ {a : α} {r rest : List Char}, Ends r → Ends rest → item a (p.text ++ r) rest →
    p.ok ∧ a = p.value ∧ rest = r

/-! ## Quoted texts -/

/-- The characters of a text can be read back from its quoted form: they may stand for themselves,
or quoting escapes them. -/
def Readable (plain : Char → Prop) (s : String) : Prop :=
  ∀ c ∈ s.toList, plain c ∨ c ∈ ['\\', '"', '\n', '\r']

instance (plain : Char → Prop) [DecidablePred plain] : DecidablePred (Readable plain) :=
  fun _ => decidable_of_iff _ List.all_iff_forall_prop

section Quotes

variable {plain : Char → Prop}

theorem toList_quote (s : String) :
    (Text.quote s).toList = '"' :: (s.toList.flatMap Text.quotedChar ++ ['"']) := by
  simp [Text.quote]

theorem units_escape_iff (slash : ¬ plain '\\') {e c : Char} (meaning : escaped? e = some c)
    {us : List Nat} {cs rest : List Char} :
    Units plain us ('\\' :: e :: cs) rest ↔
      ∃ tail, us = c.toNat :: tail ∧ Units plain tail cs rest := by
  constructor
  · intro units
    cases units with
    | plain standing _ => exact absurd standing slash
    | escape other tail =>
      rw [meaning, Option.some.injEq] at other
      exact ⟨_, by rw [other], tail⟩
    | code => simp [escaped?] at meaning
  · rintro ⟨tail, rfl, units⟩
    exact .escape meaning units

theorem units_plain_iff {c : Char} (quote : c ≠ '"') (slash : c ≠ '\\') {us : List Nat}
    {cs rest : List Char} :
    Units plain us (c :: cs) rest ↔
      plain c ∧ ∃ tail, us = c.toNat :: tail ∧ Units plain tail cs rest := by
  constructor
  · intro units
    cases units with
    | close => exact absurd rfl quote
    | plain standing tail => exact ⟨standing, _, rfl, tail⟩
    | escape => exact absurd rfl slash
    | code => exact absurd rfl slash
  · rintro ⟨standing, tail, rfl, units⟩
    exact .plain standing units

theorem units_quotedChar_iff (slash : ¬ plain '\\') {c : Char} {us : List Nat}
    {cs rest : List Char} :
    Units plain us (Text.quotedChar c ++ cs) rest ↔
      (plain c ∨ c ∈ ['\\', '"', '\n', '\r']) ∧
        ∃ tail, us = c.toNat :: tail ∧ Units plain tail cs rest := by
  unfold Text.quotedChar
  split
  · simp [units_escape_iff slash (e := '\\') rfl]
  · simp [units_escape_iff slash (e := '"') rfl]
  · simp [units_escape_iff slash (e := 'n') rfl]
  · simp [units_escape_iff slash (e := 'r') rfl]
  · next notSlash notQuote notFeed notReturn =>
    have notEscaped : c ∉ ['\\', '"', '\n', '\r'] := by
      simp only [List.mem_cons, List.not_mem_nil, or_false, not_or]
      exact ⟨notSlash, notQuote, notFeed, notReturn⟩
    rw [List.singleton_append, units_plain_iff notQuote notSlash, or_iff_left notEscaped]

theorem units_quoted_iff (quote : ¬ plain '"') (slash : ¬ plain '\\') {text : List Char}
    {us : List Nat} {r rest : List Char} :
    Units plain us (text.flatMap Text.quotedChar ++ '"' :: r) rest ↔
      (∀ c ∈ text, plain c ∨ c ∈ ['\\', '"', '\n', '\r']) ∧ us = text.map Char.toNat ∧
        rest = r := by
  induction text generalizing us with
  | nil =>
    simp only [List.flatMap_nil, List.nil_append, List.map_nil]
    constructor
    · intro units
      cases units with
      | close => simp
      | plain standing _ => exact absurd standing quote
    · rintro ⟨-, rfl, rfl⟩
      exact .close
  | cons c text ih =>
    rw [List.flatMap_cons, List.append_assoc, units_quotedChar_iff slash]
    simp only [ih, List.forall_mem_cons, List.map_cons]
    constructor
    · rintro ⟨first, tail, rfl, others, rfl, rfl⟩
      exact ⟨⟨first, others⟩, rfl, rfl⟩
    · rintro ⟨⟨first, others⟩, rfl, rfl⟩
      exact ⟨first, _, rfl, others, rfl, rfl⟩

theorem unitChar_toNat (c : Char) : unitChar c.toNat = c := by
  have valid : c.toNat.isValidChar := c.valid
  rw [unitChar, if_pos valid, Char.ofNat_toNat]

/-- No character is a half of another, so characters are their own code units. -/
theorem decodeUnits_map_toNat (cs : List Char) : decodeUnits (cs.map Char.toNat) = cs := by
  induction cs with
  | nil => rfl
  | cons c cs ih =>
    cases cs with
    | nil => simp [decodeUnits, unitChar_toNat]
    | cons d cs =>
      have valid : c.toNat < 0xD800 ∨ 0xDFFF < c.toNat ∧ c.toNat < 0x110000 := c.valid
      rw [List.map_cons, List.map_cons, decodeUnits, if_neg (by omega), unitChar_toNat,
        ← List.map_cons, ih]

/-- A quoted text is read if all its characters can be, and only as that text. -/
theorem quoted_quote_iff (quote : ¬ plain '"') (slash : ¬ plain '\\') {s t : String}
    {r rest : List Char} :
    Quoted plain t ((Text.quote s).toList ++ r) rest ↔ Readable plain s ∧ t = s ∧ rest = r := by
  rw [toList_quote, List.cons_append, List.append_assoc, List.singleton_append]
  constructor
  · intro quoted
    cases quoted with
    | mk units =>
      obtain ⟨readable, rfl, rfl⟩ := (units_quoted_iff quote slash).mp units
      rw [decodeUnits_map_toNat, String.ofList_toList]
      exact ⟨readable, rfl, rfl⟩
  · rintro ⟨readable, rfl, rfl⟩
    have units : Units plain (t.toList.map Char.toNat)
        (t.toList.flatMap Text.quotedChar ++ '"' :: rest) rest :=
      (units_quoted_iff quote slash).mpr ⟨readable, rfl, rfl⟩
    have quoted := Quoted.mk units
    rwa [decodeUnits_map_toNat, String.ofList_toList] at quoted

end Quotes

/-! ## Numbers -/

theorem digits_of_forall {ds : List Char} (digits : ∀ d ∈ ds, d.isDigit) (rest : List Char) :
    Digits ds (ds ++ rest) rest := by
  induction ds with
  | nil => exact .none
  | cons d ds ih =>
    rw [List.forall_mem_cons] at digits
    exact .some digits.1 (ih digits.2)

/-- Digits that stop where no digit follows have taken all digits that are there. -/
theorem digits_eq_of_stop {taken ds r rest : List Char} (read : Digits taken (ds ++ r) rest)
    (digits : ∀ d ∈ ds, d.isDigit) (follow : Ends r)
    (stop : ∀ c, rest.head? = some c → c.isDigit = false) : taken = ds ∧ rest = r := by
  induction ds generalizing taken with
  | nil =>
    rw [List.nil_append] at read
    cases read with
    | none => exact ⟨rfl, rfl⟩
    | some digit _ =>
      have noDigit := (not_digit_of_ends follow rfl).1
      rw [digit] at noDigit
      cases noDigit
  | cons d ds ih =>
    rw [List.forall_mem_cons] at digits
    rw [List.cons_append] at read
    cases read with
    | none =>
      have noDigit := stop d rfl
      rw [digits.1] at noDigit
      cases noDigit
    | some _ tail =>
      obtain ⟨rfl, rfl⟩ := ih tail digits.2
      exact ⟨rfl, rfl⟩

/-- Where neither a point nor a power of ten follows, a number ends with its whole part. -/
theorem fraction_exponent_eq {cs cs₁ rest fs : List Char} {e : Int}
    (plain : ∀ c, cs.head? = some c → c ≠ '.' ∧ c ≠ 'e' ∧ c ≠ 'E') (fraction : Fraction fs cs cs₁)
    (exponent : Exponent e cs₁ rest) : fs = [] ∧ e = 0 ∧ rest = cs := by
  cases fraction with
  | some => exact absurd rfl (plain _ rfl).1
  | none =>
    cases exponent with
    | none => exact ⟨rfl, rfl, rfl⟩
    | unsigned letter | plus letter | minus letter =>
      rcases letter with rfl | rfl
      · exact absurd rfl (plain _ rfl).2.1
      · exact absurd rfl (plain _ rfl).2.2

theorem whole_toDigits (n : Nat) (rest : List Char) :
    Whole (Nat.toDigits 10 n) (Nat.toDigits 10 n ++ rest) rest := by
  rcases Nat.eq_zero_or_pos n with rfl | positive
  · rw [Nat.toDigits_zero]
    exact .zero
  · have digits := isDigit_of_mem_toDigits n
    obtain ⟨d, ds, spelled, nonzero⟩ := toDigits_eq_cons positive
    rw [spelled, List.forall_mem_cons] at digits
    rw [spelled]
    exact .digits digits.1 nonzero (digits_of_forall digits.2 rest)

theorem whole_eq_of_stop {n : Nat} {taken r rest : List Char}
    (read : Whole taken (Nat.toDigits 10 n ++ r) rest) (follow : Ends r)
    (stop : ∀ c, rest.head? = some c → c.isDigit = false) :
    taken = Nat.toDigits 10 n ∧ rest = r := by
  rcases Nat.eq_zero_or_pos n with rfl | positive
  · rw [Nat.toDigits_zero, List.singleton_append] at read
    rw [Nat.toDigits_zero]
    cases read with
    | zero => exact ⟨rfl, rfl⟩
    | digits _ nonzero _ => exact absurd rfl nonzero
  · have digits := isDigit_of_mem_toDigits n
    obtain ⟨d, ds, spelled, nonzero⟩ := toDigits_eq_cons positive
    rw [spelled, List.forall_mem_cons] at digits
    rw [spelled, List.cons_append] at read
    rw [spelled]
    cases read with
    | zero => exact absurd rfl nonzero
    | digits _ _ tail =>
      obtain ⟨rfl, rfl⟩ := digits_eq_of_stop tail digits.2 follow stop
      exact ⟨rfl, rfl⟩

theorem unsigned_toDigits (n : Nat) (rest : List Char) :
    Unsigned n (Nat.toDigits 10 n ++ rest) rest := by
  have read := Unsigned.mk (whole_toDigits n rest) .none .none
  simpa using read

/-- A number ends where nothing can continue it: a digit left over would have to follow a value. -/
theorem eq_of_unsigned_toDigits {n : Nat} {q : ℚ} {r rest : List Char} (follow : Ends r)
    (next : Ends rest) (read : Unsigned q (Nat.toDigits 10 n ++ r) rest) : q = n ∧ rest = r := by
  cases read with
  | @mk ds fs e _ cs₁ cs₂ _ whole fraction exponent =>
    have stop : ∀ c, cs₁.head? = some c → c.isDigit = false := by
      intro c head
      by_contra digit
      have plain : ∀ d, cs₁.head? = some d → d ≠ '.' ∧ d ≠ 'e' ∧ d ≠ 'E' := by
        intro d other
        rw [head, Option.some.injEq] at other
        subst other
        refine ⟨?_, ?_, ?_⟩ <;> rintro rfl <;> exact digit rfl
      obtain ⟨-, -, rfl⟩ := fraction_exponent_eq plain fraction exponent
      exact digit (not_digit_of_ends next head).1
    obtain ⟨rfl, rfl⟩ := whole_eq_of_stop whole follow stop
    obtain ⟨rfl, rfl, rfl⟩ := fraction_exponent_eq
      (fun c head => (not_digit_of_ends follow head).2) fraction exponent
    simp

/-! ## Values by their first character -/

theorem Unsigned.isDigit_head {q : ℚ} {c : Char} {cs rest : List Char}
    (read : Unsigned q (c :: cs) rest) : c.isDigit := by
  cases read with
  | mk whole _ _ =>
    cases whole with
    | zero => rfl
    | digits digit _ _ => exact digit

section Values

variable {plain : Char → Prop}

theorem reads_digit {v : Value} {d : Char} {cs rest : List Char} (digit : d.isDigit)
    (read : Reads plain v (d :: cs) rest) : ∃ q, v = .number q ∧ Unsigned q (d :: cs) rest := by
  cases read with
  | number number =>
    cases number with
    | plus unsigned => exact ⟨_, rfl, unsigned⟩
    | minus => cases digit
  | text quoted =>
    cases quoted
    cases digit
  | null | true | false | array | object => cases digit

theorem reads_quote {v : Value} {cs rest : List Char} (read : Reads plain v ('"' :: cs) rest) :
    ∃ s, v = .text s ∧ Quoted plain s ('"' :: cs) rest := by
  cases read with
  | number number =>
    cases number with
    | plus unsigned => cases unsigned.isDigit_head
  | text quoted => exact ⟨_, rfl, quoted⟩

theorem reads_bracket {v : Value} {cs rest : List Char} (read : Reads plain v ('[' :: cs) rest) :
    ∃ items, v = .array items ∧ Body (Reads plain) ']' items cs rest := by
  cases read with
  | number number =>
    cases number with
    | plus unsigned => cases unsigned.isDigit_head
  | text quoted => cases quoted
  | array body => exact ⟨_, rfl, body⟩

theorem reads_brace {v : Value} {cs rest : List Char} (read : Reads plain v ('\x7b' :: cs) rest) :
    ∃ members, v = .object members ∧
      Body (Member plain (Reads plain)) '\x7d' members cs rest := by
  cases read with
  | number number =>
    cases number with
    | plus unsigned => cases unsigned.isDigit_head
  | text quoted => cases quoted
  | object body => exact ⟨_, rfl, body⟩

/-- The decimal digits of a number. -/
def Piece.number (n : Nat) : Piece Value :=
  ⟨Nat.toDigits 10 n, True, .number n⟩

theorem sole_number (n : Nat) : Sole (Reads plain) (.number n) := by
  have digits := isDigit_of_mem_toDigits n
  obtain ⟨d, ds, spelled⟩ := List.exists_cons_of_ne_nil (Nat.toDigits_ne_nil (n := n) (b := 10))
  rw [spelled, List.forall_mem_cons] at digits
  constructor
  · refine ⟨d, ds, spelled, ?_, ?_, ?_⟩
    · by_contra blank
      simp only [isBlank, Bool.not_eq_false, Bool.or_eq_true, beq_iff_eq] at blank
      rcases blank with ((rfl | rfl) | rfl) | rfl <;> cases digits.1
    · rintro rfl
      cases digits.1
    · rintro rfl
      cases digits.1
  · intro _ rest
    exact .number (.plus (unsigned_toDigits n rest))
  · intro v r rest follow next read
    rw [Piece.number, spelled, List.cons_append] at read
    obtain ⟨q, rfl, unsigned⟩ := reads_digit digits.1 read
    rw [← List.cons_append, ← spelled] at unsigned
    obtain ⟨rfl, rfl⟩ := eq_of_unsigned_toDigits follow next unsigned
    exact ⟨trivial, rfl, rfl⟩

/-- A text in quotes. -/
def Piece.quoted (plain : Char → Prop) (s : String) : Piece Value :=
  ⟨(Text.quote s).toList, Readable plain s, .text s⟩

theorem sole_text (quote : ¬ plain '"') (slash : ¬ plain '\\') (s : String) :
    Sole (Reads plain) (.quoted plain s) := by
  -- the fields of the piece are put in first: unification would otherwise evaluate the quoting
  unfold Piece.quoted
  constructor <;> dsimp only
  · exact ⟨'"', _, toList_quote s, rfl, by decide, by decide⟩
  · intro readable rest
    exact .text ((quoted_quote_iff quote slash).mpr ⟨readable, rfl, rfl⟩)
  · intro v r rest _ _ read
    rw [toList_quote, List.cons_append] at read
    obtain ⟨t, rfl, quoted⟩ := reads_quote read
    rw [← List.cons_append, ← toList_quote] at quoted
    obtain ⟨readable, rfl, rfl⟩ := (quoted_quote_iff quote slash).mp quoted
    exact ⟨readable, rfl, rfl⟩

/-- A name, a colon and a value. -/
def Piece.member (plain : Char → Prop) (name : String) (p : Piece Value) : Piece (String × Value) :=
  ⟨(Text.quote name).toList ++ ':' :: p.text, Readable plain name ∧ p.ok, (name, p.value)⟩

@[simp] theorem Piece.ok_member (plain : Char → Prop) (name : String) (p : Piece Value) :
    (Piece.member plain name p).ok ↔ Readable plain name ∧ p.ok := Iff.rfl

theorem sole_member (quote : ¬ plain '"') (slash : ¬ plain '\\') (name : String) {p : Piece Value}
    (sole : Sole (Reads plain) p) : Sole (Member plain (Reads plain)) (.member plain name p) := by
  obtain ⟨c, cs, begins, visible, -, -⟩ := sole.start
  constructor
  · rw [Piece.member, toList_quote]
    exact ⟨'"', _, rfl, rfl, by decide, by decide⟩
  · rintro ⟨readable, holds⟩ rest
    rw [Piece.member, List.append_assoc]
    exact .mk ((quoted_quote_iff quote slash).mpr ⟨readable, rfl, rfl⟩) .none .none
      (sole.reads holds rest)
  · intro b r rest follow next read
    rw [Piece.member, List.append_assoc, List.cons_append] at read
    cases read with
    | mk quoted before after value =>
      obtain ⟨readable, rfl, rfl⟩ := (quoted_quote_iff quote slash).mp quoted
      have colon := before.cons_inj rfl
      rw [colon.2, begins, List.cons_append] at after
      rw [after.eq_of_not_blank visible, ← List.cons_append, ← begins] at value
      obtain ⟨holds, rfl, rfl⟩ := sole.only follow next value
      exact ⟨⟨readable, holds⟩, rfl, rfl⟩

end Values

/-! ## Sequences -/

namespace Piece

variable {α : Type}

/-- The texts of pieces with commas between them. -/
def joined (pieces : List (Piece α)) : List Char :=
  [','].intercalate (pieces.map text)

@[simp] theorem joined_nil : joined ([] : List (Piece α)) = [] := rfl

@[simp] theorem joined_singleton (p : Piece α) : joined [p] = p.text := by
  simp [joined]

@[simp] theorem joined_cons_cons (p q : Piece α) (pieces : List (Piece α)) :
    joined (p :: q :: pieces) = p.text ++ ',' :: joined (q :: pieces) := by
  simp [joined, List.intercalate_cons_cons]

theorem joined_start (p : Piece α) (pieces : List (Piece α)) {c : Char} {cs : List Char}
    (begins : p.text = c :: cs) : ∃ tail, joined (p :: pieces) = c :: tail := by
  cases pieces with
  | nil => exact ⟨cs, by rw [joined_singleton, begins]⟩
  | cons q pieces =>
    rw [joined_cons_cons, begins]
    exact ⟨_, rfl⟩

/-- Items in square brackets. -/
def array (pieces : List (Piece Value)) : Piece Value :=
  ⟨'[' :: joined pieces ++ [']'], ∀ p ∈ pieces, p.ok, .array (pieces.map value)⟩

/-- Members in braces. -/
def object (pieces : List (Piece (String × Value))) : Piece Value :=
  ⟨'\x7b' :: joined pieces ++ ['\x7d'], ∀ p ∈ pieces, p.ok, .object (pieces.map value)⟩

@[simp] theorem ok_array (pieces : List (Piece Value)) :
    (array pieces).ok ↔ ∀ p ∈ pieces, p.ok := Iff.rfl

@[simp] theorem ok_object (pieces : List (Piece (String × Value))) :
    (object pieces).ok ↔ ∀ p ∈ pieces, p.ok := Iff.rfl

end Piece

section Sequences

open Piece

variable {α : Type} {item : α → List Char → List Char → Prop} {close : Char}

theorem items_joined {p : Piece α} {pieces : List (Piece α)}
    (soles : ∀ q ∈ p :: pieces, Sole item q) (holds : ∀ q ∈ p :: pieces, q.ok)
    (rest : List Char) :
    Items item close ((p :: pieces).map value) (joined (p :: pieces) ++ close :: rest) rest := by
  induction pieces generalizing p with
  | nil =>
    rw [joined_singleton]
    exact .last ((soles p List.mem_cons_self).reads (holds p List.mem_cons_self) _) .none
  | cons q pieces ih =>
    rw [List.forall_mem_cons] at soles holds
    rw [joined_cons_cons, List.append_assoc, List.cons_append, List.map_cons]
    exact .more (soles.1.reads holds.1 _) .none .none (ih soles.2 holds.2)

/-- Items that are each read in one way only are so together: after each of them the next character
tells whether another one follows. -/
theorem eq_of_items_joined (bracket : close = ']' ∨ close = '\x7d') {p : Piece α}
    {pieces : List (Piece α)} (soles : ∀ q ∈ p :: pieces, Sole item q)
    {as : List α} {r rest : List Char}
    (read : Items item close as (joined (p :: pieces) ++ close :: r) rest) :
    (∀ q ∈ p :: pieces, q.ok) ∧ as = (p :: pieces).map value ∧ rest = r := by
  have visible : isBlank close = false := by rcases bracket with rfl | rfl <;> rfl
  have notComma : close ≠ ',' := by rcases bracket with rfl | rfl <;> decide
  have ends (cs : List Char) : Ends (close :: cs) := ends_cons (.inr bracket)
  have comma (cs : List Char) : Ends (',' :: cs) := ends_cons (.inl rfl)
  induction pieces generalizing p as with
  | nil =>
    have sole := soles p List.mem_cons_self
    rw [joined_singleton] at read
    cases read with
    | last first stop =>
      obtain ⟨holds, rfl, rfl⟩ := sole.only (ends r) (stop.ends (ends rest)) first
      have closed := stop.cons_inj visible
      exact ⟨by simpa using holds, rfl, closed.2⟩
    | more first stop =>
      -- a comma was read where the bracket stands
      obtain ⟨-, -, rfl⟩ := sole.only (ends r) (stop.ends (comma _)) first
      have closed := stop.cons_inj visible
      exact absurd closed.1.symm notComma
  | cons q pieces ih =>
    rw [List.forall_mem_cons] at soles
    rw [joined_cons_cons, List.append_assoc, List.cons_append] at read
    cases read with
    | last first stop =>
      obtain ⟨-, -, rfl⟩ := soles.1.only (comma _) (stop.ends (ends rest)) first
      have closed := stop.cons_inj rfl
      exact absurd closed.1 notComma
    | more first stop skip others =>
      obtain ⟨holds, rfl, rfl⟩ := soles.1.only (comma _) (stop.ends (comma _)) first
      have continued := stop.cons_inj rfl
      obtain ⟨c, cs, begins, notBlank, -, -⟩ := (soles.2 q List.mem_cons_self).start
      obtain ⟨tail, starts⟩ := joined_start q pieces begins
      rw [continued.2, starts, List.cons_append] at skip
      rw [skip.eq_of_not_blank notBlank, ← List.cons_append, ← starts] at others
      obtain ⟨hold, rfl, rfl⟩ := ih soles.2 others
      exact ⟨by rw [List.forall_mem_cons]; exact ⟨holds, hold⟩, rfl, rfl⟩

theorem body_joined {pieces : List (Piece α)}
    (soles : ∀ q ∈ pieces, Sole item q) (holds : ∀ q ∈ pieces, q.ok)
    (rest : List Char) :
    Body item close (pieces.map value) (joined pieces ++ close :: rest) rest := by
  cases pieces with
  | nil => exact .none .none
  | cons p pieces => exact .some .none (items_joined soles holds rest)

theorem eq_of_body_joined (bracket : close = ']' ∨ close = '\x7d')
    (opening : ∀ {a cs rest}, ¬ item a (close :: cs) rest) {pieces : List (Piece α)}
    (soles : ∀ q ∈ pieces, Sole item q) {as : List α} {r rest : List Char}
    (read : Body item close as (joined pieces ++ close :: r) rest) :
    (∀ q ∈ pieces, q.ok) ∧ as = pieces.map value ∧ rest = r := by
  have visible : isBlank close = false := by rcases bracket with rfl | rfl <;> rfl
  cases pieces with
  | nil =>
    rw [joined_nil, List.nil_append] at read
    cases read with
    | none stop =>
      have closed := stop.cons_inj visible
      exact ⟨by simp, rfl, closed.2⟩
    | some skip items =>
      rw [skip.eq_of_not_blank visible] at items
      cases items with
      | last first _ | more first _ _ _ => exact absurd first opening
  | cons p pieces =>
    obtain ⟨c, cs, begins, notBlank, notBracket, notBrace⟩ := (soles p List.mem_cons_self).start
    obtain ⟨tail, starts⟩ := joined_start p pieces begins
    cases read with
    | none stop =>
      rw [starts, List.cons_append] at stop
      have closed := stop.cons_inj notBlank
      rcases bracket with rfl | rfl
      · exact absurd closed.1.symm notBracket
      · exact absurd closed.1.symm notBrace
    | some skip items =>
      rw [starts, List.cons_append] at skip
      rw [skip.eq_of_not_blank notBlank, ← List.cons_append, ← starts] at items
      exact eq_of_items_joined bracket soles items

end Sequences

section Brackets

open Piece

variable {plain : Char → Prop}

theorem not_reads_bracket {v : Value} {cs rest : List Char} :
    ¬ Reads plain v (']' :: cs) rest := by
  intro read
  cases read with
  | number number =>
    cases number with
    | plus unsigned => cases unsigned.isDigit_head
  | text quoted => cases quoted

theorem not_member_brace {m : String × Value} {cs rest : List Char} :
    ¬ Member plain (Reads plain) m ('\x7d' :: cs) rest := by
  intro read
  cases read with
  | mk quoted => cases quoted

theorem sole_array {pieces : List (Piece Value)} (soles : ∀ q ∈ pieces, Sole (Reads plain) q) :
    Sole (Reads plain) (.array pieces) := by
  constructor
  · exact ⟨'[', _, rfl, rfl, by decide, by decide⟩
  · intro holds rest
    rw [Piece.array, List.append_assoc]
    exact .array (body_joined soles holds rest)
  · intro v r rest _ _ read
    rw [Piece.array, List.append_assoc] at read
    obtain ⟨items, rfl, body⟩ := reads_bracket read
    obtain ⟨holds, rfl, rfl⟩ := eq_of_body_joined (.inl rfl) not_reads_bracket soles body
    exact ⟨holds, rfl, rfl⟩

theorem sole_object {pieces : List (Piece (String × Value))}
    (soles : ∀ q ∈ pieces, Sole (Member plain (Reads plain)) q) :
    Sole (Reads plain) (.object pieces) := by
  constructor
  · exact ⟨'\x7b', _, rfl, rfl, by decide, by decide⟩
  · intro holds rest
    rw [Piece.object, List.append_assoc]
    exact .object (body_joined soles holds rest)
  · intro v r rest _ _ read
    rw [Piece.object, List.append_assoc] at read
    obtain ⟨members, rfl, body⟩ := reads_brace read
    obtain ⟨holds, rfl, rfl⟩ := eq_of_body_joined (.inr rfl) not_member_brace soles body
    exact ⟨holds, rfl, rfl⟩

end Brackets

end SyntaxExport.Json
