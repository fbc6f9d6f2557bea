import SyntaxExport.Ast

/-!
# Parsers of token trees

A parser takes token trees from the front of a list and prints them as it goes: the printed tokens
are those of the syntax read, with the parts of an operator joint and nothing else. The extent of a
piece of syntax is what was printed while it was read. A few parsers print other tokens than they
read.

A parser fails at a position: that of the token that cannot continue, or, where the tokens of a
group have come to an end, that of its closing delimiter. Tokens that are left over at the end of a
group are an error too, but one that is only reported if there is no other.
-/

namespace SyntaxExport.Grammar

/-- The tokens that are left of a group, where an error at their end is reported, what has been
printed of the group, the last piece first, how many pieces that are, and the first token that was
left over in a group. -/
structure State (src : List Char) where
  rest : List (Tree src)
  stop : Position
  printed : List Piece
  count : Nat
  leftover : Option Position

/-- Parsers; their error is a position. -/
abbrev Parser (src : List Char) :=
  StateT (State src) (Except Position)

variable {src : List Char}

/-! ## Looking ahead -/

/-- What may be asked of the tokens that come next. -/
abbrev Ahead (src : List Char) :=
  List (Tree src) → Bool

namespace Ahead

/-- The condition holds behind the next token. -/
def second (condition : Ahead src) : Ahead src := fun trees =>
  !trees.isEmpty && condition (trees.drop 1)

/-- The condition holds behind the next two tokens. -/
def third (condition : Ahead src) : Ahead src := fun trees =>
  2 ≤ trees.length && condition (trees.drop 2)

/-- No token is left. -/
def atEnd : Ahead src :=
  List.isEmpty

/-- The given punctuation characters come next, joint with each other. -/
def punctChars : List Char → Ahead src
  | [], _ => true
  | [c], .punct d _ _ :: _ => c == d
  | c :: cs, .punct d joint _ :: rest => c == d && joint && punctChars cs rest
  | _, _ => false

/-- An operator comes next. -/
def op (s : String) : Ahead src :=
  punctChars s.toList

/-- An attribute or documentation comment comes next. -/
def pound : Ahead src
  | .doc _ _ _ :: _ => true
  | .punct '#' _ _ :: _ => true
  | _ => false

/-- An attribute or documentation comment of what stands around it comes next. -/
def innerPound : Ahead src
  | .doc inner _ _ :: _ => inner
  | .punct '#' _ _ :: .punct '!' _ _ :: _ => true
  | _ => false

/-- The word `s` comes next. -/
def word (s : String) : Ahead src
  | .word w :: _ => w.text == s
  | _ => false

/-- Any word comes next. -/
def anyWord : Ahead src
  | .word _ :: _ => true
  | _ => false

/-- Words that are not identifiers. -/
def reserved : List String :=
  ["_", "abstract", "as", "async", "await", "become", "box", "break", "const", "continue", "crate",
    "do", "dyn", "else", "enum", "extern", "false", "final", "fn", "for", "if", "impl", "in", "let",
    "loop", "macro", "match", "mod", "move", "mut", "override", "priv", "pub", "ref", "return",
    "Self", "self", "static", "struct", "super", "trait", "true", "try", "type", "typeof", "unsafe",
    "unsized", "use", "virtual", "where", "while", "yield"]

/-- An identifier comes next. -/
def ident : Ahead src
  | .word w :: _ => !reserved.contains w.text
  | _ => false

/-- A lifetime comes next. -/
def lifetime : Ahead src
  | .lifetime _ _ :: _ => true
  | _ => false

/-- A group between the given delimiters comes next. -/
def group (d : Delimiter) : Ahead src
  | .group e _ _ _ :: _ => e = d
  | _ => false

/-- Any group comes next. -/
def anyGroup : Ahead src
  | .group _ _ _ _ :: _ => true
  | _ => false

/-- The text of a number, which may stand behind a minus sign. -/
def isNumber (text : String) : Bool :=
  match Literal.kind text.toList with
  | .int | .float => true
  | _ => false

/-- A literal comes next, perhaps a number behind a minus sign. -/
def literal : Ahead src
  | .literal _ _ :: _ => true
  | .word w :: _ => w.text == "true" || w.text == "false"
  | .punct '-' _ _ :: .literal text _ :: _ => isNumber text
  | _ => false

/-- A text literal comes next. -/
def textLiteral : Ahead src
  | .literal text _ :: _ => Literal.kind text.toList == .str
  | _ => false

/-- A word that may start a path comes next. -/
def pathWord : Ahead src := fun trees =>
  ident trees || word "super" trees || word "self" trees || word "Self" trees || word "crate" trees

end Ahead

/-- The condition holds for the tokens that come next. -/
def peek (condition : Ahead src) : Parser src Bool := do
  return condition (← get).rest

/-! ## Failing -/

/-- Fails at a position. -/
def failAt {α : Type} (p : Position) : Parser src α :=
  throw p

/-- The position of the next token, or of the end of the group. -/
def here : Parser src Position := do
  let s ← get
  return match s.rest with
    | tree :: _ => tree.span.start
    | [] => s.stop

/-- Fails at the next token. -/
def unexpected {α : Type} : Parser src α := do
  failAt (← here)

/-! ## Reading and printing -/

/-- Takes the next `n` tokens and prints `pieces`. -/
def take (n : Nat) (pieces : List Piece) : Parser src Unit :=
  modify fun s =>
    { s with
      rest := s.rest.drop n
      printed := pieces.reverse ++ s.printed
      count := s.count + pieces.length }

/-- Prints pieces that stand for no token. -/
def printPieces (pieces : List Piece) : Parser src Unit :=
  take 0 pieces

/-- Runs a parser and gives what it printed, too. -/
def withExtent {α : Type} (p : Parser src α) : Parser src (α × Extent) := do
  let before ← get
  let a ← p
  let after ← get
  return (a, (after.printed.take (after.count - before.count)).reverse)

/-- A piece of syntax made from its extent. -/
def node {α : Type} (p : Parser src (Extent → α)) : Parser src α := do
  let (make, extent) ← withExtent p
  return make extent

/-- What a parser printed. -/
def extentOf {α : Type} (p : Parser src α) : Parser src Extent := do
  return (← withExtent p).2

/-- Runs a parser and prints `f` of what it printed instead. -/
def reprint {α : Type} (f : α → Extent → Extent) (p : Parser src α) : Parser src α := do
  let before ← get
  let (a, extent) ← withExtent p
  let pieces := f a extent
  modify fun s =>
    { s with printed := pieces.reverse ++ before.printed, count := before.count + pieces.length }
  return a

/-- Runs a parser and prints nothing. -/
def silently {α : Type} (p : Parser src α) : Parser src α :=
  reprint (fun _ _ => []) p

/-- Runs a parser and, if the result asks for it, prints the tokens it took as the source has
them. -/
def rawIf {α : Type} (isRaw : α → Bool) (p : Parser src α) : Parser src α := do
  let before ← get
  let a ← p
  if isRaw a then
    modify fun s =>
      let taken := before.rest.take (before.rest.length - s.rest.length)
      let pieces := Tree.piecesAll taken
      { s with printed := pieces.reverse ++ before.printed, count := before.count + pieces.length }
  return a

/-- Runs a parser and prints the tokens it took as the source has them. -/
def raw {α : Type} (p : Parser src α) : Parser src α :=
  rawIf (fun _ => true) p

/-- Runs a parser if it succeeds; otherwise takes nothing. -/
def attempt {α : Type} (p : Parser src α) : Parser src (Option α) := fun s =>
  match p s with
  | .ok (a, t) => .ok (some a, t)
  | .error _ => .ok (none, s)

/-- A parser would succeed. -/
def wouldSucceed {α : Type} (p : Parser src α) : Parser src Bool := fun s =>
  match p s with
  | .ok _ => .ok (true, s)
  | .error _ => .ok (false, s)

/-! ## Tokens -/

/-- The printed characters of an operator, joint with each other. -/
def opPieces : List Char → List (Tree src) → List Piece
  | [c], tree :: _ => [.token (String.singleton c) false tree.span]
  | c :: cs, tree :: rest => .token (String.singleton c) true tree.span :: opPieces cs rest
  | _, _ => []

/-- Reads an operator. -/
def op (s : String) : Parser src Extent := do
  let trees := (← get).rest
  if Ahead.op s trees then
    let pieces := opPieces s.toList trees
    take s.length pieces
    return pieces
  else unexpected

/-- Reads an operator if it comes next. -/
def op? (s : String) : Parser src Bool := do
  if ← peek (Ahead.op s) then
    let _ ← op s
    return true
  else return false

/-- Reads a word that passes a test. -/
def wordWhere (test : String → Bool) : Parser src (Word src) := do
  match (← get).rest with
  | .word w :: _ =>
      if test w.text then
        take 1 [.token w.text false w.span]
        return w
      else unexpected
  | _ => unexpected

/-- Reads the word `s`. -/
def word (s : String) : Parser src (Word src) :=
  wordWhere (· == s)

/-- Reads the word `s` if it comes next. -/
def word? (s : String) : Parser src Bool := do
  if ← peek (Ahead.word s) then
    let _ ← word s
    return true
  else return false

/-- Reads any word. -/
def anyWord : Parser src (Word src) :=
  wordWhere fun _ => true

/-- Reads an identifier. -/
def ident : Parser src (Word src) :=
  wordWhere fun s => !Ahead.reserved.contains s

/-- Reads a lifetime. -/
def lifetime : Parser src Extent := do
  match (← get).rest with
  | .lifetime text span :: _ =>
      let pieces := [.token text false span]
      take 1 pieces
      return pieces
  | _ => unexpected

/-- Reads a lifetime if one comes next. -/
def lifetime? : Parser src (Option Extent) := do
  if ← peek Ahead.lifetime then return some (← lifetime) else return none

/-- Reads a literal, and gives its kind and value. -/
def literal : Parser src (LiteralKind × String) := do
  match (← get).rest with
  | .literal text span :: _ =>
      take 1 [.token text false span]
      return (Literal.kind text.toList, Literal.value text)
  | .word w :: _ =>
      if w.text == "true" || w.text == "false" then
        take 1 [.token w.text false w.span]
        return (.bool, w.text)
      else unexpected
  | .punct '-' _ sign :: .literal text span :: _ =>
      if Ahead.isNumber text then
        take 2 [.token "-" false sign, .token text false span]
        return (Literal.kind text.toList, "- " ++ text)
      else unexpected
  | _ => unexpected

/-- Reads a group between the given delimiters, its inside with `p`. -/
def delimited {α : Type} (d : Delimiter) (p : Parser src α) : Parser src α := fun s =>
  match s.rest with
  | .group e body opening closing :: rest =>
      if e = d then
        match p ⟨body, closing.start, [], 0, s.leftover⟩ with
        | .ok (a, inside) =>
            .ok (a,
              { s with
                rest
                printed := .group d inside.printed.reverse (opening.through closing) :: s.printed
                count := s.count + 1
                leftover :=
                  inside.leftover.or (inside.rest.head?.map fun tree => tree.span.start) })
        | .error p => .error p
      else unexpected s
  | _ => unexpected s

/-- Reads any group as it is, and gives its delimiter and the tokens inside. -/
def rawGroup : Parser src (Delimiter × Extent) := do
  match (← get).rest with
  | .group d body opening closing :: _ =>
      let inside := Tree.piecesAll body
      take 1 [.group d inside (opening.through closing)]
      return (d, inside)
  | _ => unexpected

/-- Takes all tokens that are left, as they are. -/
def everything : Parser src Unit := do
  let trees := (← get).rest
  take trees.length (Tree.piecesAll trees)

/-! ## Repetition -/

/-- At most `bound` times, as long as the condition holds. -/
def repeatBounded {α : Type} (condition : Ahead src) (p : Parser src α) :
    (bound : Nat) → Parser src (List α)
  | 0 => return []
  | bound + 1 => do
      if ← peek condition then
        let first ← p
        let others ← repeatBounded condition p bound
        return first :: others
      else return []

/-- Reads with `p`, which takes a token at least, as long as the condition holds. -/
def repeatWhile {α : Type} (condition : Ahead src) (p : Parser src α) : Parser src (List α) := do
  repeatBounded condition p (← get).rest.length

/-- At most `bound` times, with separators between, up to a condition that is tested before and
after each time. -/
def separatedBounded {α : Type} (stop : Ahead src) (separator : String) (p : Parser src α) :
    (bound : Nat) → Parser src (List α)
  | 0 => return []
  | bound + 1 => do
      if ← peek stop then return []
      else
        let first ← p
        if ← peek stop then return [first]
        else
          let _ ← op separator
          let others ← separatedBounded stop separator p bound
          return first :: others

/-- Reads a list with separators between, and perhaps one at the end, up to a condition. -/
def separatedUntil {α : Type} (stop : Ahead src) (separator : String) (p : Parser src α) :
    Parser src (List α) := do
  separatedBounded stop separator p ((← get).rest.length + 1)

/-- Reads a list with commas up to the end of the group. -/
def terminated {α : Type} (p : Parser src α) : Parser src (List α) :=
  separatedUntil Ahead.atEnd "," p

end SyntaxExport.Grammar
