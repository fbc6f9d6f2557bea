import SyntaxExport.Node

/-!
# Types of expressions

`Typing.resolve` gives the type of an expression node whose type follows from its own form:
literals, casts, references, tuples, arrays, operators and struct literals. What would need the
meaning of a name or inference is reported as `Unresolved`. `Typing.render` writes a type node in
compact form.
-/

namespace SyntaxExport

/-- What a type does not follow from: nodes of some kind, a node that lacks a child, a literal of no
known kind, a struct literal without its path, an array that is empty or has elements of different
types, or operands of different types. -/
inductive Unsupported where
  | kind (typeName : String)
  | missing (owner slot : String)
  | literal (value : String)
  | structLiteral
  | emptyArray
  | mixedArray
  | operands (left operator right : String)
  deriving DecidableEq, Repr

/-- The words for what is not supported. -/
def Unsupported.text : Unsupported → String
  | kind typeName => typeName
  | missing owner slot => owner ++ " without " ++ slot
  | literal value => "literal " ++ value
  | structLiteral => "struct literal"
  | emptyArray => "empty array"
  | mixedArray => "mixed array"
  | operands left operator right => s!"{left} {operator} {right}"

/-- Why an expression has no type that follows from its form. -/
inductive Unresolved where
  | symbol (name : String)
  | unsupported (what : Unsupported)
  deriving DecidableEq, Repr

/-- The message about an unresolved type. -/
def Unresolved.message : Unresolved → String
  | symbol name => s!"unsolved symbol '{name}'"
  | unsupported what => s!"cannot resolve type of {what.text}"

namespace Typing

/-- Operators whose result is a truth value. -/
def truthOperators : List String :=
  ["==", "!=", "<", "<=", ">", ">=", "&&", "||"]

/-- Suffixes of integer literals, in the order they are looked for. -/
def integerSuffixes : List String :=
  ["i8", "i16", "i32", "i64", "i128", "isize", "u8", "u16", "u32", "u64", "u128", "usize"]

/-- Suffixes of floating-point literals. -/
def floatSuffixes : List String :=
  ["f32", "f64"]

/-- The first of the suffixes that the literal ends with. -/
def suffixOf? (literal : String) (suffixes : List String) : Option String :=
  suffixes.find? fun suffix => suffix.toList.isSuffixOf literal.toList

/-- The type of a literal of a kind. -/
def literal (kind value : String) : Except Unresolved String :=
  match kind with
  | "str" => .ok "&str"
  | "byte_str" => .ok "&[u8]"
  | "c_str" => .ok "&CStr"
  | "byte" => .ok "u8"
  | "char" => .ok "char"
  | "bool" => .ok "bool"
  | "int" => .ok ((suffixOf? value integerSuffixes).getD "i32")
  | "float" => .ok ((suffixOf? value floatSuffixes).getD "f64")
  | _ => .error (.unsupported (.literal value))

/-- A tuple of types; a single one keeps its comma. -/
def tuple : List String → String
  | [single] => "(" ++ single ++ ",)"
  | elements => "(" ++ ", ".intercalate elements ++ ")"

/-- A reference to a type, as far as the attributes tell whether it is mutable. -/
def reference (attributes : List (String × String)) (target : String) : String :=
  "&" ++ (if attributes.lookup "mutable" == some "true" then "mut " else "") ++ target

/-- A segment of a path with its arguments. -/
def segment (name : String) : List String → String
  | [] => name
  | arguments => name ++ "<" ++ ", ".intercalate arguments ++ ">"

/-- The type of an array whose elements have the given types. -/
def array : List String → Except Unresolved String
  | [] => .error (.unsupported .emptyArray)
  | first :: rest =>
      if rest.all (· == first) then .ok s!"[{first}; {rest.length + 1}]"
      else .error (.unsupported .mixedArray)

/-- The error about a node that lacks a child. -/
def without (owner slot : String) : Unresolved :=
  .unsupported (.missing owner slot)

/-- The name in the slot `name` of a path segment. -/
def segmentName (singular : List (String × Option Node)) : String :=
  ((singular.lookup "name").join.bind (·.attribute? "identifier")).getD ""

mutual

/-- A type node in compact form. -/
def render : Node → Except Unresolved String
  | .mk info singular lists =>
      match info.typeName with
      | "TypePath" => do
          let segments ← renderSegmentsIn lists
          return "::".intercalate segments
      | "TypeReference" => do
          let element ← renderSlot info.typeName "elem" singular
          return reference info.attributes element
      | "TypeSlice" => do
          let element ← renderSlot info.typeName "elem" singular
          return "[" ++ element ++ "]"
      | "TypeParen" => renderSlot info.typeName "elem" singular
      | "TypeTuple" => do
          let elements ← renderList "elements" lists
          return tuple elements
      | other =>
          match info.attributes.lookup "tokens" with
          | some tokens => .ok tokens
          | none => .error (.unsupported (.kind other))

/-- The type in the first single slot of that name. -/
def renderSlot (owner slot : String) : List (String × Option Node) → Except Unresolved String
  | [] => .error (without owner slot)
  | (name, none) :: rest =>
      if name == slot then .error (without owner slot) else renderSlot owner slot rest
  | (name, some n) :: rest => if name == slot then render n else renderSlot owner slot rest

/-- The types in the first list of that name. -/
def renderList (slot : String) : List (String × List Node) → Except Unresolved (List String)
  | [] => .ok []
  | (name, items) :: rest => if name == slot then renderAll items else renderList slot rest

/-- The types of a list. -/
def renderAll : List Node → Except Unresolved (List String)
  | [] => .ok []
  | n :: rest => do
      let first ← render n
      let others ← renderAll rest
      return first :: others

/-- The path segments in the first list of segments. -/
def renderSegmentsIn : List (String × List Node) → Except Unresolved (List String)
  | [] => .ok []
  | (name, items) :: rest =>
      if name == "segments" then renderSegments items else renderSegmentsIn rest

/-- Path segments with their arguments. -/
def renderSegments : List Node → Except Unresolved (List String)
  | [] => .ok []
  | .mk _ singular lists :: rest => do
      let arguments ← renderList "arguments" lists
      let others ← renderSegments rest
      return segment (segmentName singular) arguments :: others

end

mutual

/-- The type of an expression node. -/
def resolve : Node → Except Unresolved String
  | .mk info singular lists =>
      match info.typeName with
      | "ExprLit" =>
          literal ((info.attributes.lookup "kind").getD "")
            ((info.attributes.lookup "value").getD "")
      | "ExprCast" => renderSlot info.typeName "ty" singular
      | "ExprParen" => resolveSlot info.typeName "expr" singular
      | "ExprReference" => do
          let target ← resolveSlot info.typeName "expr" singular
          return reference info.attributes target
      | "ExprTuple" => do
          let elements ← resolveList "elements" lists
          return tuple elements
      | "ExprArray" => do
          let elements ← resolveList "elements" lists
          array elements
      | "ExprBinary" =>
          let operator := (info.attributes.lookup "operator").getD ""
          if truthOperators.contains operator then .ok "bool"
          else do
            let left ← resolveSlot info.typeName "left" singular
            let right ← resolveSlot info.typeName "right" singular
            if left == right then return left
            else .error (.unsupported (.operands left operator right))
      | "ExprUnary" =>
          if info.attributes.lookup "operator" == some "*" then
            .error (.unsupported (.kind info.typeName))
          else resolveSlot info.typeName "expr" singular
      | "ExprStruct" =>
          match info.attributes.lookup "path" with
          | some path => .ok (String.ofList (path.toList.filter (· != ' ')))
          | none => .error (.unsupported .structLiteral)
      | "ExprPath" => .error (.symbol ((info.attributes.lookup "path").getD ""))
      | other => .error (.unsupported (.kind other))

/-- The type of the expression in the first single slot of that name. -/
def resolveSlot (owner slot : String) : List (String × Option Node) → Except Unresolved String
  | [] => .error (without owner slot)
  | (name, none) :: rest =>
      if name == slot then .error (without owner slot) else resolveSlot owner slot rest
  | (name, some n) :: rest => if name == slot then resolve n else resolveSlot owner slot rest

/-- The types of the expressions in the first list of that name. -/
def resolveList (slot : String) : List (String × List Node) → Except Unresolved (List String)
  | [] => .ok []
  | (name, items) :: rest => if name == slot then resolveAll items else resolveList slot rest

/-- The types of a list of expressions. -/
def resolveAll : List Node → Except Unresolved (List String)
  | [] => .ok []
  | n :: rest => do
      let first ← resolve n
      let others ← resolveAll rest
      return first :: others

end

/-- The type of an expression node, if it follows from its form. -/
def resolve? (n : Node) : Option String :=
  (resolve n).toOption

end Typing

end SyntaxExport
