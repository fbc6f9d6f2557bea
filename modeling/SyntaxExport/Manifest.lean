/-!
# Manifests

A batch leaves a manifest beside its documents: how it was made, and for each source what became of
it. `Manifest.render` writes it as JSON with an indentation of two blanks.
-/

namespace SyntaxExport

/-- What became of a source: the name of its document and the number of its nodes, or the error. -/
structure ManifestEntry where
  source : String
  package : Option String
  output : Option String
  nodeCount : Nat
  error : Option String
  deriving DecidableEq, Repr

/-- The result of a batch. -/
structure Manifest where
  format : String
  includeTypeName : Bool
  files : List ManifestEntry
  deriving DecidableEq, Repr

namespace Manifest

/-- The name of the file. -/
def fileName : String :=
  "manifest.json"

/-- The number of sources without a document. -/
def failed (m : Manifest) : Nat :=
  (m.files.filter fun entry => entry.error.isSome).length

/-- The number of sources with a document. -/
def exported (m : Manifest) : Nat :=
  m.files.length - m.failed

/-! ## Text -/

/-- A hexadecimal digit. -/
def hexDigit (n : Nat) : Char :=
  Nat.digitChar n

/-- A character of a JSON text: control characters are escaped. -/
def jsonChar (c : Char) : List Char :=
  if c = '"' then ['\\', '"']
  else if c = '\\' then ['\\', '\\']
  else if c = '\n' then ['\\', 'n']
  else if c = '\r' then ['\\', 'r']
  else if c = '\t' then ['\\', 't']
  else if c.toNat = 8 then ['\\', 'b']
  else if c.toNat = 12 then ['\\', 'f']
  else if c.toNat < 32 then ['\\', 'u', '0', '0', hexDigit (c.toNat / 16), hexDigit (c.toNat % 16)]
  else [c]

/-- A JSON text. -/
def jsonText (s : String) : String :=
  String.ofList ('"' :: s.toList.flatMap jsonChar ++ ['"'])

/-- A member of an object. -/
def member (name value : String) : String :=
  jsonText name ++ ": " ++ value

/-- A text member, if there is one. -/
def optionalMember (name : String) (value : Option String) : List String :=
  (value.map fun v => member name (jsonText v)).toList

/-- Lines with an indentation, between brackets. -/
def block (opening closing indent : String) (items : List String) : String :=
  if items.isEmpty then opening ++ closing
  else
    opening ++ "\n" ++ ",\n".intercalate (items.map fun item => indent ++ "  " ++ item) ++ "\n" ++
      indent ++ closing

/-- An entry as an object. -/
def renderEntry (e : ManifestEntry) : String :=
  block "\x7b" "\x7d" "    " <|
    [member "source" (jsonText e.source)] ++ optionalMember "crate_name" e.package ++
      optionalMember "output" e.output ++ [member "node_count" (toString e.nodeCount)] ++
      optionalMember "error" e.error

/-- The text of a manifest. -/
def render (m : Manifest) : String :=
  block "\x7b" "\x7d" ""
    [member "format" (jsonText m.format),
      member "include_type_name" (if m.includeTypeName then "true" else "false"),
      member "exported" (toString m.exported), member "failed" (toString m.failed),
      member "files" (block "[" "]" "  " (m.files.map renderEntry))]

end Manifest

end SyntaxExport
