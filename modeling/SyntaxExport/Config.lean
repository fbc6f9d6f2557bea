import SyntaxExport.Disk
import SyntaxExport.Format
import SyntaxExport.Toml.Document

/-!
# Configuration

A configuration file is a TOML document that names a format, the options of an export and the memory
of a worker. What it does not name has its default, and what it names beyond that is ignored.
-/

namespace SyntaxExport

/-- The settings of a configuration file. -/
structure Config where
  format : Format := .dot
  options : Options := {}
  stackSize : Nat := 64
  deriving DecidableEq, Repr, Inhabited

/-- Why there is no configuration. -/
inductive ConfigError where
  | unreadable (path : String)
  | invalid (path : String)
  deriving DecidableEq, Repr

/-- The message about a configuration. -/
def ConfigError.message : ConfigError → String
  | unreadable path => s!"Failed to read config {path}"
  | invalid path => s!"Invalid config {path}"

namespace Config

open Toml (Value Entries)

/-- A truth value. -/
def boolean? : Value → Option Bool
  | .boolean b => some b
  | _ => none

/-- A value that holds nothing. -/
def isVoid : Value → Bool
  | .array [] => true
  | .table _ [] => true
  | _ => false

/-- A style of outline lines by its full name, also as the only key of a table. -/
def lineStyle? : Value → Option LineStyle
  | .text s => LineStyle.ofFullName? s
  | .table _ [(key, v)] => if isVoid v then LineStyle.ofFullName? key else none
  | _ => none

/-- A format by one of its names. -/
def format? : Value → Option Format
  | .text s => Format.ofName? s
  | _ => none

/-- A number that is not negative. -/
def number? : Value → Option Nat
  | .integer n => if 0 ≤ n then some n.toNat else none
  | _ => none

/-- What a value means if it is there, else the default. -/
def orDefault {α : Type} (read : Value → Option α) (byDefault : α) : Option Value → Option α
  | some v => read v
  | none => some byDefault

/-- The options that three values stand for. -/
def optionsOf? (typeName types style : Option Value) : Option Options := do
  return ⟨← orDefault boolean? true typeName, ← orDefault boolean? false types,
    ← orDefault lineStyle? .summaryTypeRange style⟩

/-- The options of an export: a table, or a list of the values in their order. -/
def options? : Value → Option Options
  | .table _ entries =>
      optionsOf? (entries.lookup "include_type_name") (entries.lookup "resolve_types")
        (entries.lookup "ascii_format")
  | .array items => optionsOf? items[0]? items[1]? items[2]?
  | _ => none

/-- The configuration that entries stand for. -/
def ofEntries? (entries : Entries) : Option Config := do
  return ⟨← orDefault format? .dot (entries.lookup "format"),
    ← orDefault options? {} (entries.lookup "export"),
    ← orDefault number? 64 (entries.lookup "worker_stack_size_mb")⟩

/-- The configuration in a document. -/
def parse? (document : String) : Option Config :=
  (Toml.parse document).bind ofEntries?

/-- The configuration in a file; without one, the defaults. -/
def load {m : Type → Type} [Monad m] (disk : Disk m) :
    (path : Option String) → m (Except ConfigError Config)
  | none => return .ok {}
  | some path => do
      match ← disk.read? path with
      | none => return .error (.unreadable path)
      | some document =>
          match parse? document with
          | some config => return .ok config
          | none => return .error (.invalid path)

end Config

end SyntaxExport
