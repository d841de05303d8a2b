import FileGateway.Configuration
import FileGateway.Path
import FileGateway.SystemError
import FileGateway.Toml.Line

/-! # Configuration files

A configuration file is a TOML document whose top-level keys are the settings; keys that are left
out keep their defaults. Entries are checked in the order of the document, and the first unknown key
or ill-typed value is reported.
-/

namespace FileGateway

inductive ConfigurationError
  | unreadable (path : Path) (error : SystemError)
  /-- Not a TOML document. -/
  | malformed
  | unknownField (name : String)
  /-- A value of the wrong type. -/
  | invalidType (found expected : String)
  /-- A number out of range. -/
  | invalidValue (found expected : String)
deriving DecidableEq, Repr

namespace ConfigurationFile

open Toml

inductive Field
  | defaultName
  | bufferSize
  | replication
  | blockSize
  | localBlockSize
deriving DecidableEq, Repr

namespace Field

def all : List Field := [.defaultName, .bufferSize, .replication, .blockSize, .localBlockSize]

/-- The key of a setting. -/
def name : Field → String
  | .defaultName => "fs.default.name"
  | .bufferSize => "io.file.buffer.size"
  | .replication => "dfs.replication"
  | .blockSize => "dfs.block.size"
  | .localBlockSize => "fs.local.block.size"

def ofName? (name : String) : Option Field := all.find? (fun field => field.name == name)

/-- The numbers that a setting takes: a name for them, and their bound. -/
def range : Field → String × Nat
  | .defaultName => ("a string", 0)
  | .bufferSize => ("usize", UInt64.size)
  | .replication => ("u16", UInt16.size)
  | .blockSize | .localBlockSize => ("u64", UInt64.size)

def expected (field : Field) : String := field.range.1

end Field

/-- What an entry of the wrong type is, in words. -/
def describe : Node → String
  | .value (.text content) => s!"string {Quoted.text content}"
  | .value (.integer value) => s!"integer `{value}`"
  | .value (.float value) => s!"floating point `{value.text}`"
  | .value (.boolean value) => s!"boolean `{value}`"
  | .value .array | .tables _ => "sequence"
  | .value .moment | .value .inlineTable | .table _ _ _ => "map"

/-- The text of an entry. -/
def textOf (field : Field) : Node → Except ConfigurationError String
  | .value (.text content) => .ok content
  | node => .error (.invalidType (describe node) field.expected)

/-- The number of an entry, within the range of its setting. -/
def numberOf (field : Field) : Node → Except ConfigurationError Nat
  | .value (.integer value) =>
    if 0 ≤ value ∧ value < field.range.2 then .ok value.toNat
    else .error (.invalidValue (describe (.value (.integer value))) field.expected)
  | node => .error (.invalidType (describe node) field.expected)

/-- One setting changed. -/
def set (conf : Configuration) (field : Field) (node : Node) :
    Except ConfigurationError Configuration :=
  match field with
  | .defaultName => (textOf field node).map fun text => { conf with defaultName := text }
  | .bufferSize => (numberOf field node).map fun n => { conf with bufferSize := .ofNat n }
  | .replication => (numberOf field node).map fun n => { conf with replication := .ofNat n }
  | .blockSize => (numberOf field node).map fun n => { conf with blockSize := .ofNat n }
  | .localBlockSize => (numberOf field node).map fun n => { conf with localBlockSize := .ofNat n }

def setEntry (conf : Configuration) (entry : Key × Node) :
    Except ConfigurationError Configuration :=
  match Field.ofName? entry.1 with
  | some field => set conf field entry.2
  | none => .error (.unknownField entry.1)

/-- Reads a configuration from text. -/
def ofText (text : String) : Except ConfigurationError Configuration :=
  match parse? text.toList with
  | some entries => entries.foldlM setEntry .default
  | none => .error .malformed

/-- Reads a configuration from what a file was found to hold. -/
def ofContents (path : Path) : Except SystemError Bytes → Except ConfigurationError Configuration
  | .error error => .error (.unreadable path error)
  | .ok bytes =>
    match Utf8.decode? bytes with
    | some text => ofText text
    | none => .error (.unreadable path .notText)

/-- The configuration of a file that may not be named or not be usable: then the defaults hold. -/
def orDefault : Option (Except ConfigurationError Configuration) → Configuration
  | some (.ok conf) => conf
  | _ => .default

end ConfigurationFile

namespace ConfigurationError

/-- The words for an error. Malformed documents are not told apart. -/
def message : ConfigurationError → String
  | .unreadable path error => s!"could not read {path.display}: {error.message}"
  | .malformed => "malformed document"
  | .unknownField name =>
    let names := ConfigurationFile.Field.all.map fun field => "`" ++ field.name ++ "`"
    "unknown field `" ++ name ++ "`, expected one of " ++ ", ".intercalate names
  | .invalidType found expected => s!"invalid type: {found}, expected {expected}"
  | .invalidValue found expected => s!"invalid value: {found}, expected {expected}"

end ConfigurationError

end FileGateway
