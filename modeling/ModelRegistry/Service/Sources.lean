import ModelRegistry.Service.Setup
import ModelRegistry.Toml.Reader

/-!
# ModelRegistry.Service.Sources

Where a setup takes its extensions from: a table of further declarations, a
directory of schema files, and the revision of remote models.
-/

namespace ModelRegistry

/-- Why a table of declarations could not be loaded. -/
inductive TableError where
  | io (path : String) (error : FileError)
  | parse
  deriving DecidableEq, Repr

/-- The text of the error. -/
def TableError.message : TableError → String
  | .io path e => "failed to read " ++ path ++ ": " ++ e.message
  | .parse => "invalid declaration table: " ++ Document.faultDetail

namespace DeclarationTable

/-- Reads a table from TOML text. -/
def parse? (text : String) : Option DeclarationTable :=
  (Toml.document? text).bind (ofDocument? .toml)

/-- Loads a table from a file. -/
def load (files : Files) (path : String) : Except TableError DeclarationTable :=
  match files.read path with
  | .error e => .error (.io path e)
  | .ok text =>
    match parse? text with
    | some table => .ok table
    | none => .error .parse

end DeclarationTable

/-- Where the extensions of a setup come from. -/
structure Sources where
  registry : Option String
  configSchemaDir : Option String
  revision : Option String
  deriving DecidableEq, Repr

namespace Sources

/-- The setup of the library with the extensions; models come from the file system and the
hub. -/
def setup (s : Sources) (hub : Hub) (files : Files) : Except TableError Setup := do
  let declarations ←
    match s.registry with
    | none => pure []
    | some path => (DeclarationTable.load files path).map (·.architectures)
  let base := (Setup.builtin hub).withDeclarations declarations
  return { base with
    source :=
      match s.configSchemaDir with
      | none => base.source
      | some path => .directory (.atPath path)
    fetcher := .files (s.revision.getD Fetcher.defaultRevision) hub }

end Sources

end ModelRegistry
