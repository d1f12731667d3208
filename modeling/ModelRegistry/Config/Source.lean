import ModelRegistry.Config.ClassDocument
import ModelRegistry.Files
import ModelRegistry.Json.Reader
import ModelRegistry.Table

/-!
# ModelRegistry.Config.Source

External sources of configuration classes, keyed by architecture. A source is
asked only about architectures that the explicit mapping does not know. A static
source has an answer for each architecture once and for all, as a table of classes in
memory does; a schema directory reads `<architecture>.json` and remembers each class
that it has handed out, but neither a missing file nor a failure.

Looking up (`answer`) and what the source remembers of it (`afterLookup`) are two
functions, so that laws about answers need not speak of the memory.
-/

namespace ModelRegistry

/-- Why a source cannot produce a class that it claims to have. -/
inductive SourceError where
  | io (path message : String)
  | parse (path message : String)
  deriving DecidableEq, Repr

/-- The text of the error. -/
def SourceError.message : SourceError → String
  | .io path message => "failed to read " ++ path ++ ": " ++ message
  | .parse path message => "invalid configuration schema in " ++ path ++ ": " ++ message

/-- What a source says about an architecture: a class, nothing, or that it failed. -/
abbrev SourceAnswer (α : Type) := Except SourceError (Option α)

/-! ## Schema directories -/

/-- A directory of schema files, and the classes that were read from it so far. -/
structure SchemaDirectory where
  path : String
  cache : Table String (Shared ConfigClass)
  /-- How many classes have been read; the serial number of the next one. -/
  loaded : Nat

namespace SchemaDirectory

/-- A directory of which nothing has been read. -/
def atPath (path : String) : SchemaDirectory := ⟨path, [], 0⟩

/-- What the text of a schema file publishes. The name of the class is taken without the
blanks around it. -/
def readClass (path text : String) : Except SourceError ConfigClass :=
  match (Json.Reader.document? text).bind ConfigClass.ofDocument? with
  | none => .error (.parse path Document.faultDetail)
  | some c =>
    if c.name.isEmpty then .error (.parse path "missing class name")
    else .ok (c.withName (Text.trim c.name))

/-- The path of an architecture's schema file. -/
def filePath (d : SchemaDirectory) (architecture : String) : String :=
  Path.join d.path (architecture ++ ".json")

/-- Reads the schema file of an architecture. -/
def load (d : SchemaDirectory) (files : Files) (architecture : String) :
    SourceAnswer ConfigClass :=
  let path := d.filePath architecture
  if !files.isFile path then .ok none
  else
    match files.read path with
    | .error e => .error (.io path e.message)
    | .ok text =>
      match readClass path text with
      | .error e => .error e
      | .ok c => .ok (some c)

/-- Looks up an architecture: in the cache, else in its schema file. Only words name files, so
that an architecture cannot lead out of the directory. -/
def answer (d : SchemaDirectory) (files : Files) (architecture : String) :
    SourceAnswer (Shared ConfigClass) :=
  if !Text.isWord architecture.toList then .ok none
  else
    match d.cache.lookup architecture with
    | some c => .ok (some c)
    | none =>
      match d.load files architecture with
      | .error e => .error e
      | .ok none => .ok none
      | .ok (some c) => .ok (some ⟨d.loaded, c⟩)

/-- The directory after a look-up: a class that was read is remembered. -/
def afterLookup (d : SchemaDirectory) (files : Files) (architecture : String) : SchemaDirectory :=
  match d.cache.lookup architecture, d.answer files architecture with
  | none, .ok (some c) =>
    { d with cache := d.cache.put architecture c, loaded := d.loaded + 1 }
  | _, _ => d

end SchemaDirectory

/-! ## Sources -/

/-- A source with fixed answers. -/
structure StaticSource where
  /-- The name of the source in messages. -/
  name : String
  answer : String → SourceAnswer (Shared ConfigClass)

namespace StaticSource

/-- A table of classes; a later class of an architecture replaces an earlier one. -/
def ofClasses (classes : List (String × ConfigClass)) : StaticSource :=
  let table := Table.ofList <| (classes.zipIdx).map fun entry =>
    (entry.1.1, (⟨entry.2, entry.1.2⟩ : Shared ConfigClass))
  ⟨"static", fun architecture => .ok (table.lookup architecture)⟩

end StaticSource

/-- A source of configuration classes. -/
inductive ClassSource where
  | static (source : StaticSource)
  | directory (source : SchemaDirectory)

namespace ClassSource

/-- A source that knows nothing. -/
def empty : ClassSource := .static (StaticSource.ofClasses [])

/-- The name of the source in messages. -/
def name : ClassSource → String
  | .static s => s.name
  | .directory _ => "schema-dir"

/-- Looks up an architecture. -/
def answer (s : ClassSource) (files : Files) (architecture : String) :
    SourceAnswer (Shared ConfigClass) :=
  match s with
  | .static s => s.answer architecture
  | .directory d => d.answer files architecture

/-- The source after a look-up. -/
def afterLookup (s : ClassSource) (files : Files) (architecture : String) : ClassSource :=
  match s with
  | .static s => .static s
  | .directory d => .directory (d.afterLookup files architecture)

/-- The class that the source answers, without its identity. -/
def classFor (s : ClassSource) (files : Files) (architecture : String) :
    SourceAnswer ConfigClass :=
  match s.answer files architecture with
  | .ok c => .ok (c.map (·.value))
  | .error e => .error e

end ClassSource

end ModelRegistry
