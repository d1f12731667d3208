import ModelRegistry.Files
import ModelRegistry.Launch
import ModelRegistry.Toml.Reader
import ModelRegistry.Toml.Writer

/-!
# ModelRegistry.Settings

The settings that a user can keep in a file and override with flags. Every setting
may be left open. Where two sets of settings come together (`Settings.merge`), the
second decides wherever it says something.
-/

namespace ModelRegistry

open Number

/-- A set of settings. -/
structure Settings where
  model : Option String
  draftModel : Option String
  numSpeculativeTokens : Option UInt64
  servedModelName : Option String
  dtype : Option String
  maxModelLen : Option UInt64
  gpuMemoryUtilization : Option Binary32
  tensorParallelSize : Option UInt64
  revision : Option String
  /-- The path of a table of further declarations. -/
  registry : Option String
  /-- The path of a directory of schema files. -/
  configSchemaDir : Option String
  logLevel : Option String
  deriving DecidableEq, Repr

/-- Why settings could not be loaded or saved. -/
inductive SettingsError where
  | io (error : FileError)
  | parse
  | serialize
  deriving DecidableEq, Repr

/-- The text of the error. -/
def SettingsError.message : SettingsError → String
  | .io e => "IO error: " ++ e.message
  | .parse => "Parse error: " ++ Document.faultDetail
  | .serialize => "Serialize error: " ++ Document.faultDetail

namespace Settings

/-- The settings that leave everything open. -/
def empty : Settings :=
  ⟨none, none, none, none, none, none, none, none, none, none, none, none⟩

/-- The first settings, overridden by the second wherever those say something. -/
def merge (a b : Settings) : Settings where
  model := b.model.or a.model
  draftModel := b.draftModel.or a.draftModel
  numSpeculativeTokens := b.numSpeculativeTokens.or a.numSpeculativeTokens
  servedModelName := b.servedModelName.or a.servedModelName
  dtype := b.dtype.or a.dtype
  maxModelLen := b.maxModelLen.or a.maxModelLen
  gpuMemoryUtilization := b.gpuMemoryUtilization.or a.gpuMemoryUtilization
  tensorParallelSize := b.tensorParallelSize.or a.tensorParallelSize
  revision := b.revision.or a.revision
  registry := b.registry.or a.registry
  configSchemaDir := b.configSchemaDir.or a.configSchemaDir
  logLevel := b.logLevel.or a.logLevel

/-- Whether two sets of settings are equal; numbers are compared as numbers. -/
def isEqual (a b : Settings) : Bool :=
  { a with gpuMemoryUtilization := none } == { b with gpuMemoryUtilization := none } &&
    match a.gpuMemoryUtilization, b.gpuMemoryUtilization with
    | some x, some y => x.isEqual y
    | none, none => true
    | _, _ => false

/-- What the settings say about a launch; the rest is as it is by default. -/
def launch (s : Settings) : LaunchSettings where
  servedModelName := s.servedModelName
  dtype := s.dtype.getD LaunchSettings.default.dtype
  maxModelLen := s.maxModelLen
  gpuMemoryUtilization :=
    s.gpuMemoryUtilization.getD LaunchSettings.default.gpuMemoryUtilization
  tensorParallelSize := s.tensorParallelSize.getD LaunchSettings.default.tensorParallelSize
  numSpeculativeTokens :=
    s.numSpeculativeTokens.getD LaunchSettings.default.numSpeculativeTokens

/-- The level of the log lines. -/
def logFilter (s : Settings) : String := s.logLevel.getD "info"

/-! ## Reading and writing -/

/-- A number as a utilization. -/
def utilization? : Document → Option Binary32
  | .integer n => some (.ofInt n)
  | .float x => some x.toBinary32
  | _ => none

/-- The keys, in the order in which settings are written. -/
def keys : List String :=
  ["model", "draft_model", "num_speculative_tokens", "served_model_name", "dtype",
    "max_model_len", "gpu_memory_utilization", "tensor_parallel_size", "revision", "registry",
    "config_schema_dir", "log_level"]

/-- Reads settings. -/
def ofDocument? (n : Document.Notation) (d : Document) : Option Settings := do
  let [model, draftModel, numSpeculativeTokens, servedModelName, dtype, maxModelLen,
    gpuMemoryUtilization, tensorParallelSize, revision, registry, configSchemaDir, logLevel] ←
    d.record? n keys | none
  let text? := Document.withDefault? none (Document.optional? Document.string?)
  let size? := Document.withDefault? none (Document.optional? Document.size?)
  return {
    model := ← text? model
    draftModel := ← text? draftModel
    numSpeculativeTokens := ← size? numSpeculativeTokens
    servedModelName := ← text? servedModelName
    dtype := ← text? dtype
    maxModelLen := ← size? maxModelLen
    gpuMemoryUtilization := ←
      Document.withDefault? none (Document.optional? utilization?) gpuMemoryUtilization
    tensorParallelSize := ← size? tensorParallelSize
    revision := ← text? revision
    registry := ← text? registry
    configSchemaDir := ← text? configSchemaDir
    logLevel := ← text? logLevel }

/-- Reads settings from the text of a file. -/
def parse? (text : String) : Option Settings :=
  (Toml.document? text).bind (ofDocument? .toml)

/-- The settings that say something, under their keys. -/
def entries (s : Settings) : List (String × Toml.Simple) :=
  let values : List (Option Toml.Simple) :=
    [s.model.map .string, s.draftModel.map .string, s.numSpeculativeTokens.map .size,
      s.servedModelName.map .string, s.dtype.map .string, s.maxModelLen.map .size,
      s.gpuMemoryUtilization.map fun x => .float x.toBinary64, s.tensorParallelSize.map .size,
      s.revision.map .string, s.registry.map .string, s.configSchemaDir.map .string,
      s.logLevel.map .string]
  (keys.zip values).filterMap fun (key, value?) => value?.map fun value => (key, value)

/-- The settings as the text of a file. -/
def text? (s : Settings) : Option String := Toml.tableText? s.entries

/-- The settings as JSON, without those that are open. -/
def toJson (s : Settings) : Json :=
  .object (s.entries.map fun (key, value) =>
    (key, match value with
      | .string text => .string text
      | .size n => .int n.toNat
      | .float x => .float x))

/-- Loads settings from a file. -/
def load (files : Files) (path : String) : Except SettingsError Settings :=
  match files.read path with
  | .error e => .error (.io e)
  | .ok text =>
    match parse? text with
    | some s => .ok s
    | none => .error .parse

/-- Saves settings to a file. -/
def save (s : Settings) (files : Files) (path : String) : Except SettingsError Files :=
  match s.text? with
  | none => .error .serialize
  | some text =>
    match files.write path text with
    | .ok files => .ok files
    | .error e => .error (.io e)

end Settings

end ModelRegistry
