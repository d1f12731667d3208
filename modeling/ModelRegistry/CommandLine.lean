import ModelRegistry.Settings

/-!
# ModelRegistry.CommandLine

The command line. The first argument is a command, and the others are its flags:
`--flag value`, `--flag=value`, or `--save-config` alone. Flags are taken from left
to right, so that a request for help counts only if nothing before it is wrong. A
flag may be given once. A value that stands by itself does not start with a hyphen,
unless it is nothing else.
-/

namespace ModelRegistry.CommandLine

open Number

/-- What the program can be asked to do. -/
inductive Command where
  /-- Check the registered architectures. -/
  | verify
  /-- List them. -/
  | list
  /-- Show the configuration of a model. -/
  | resolve
  /-- Plan the launch of a model. -/
  | preflight
  deriving DecidableEq, Repr

namespace Command

/-- All commands. -/
def all : List Command := [.verify, .list, .resolve, .preflight]

/-- The name of a command. -/
def name : Command → String
  | .verify => "verify"
  | .list => "list"
  | .resolve => "resolve"
  | .preflight => "preflight"

/-- The command of this name. -/
def ofName? (s : String) : Option Command := all.find? (·.name == s)

end Command

/-- A command with what its flags say. -/
structure Invocation where
  command : Command
  settings : Settings
  /-- Whether the settings are to be saved. -/
  save : Bool
  deriving DecidableEq, Repr

/-- What a command line asks for. -/
inductive Request where
  | help
  | invoke (invocation : Invocation)
  deriving DecidableEq, Repr

/-! ## Values -/

/-- Reads a size: digits, and maybe a plus before them. -/
def size? (s : String) : Option UInt64 :=
  let digits := match s.toList with
    | '+' :: rest => rest
    | cs => cs
  let n := digitsValue digits
  if !digits.isEmpty && digits.all Char.isDigit && n < UInt64.size then some (UInt64.ofNat n)
  else none

/-- Reads the digits after a point, if there is a point. -/
def fractionDigits : List Char → List Char × List Char
  | '.' :: rest => (rest.takeWhile Char.isDigit, rest.dropWhile Char.isDigit)
  | cs => ([], cs)

/-- Reads an exponent up to the end; without one it is zero. -/
def exponent? : List Char → Option Int
  | [] => some 0
  | c :: rest =>
    let (negative, digits) := match rest with
      | '-' :: rest => (true, rest)
      | '+' :: rest => (false, rest)
      | rest => (false, rest)
    let n : Int := digitsValue digits
    if (c = 'e' ∨ c = 'E') ∧ !digits.isEmpty ∧ digits.all Char.isDigit then
      some (if negative then -n else n)
    else none

/-- Reads a decimal with its point anywhere among the digits, or the name of a value that is
not finite. -/
def number? (s : String) : Option Binary32 := do
  let (negative, cs) := match s.toList with
    | '-' :: rest => (true, rest)
    | '+' :: rest => (false, rest)
    | cs => (false, cs)
  let name := (String.ofList cs).toLower
  if name = "inf" ∨ name = "infinity" then
    return .ofMagnitude negative Format.single.infinityWord
  if name = "nan" then
    return .ofMagnitude negative (Format.single.infinityWord + Nat.pow 2 22)
  let whole := cs.takeWhile Char.isDigit
  let (fraction, rest) := fractionDigits (cs.dropWhile Char.isDigit)
  if whole.isEmpty ∧ fraction.isEmpty then none
  let exponent ← exponent? rest
  return .ofDecimal negative (digitsValue (whole ++ fraction)) (exponent - fraction.length)

/-- Reads a path, which is not empty. -/
def path? (s : String) : Option String := if s.isEmpty then none else some s

/-! ## Flags -/

/-- Gives a value to a setting that has none yet. -/
def setOnce {α : Type} (read? : String → Option α) (old : Option α) (text : String) :
    Option (Option α) :=
  if old.isSome then none else (read? text).map some

/-- The settings after a flag that every command has. -/
def setCommon? (flag text : String) (s : Settings) : Option Settings :=
  match flag with
  | "registry" => (setOnce path? s.registry text).map fun registry => { s with registry }
  | "config-schema-dir" =>
    (setOnce path? s.configSchemaDir text).map fun configSchemaDir => { s with configSchemaDir }
  | "revision" => (setOnce some s.revision text).map fun revision => { s with revision }
  | "log-level" => (setOnce some s.logLevel text).map fun logLevel => { s with logLevel }
  | _ => none

/-- The settings after a flag that names a model. -/
def setModel? (flag text : String) (s : Settings) : Option Settings :=
  match flag with
  | "model" => (setOnce some s.model text).map fun model => { s with model }
  | _ => setCommon? flag text s

/-- The settings after a flag of a launch. -/
def setLaunch? (flag text : String) (s : Settings) : Option Settings :=
  match flag with
  | "draft-model" => (setOnce some s.draftModel text).map fun draftModel => { s with draftModel }
  | "num-speculative-tokens" =>
    (setOnce size? s.numSpeculativeTokens text).map fun numSpeculativeTokens =>
      { s with numSpeculativeTokens }
  | "served-model-name" =>
    (setOnce some s.servedModelName text).map fun servedModelName => { s with servedModelName }
  | "dtype" => (setOnce some s.dtype text).map fun dtype => { s with dtype }
  | "max-model-len" =>
    (setOnce size? s.maxModelLen text).map fun maxModelLen => { s with maxModelLen }
  | "gpu-memory-utilization" =>
    (setOnce number? s.gpuMemoryUtilization text).map fun gpuMemoryUtilization =>
      { s with gpuMemoryUtilization }
  | "tensor-parallel-size" =>
    (setOnce size? s.tensorParallelSize text).map fun tensorParallelSize =>
      { s with tensorParallelSize }
  | _ => setModel? flag text s

/-- The settings after a flag of a command, if the command has the flag, it has not been given
before, and the text is a value for it. -/
def Command.set? : Command → String → String → Settings → Option Settings
  | .verify, flag, text, s | .list, flag, text, s => setCommon? flag text s
  | .resolve, flag, text, s => setModel? flag text s
  | .preflight, flag, text, s => setLaunch? flag text s

/-- The invocation after a flag with its value. -/
def Invocation.set? (flag text : String) (i : Invocation) : Option Invocation :=
  (i.command.set? flag text i.settings).map fun settings => { i with settings }

/-- An argument, by its form. -/
inductive Argument where
  /-- `--`, after which there are no flags. -/
  | terminator
  /-- `--name` or `--name=value`. -/
  | long (name : String) (value : Option String)
  /-- A hyphen with a letter. -/
  | short (letter : Char)
  | plain
  deriving DecidableEq, Repr

/-- The form of an argument. -/
def Argument.ofString (s : String) : Argument :=
  match s.toList with
  | ['-', '-'] => .terminator
  | '-' :: '-' :: body =>
    let name := String.ofList (body.takeWhile (· ≠ '='))
    match body.dropWhile (· ≠ '=') with
    | _ :: value => .long name (some (String.ofList value))
    | [] => .long name none
  | '-' :: c :: _ => .short c
  | _ => .plain

/-- Whether an argument can be the value of the flag before it. -/
def Argument.isValue : Argument → Bool
  | .plain => true
  | _ => false

/-- Reads the flags of a command. -/
def parseFlags (i : Invocation) : List String → Option Request
  | [] => some (.invoke i)
  | arg :: rest =>
    match Argument.ofString arg with
    | .terminator => if rest.isEmpty then some (.invoke i) else none
    | .short c => if c = 'h' then some .help else none
    | .plain => none
    | .long "help" value? => if value?.isSome then none else some .help
    | .long flag (some text) => (i.set? flag text).bind fun i => parseFlags i rest
    | .long flag none =>
      if flag = "save-config" then
        if i.command = .preflight ∧ !i.save then parseFlags { i with save := true } rest else none
      else
        match rest with
        | [] => none
        | text :: rest =>
          if (Argument.ofString text).isValue then
            (i.set? flag text).bind fun i => parseFlags i rest
          else none

/-- Whether help can be asked for this name. -/
def hasHelp (name : String) : Bool := name = "help" || (Command.ofName? name).isSome

/-- Reads a command line; there is no request in one that is wrong. -/
def parse (args : List String) : Option Request :=
  match args with
  | [] => none
  | "help" :: rest =>
    match rest with
    | [] => some .help
    | [name] => if hasHelp name then some .help else none
    | _ => none
  | arg :: rest =>
    match Argument.ofString arg with
    | .long "help" none => some .help
    | .short 'h' => some .help
    | .plain => (Command.ofName? arg).bind fun command => parseFlags ⟨command, .empty, false⟩ rest
    | _ => none

end ModelRegistry.CommandLine
