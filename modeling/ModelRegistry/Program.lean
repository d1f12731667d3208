import ModelRegistry.CommandLine
import ModelRegistry.Service.Sources

/-!
# ModelRegistry.Program

The program as a function: from the file system, the hub and the arguments to what
is written, the status with which the program ends, and the file system it leaves.

The settings come from the file of the user, if it can be read, overridden by the
flags.
-/

namespace ModelRegistry

/-- Why a command fails. -/
inductive ProgramError where
  | save
  | noModel
  | declarations
  | start (error : StartError)
  | load (error : LoadError)
  | speculative (error : SpeculativeError)
  | launch (error : LaunchError)
  deriving DecidableEq, Repr

/-- The text of the error. -/
def ProgramError.message : ProgramError → String
  | .save => "failed to save config"
  | .noModel => "no model given: pass --model or set \x60model\x60 in the config file"
  | .declarations => "failed to load architecture declarations"
  | .start (.verification report) =>
    "architecture verification failed for " ++ toString report.failedArchitectures.length
      ++ " architecture(s)"
  | .start e => e.message
  | .load e => e.message
  | .speculative e => e.message
  | .launch e => e.message

/-- Whether the program does not fail but stops, and why. -/
def ProgramError.halt? : ProgramError → Option Halt
  | .start (.halt reason) => some reason
  | .speculative (.mismatch (.halt reason)) => some reason
  | _ => none

/-- What the program says on the side. -/
inductive Notice where
  /-- Settings were found at this path. -/
  | loaded (path : String)
  /-- Settings were saved at this path. -/
  | saved (path : String)
  | failed (error : ProgramError)
  | halted (reason : Halt)
  /-- The command line is wrong. -/
  | usage
  deriving DecidableEq, Repr

namespace Notice

/-- The text of the notice. -/
def text : Notice → String
  | .loaded path => "Loaded config from: " ++ path
  | .saved path => "Saved config to: " ++ path
  | .failed e => "Error: " ++ e.message
  | .halted reason => reason.message
  | .usage => "Usage: archreg-server <verify|list|resolve|preflight> [OPTIONS]"

end Notice

/-- How a run of the program ends. -/
structure Outcome where
  status : Nat
  output : String
  notices : List Notice
  files : Files

namespace Program

variable (hub : Hub) (files : Files)

/-! ## Commands -/

/-- The sources that settings name. -/
def sources (s : Settings) : Sources := ⟨s.registry, s.configSchemaDir, s.revision⟩

/-- Starts the service. -/
def startService (s : Settings) : Except ProgramError Service :=
  match (sources s).setup hub files with
  | .error _ => .error .declarations
  | .ok setup =>
    match setup.start files with
    | .ok service => .ok service
    | .error e => .error (.start e)

/-- A text with blanks after it up to a width. -/
def padded (width : Nat) (s : String) : String :=
  s ++ String.ofList (List.replicate (width - s.length) ' ')

/-- A line of the list of architectures. -/
def listLine (id modalities role loader : String) : String :=
  padded 40 id ++ " " ++ padded 28 modalities ++ " " ++ padded 16 role ++ " " ++ loader ++ "\n"

/-- The line of an architecture. -/
def architectureLine (a : Architecture) : String :=
  listLine a.id (",".intercalate (a.modalities.map (·.tag)))
    (SpeculativeFacts.ofArchitecture a).role.name a.loader.text

/-- The list of the registered architectures. -/
def listing (service : Service) : String :=
  listLine "ARCHITECTURE" "MODALITIES" "SPECULATIVE" "LOADER"
    ++ String.join (service.registry.entries.map architectureLine)

/-- The model that settings name. -/
def requireModel (s : Settings) : Except ProgramError String :=
  match s.model with
  | some model => .ok model
  | none => .error .noModel

/-- Shows the resolved configuration of the model. -/
def resolve (s : Settings) : Except ProgramError String := do
  let model ← requireModel s
  let service ← startService hub files s
  match ((Service.prepare files model).run service).1 with
  | .ok m => return m.value.resolved.config.toJson.pretty ++ "\n"
  | .error e => throw (.load e)

/-- Plans the launch of a model, with a draft or without. -/
def plan (service : Service) (launch : LaunchSettings) (model : String)
    (draft : Option String) : Except ProgramError LaunchPlan :=
  let build (target : PreparedModel) (speculative : Option (PreparedModel × Pairing)) :=
    match LaunchPlan.build launch target speculative with
    | .ok plan => .ok plan
    | .error e => .error (.launch e)
  match draft with
  | none =>
    match ((Service.prepare files model).run service).1 with
    | .ok target => build target.value none
    | .error e => .error (.load e)
  | some draft =>
    match ((Service.prepareSpeculative files model draft).run service).1 with
    | .ok ready => build ready.target (some (ready.draft, ready.pairing.value))
    | .error e => .error (.speculative e)

/-- Shows the plan for a launch. -/
def preflight (s : Settings) : Except ProgramError String := do
  let model ← requireModel s
  match s.launch.validate s.draftModel.isSome with
  | .error e => throw (.launch e)
  | .ok () =>
    let service ← startService hub files s
    return (← plan files service s.launch model s.draftModel).text ++ "\n"

/-- What a command writes, or why it fails. -/
def execute (s : Settings) : CommandLine.Command → Except ProgramError String
  | .verify => do return (← startService hub files s).report.text ++ "\n"
  | .list => do return listing (← startService hub files s)
  | .resolve => resolve hub files s
  | .preflight => preflight hub files s

/-! ## Runs -/

/-- What a failing command has written before it fails: the report of a verification. -/
def outputOfError : ProgramError → String
  | .start (.verification report) => report.text ++ "\n"
  | _ => ""

/-- The status with which a program ends that stops on the way. -/
def haltStatus : Nat := 101

/-- Runs a command with the given settings. -/
def conclude (notices : List Notice) (command : CommandLine.Command) (s : Settings) : Outcome :=
  match execute hub files s command with
  | .ok output => ⟨0, output, notices, files⟩
  | .error e =>
    match e.halt? with
    | some reason => ⟨haltStatus, "", notices ++ [.halted reason], files⟩
    | none => ⟨1, outputOfError e, notices ++ [.failed e], files⟩

/-- The settings of the user, and whether there is a file of them. A file that cannot be read
says nothing. -/
def userSettings (configPath : Option String) : Settings × List Notice :=
  match configPath with
  | none => (.empty, [])
  | some path =>
    ((Settings.load files path).toOption.getD .empty,
      if files.contains path then [.loaded path] else [])

/-- Saves the settings at the path of the user's file. -/
def saveSettings (configPath : Option String) (s : Settings) :
    Except ProgramError (Files × String) :=
  match configPath with
  | none => .error .save
  | some path =>
    match s.save files path with
    | .ok files => .ok (files, path)
    | .error _ => .error .save

/-- Runs the program. -/
def run (configPath : Option String) (args : List String) : Outcome :=
  let (settings, notices) := userSettings files configPath
  match CommandLine.parse args with
  | none => ⟨2, "", notices ++ [.usage], files⟩
  | some .help => ⟨0, Notice.usage.text ++ "\n", notices, files⟩
  | some (.invoke i) =>
    let settings := settings.merge i.settings
    if i.save then
      match saveSettings files configPath settings with
      | .error e => ⟨1, "", notices ++ [.failed e], files⟩
      | .ok (files, path) => conclude hub files (notices ++ [.saved path]) i.command settings
    else conclude hub files notices i.command settings

end Program

end ModelRegistry
