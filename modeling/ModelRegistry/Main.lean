import ModelRegistry.Program

/-!
# ModelRegistry.Main

The outer layer: it takes from the file system what a run may read, runs the
program, and carries out what the run says and leaves. The hub is out of its reach.
-/

namespace ModelRegistry.Main

/-- The path of the user's settings, as the environment tells it. -/
def configPath? : IO (Option String) := do
  let directory ←
    match ← IO.getEnv "XDG_CONFIG_HOME", ← IO.getEnv "HOME" with
    | some directory, home =>
      if Path.isAbsolute directory then pure (some directory)
      else pure (home.map fun home => Path.join home ".config")
    | none, home => pure (home.map fun home => Path.join home ".config")
  return directory.map fun directory =>
    Path.join (Path.join directory "archreg-server") "config.toml"

/-- The file system with what stands at a path: a file, or a directory with its files. -/
def take (files : Files) (path : String) : IO Files := do
  try
    let mut files := (files.put path (.directory [])).toOption.getD files
    for entry in ← ((← IO.currentDir) / path).readDir do
      let name := Path.join path entry.fileName
      try
        let content ← IO.FS.readBinFile name
        files := (files.put name (.file content)).toOption.getD files
      catch _ => files := (files.put name (.directory [])).toOption.getD files
    return files
  catch _ =>
    try
      let content ← IO.FS.readBinFile path
      return (files.put path (.file content)).toOption.getD files
    catch _ => return files

/-- The paths that a run may read besides the user's settings. -/
def paths (s : Settings) : List String :=
  [s.registry, s.configSchemaDir, s.model, s.draftModel].filterMap id

/-- The settings of a run, so far as they tell what it reads. -/
def settingsOf (files : Files) (configPath : Option String) (args : List String) : Settings :=
  let (settings, _) := Program.userSettings files configPath
  match CommandLine.parse args with
  | some (.invoke i) => settings.merge i.settings
  | _ => settings

/-- Carries out a notice. -/
def carryOut (files : Files) (notice : Notice) : IO Unit := do
  if let .saved path := notice then
    let directory := "/".intercalate ((path.splitOn "/").dropLast)
    IO.FS.createDirAll directory
    IO.FS.writeFile path ((files.read path).toOption.getD "")
  IO.eprintln notice.text

end ModelRegistry.Main

open ModelRegistry in
/-- Runs the program on the arguments. -/
def main (args : List String) : IO UInt32 := do
  let directory ← IO.currentDir
  let configPath ← Main.configPath?
  let start : Files := ⟨.directory [], Path.normalize (Path.components directory.toString)⟩
  let files ← (configPath.toList).foldlM Main.take start
  let files ← (Main.paths (Main.settingsOf files configPath args)).foldlM Main.take files
  let outcome := Program.run .unreachable files configPath args
  for notice in outcome.notices do
    Main.carryOut outcome.files notice
  IO.print outcome.output
  return outcome.status.toUInt32
