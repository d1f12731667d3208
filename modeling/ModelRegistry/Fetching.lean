import ModelRegistry.Checkpoint
import ModelRegistry.Files
import ModelRegistry.Table

/-!
# ModelRegistry.Fetching

Where checkpoints come from, keyed by a locator: a table in memory, or the file
system, where a locator is a directory with a `config.json` or such a file itself.
Other locators name models of the hub, a remote service that keeps the files it has
fetched in a store of its own. What the hub answers is a parameter (`Hub`).
-/

namespace ModelRegistry

/-- Why a checkpoint could not be fetched. -/
inductive FetchError where
  | io (path message : String)
  | parse (locator message : String)
  | remote (locator message : String)
  /-- The task that waits for the hub came to no end. -/
  | task (locator message : String)
  | notFound (locator : String)
  deriving DecidableEq, Repr

/-- The text of the error. -/
def FetchError.message : FetchError → String
  | .io path message => "failed to read " ++ path ++ ": " ++ message
  | .parse locator message => "invalid config.json for " ++ locator ++ ": " ++ message
  | .remote locator message =>
    "failed to download config.json for " ++ locator ++ ": " ++ message
  | .task locator message => "fetch task for " ++ locator ++ " failed: " ++ message
  | .notFound locator => "no checkpoint found for " ++ locator

/-- A file in the store of the hub: its path, and what comes of reading it. -/
structure HubFile where
  path : String
  content : Except FileError String

/-- Why the hub hands out no file. -/
inductive HubError where
  | remote (message : String)
  | task (message : String)
  deriving DecidableEq, Repr

/-- The error for a locator. -/
def HubError.toFetchError (locator : String) : HubError → FetchError
  | .remote message => .remote locator message
  | .task message => .task locator message

/-- The hub: the `config.json` of a model, from a revision and a locator. -/
abbrev Hub := String → String → Except HubError HubFile

/-- A hub that cannot be reached. -/
def Hub.unreachable : Hub := fun _ _ => .error (.remote "no connection")

/-- A source of checkpoints. -/
inductive Fetcher where
  /-- A table; `slow` tells whether a fetch takes a moment, so that requests overlap. -/
  | memory (checkpoints : Table String Checkpoint) (slow : Bool)
  /-- The file system, which is slow, and the hub, which is asked for `revision`. -/
  | files (revision : String) (hub : Hub)

namespace Fetcher

/-- The revision that the hub is asked for unless another is given. -/
def defaultRevision : String := "main"

/-- The path of the `config.json` that a locator stands for. -/
def configPath? (files : Files) (locator : String) : Option String :=
  if files.isDirectory locator then some (Path.join locator "config.json")
  else if files.isFile locator then some locator
  else none

/-- The checkpoint in the `config.json` of a locator, from what came of reading it. -/
def readConfig (locator path : String) (content : Except FileError String) :
    Except FetchError Checkpoint :=
  match content with
  | .error e => .error (.io path e.message)
  | .ok text =>
    match Checkpoint.parse? text with
    | some c => .ok c
    | none => .error (.parse locator Document.faultDetail)

/-- The checkpoint at a locator in the file system, else in the hub. -/
def fetchFile (revision : String) (hub : Hub) (files : Files) (locator : String) :
    Except FetchError Checkpoint :=
  match configPath? files locator with
  | some path => readConfig locator path (files.read path)
  | none =>
    match hub revision locator with
    | .error e => .error (e.toFetchError locator)
    | .ok file => readConfig locator file.path file.content

/-- Whether a fetch takes a moment. -/
def isSlow : Fetcher → Bool
  | .memory _ slow => slow
  | .files .. => true

/-- Fetches the checkpoint at a locator. -/
def fetch (fetcher : Fetcher) (files : Files) (locator : String) :
    Except FetchError Checkpoint :=
  match fetcher with
  | .memory checkpoints _ =>
    match checkpoints.lookup locator with
    | some c => .ok c
    | none => .error (.notFound locator)
  | .files revision hub => fetchFile revision hub files locator

end Fetcher

end ModelRegistry
