/-!
# ModelRegistry.Files

A file system as a value: a tree of directories and files, and a working
directory from which relative paths start. Schema files, declaration tables,
settings and checkpoints are read from it, so that everything this library does
with files is a function of the tree.

The tree has no symbolic links and no permissions: every path leads to at most one
place, whatever is in the tree can be read, and a file can be written wherever there
is a directory for it.

Paths are texts with `/` between their components. Walking a path enters a
directory for each component; `..` goes back to where the walk came from.
-/

namespace ModelRegistry

/-- A directory or a file. -/
inductive FileTree where
  | file (content : ByteArray)
  | directory (entries : List (String × FileTree))

/-- Why a file could not be read or written. -/
inductive FileError where
  | notFound
  | notADirectory
  | isADirectory
  /-- The content is not UTF-8. -/
  | notText
  deriving DecidableEq, Repr

/-- The text of the error, in the words of the operating system. -/
def FileError.message : FileError → String
  | .notFound => "No such file or directory (os error 2)"
  | .notADirectory => "Not a directory (os error 20)"
  | .isADirectory => "Is a directory (os error 21)"
  | .notText => "stream did not contain valid UTF-8"

namespace Path

/-- The pieces of a text between its slashes. -/
def split : List Char → List (List Char)
  | [] => [[]]
  | '/' :: rest => [] :: split rest
  | c :: rest =>
    match split rest with
    | piece :: more => (c :: piece) :: more
    | [] => [[c]]

/-- The components of a path. A slash at the end asks for a directory, as `.` does. -/
def components (path : String) : List String :=
  let pieces := split path.toList
  let named := (pieces.filter (!·.isEmpty)).map String.ofList
  if 1 < pieces.length ∧ pieces.getLast? = some [] then named ++ ["."] else named

/-- The components without `.`, and with each `..` taking back the one before it. -/
def normalize (components : List String) : List String :=
  (components.foldl (fun done c =>
    if c = "." then done else if c = ".." then done.tail else c :: done) []).reverse

/-- Whether the path starts at the root. -/
def isAbsolute (path : String) : Bool := path.toList.head? = some '/'

/-- The path of something inside a directory. A path that is absolute stays what it is. -/
def join (directory name : String) : String :=
  if isAbsolute name || directory.isEmpty then name
  else if directory.toList.getLast? = some '/' then directory ++ name
  else directory ++ "/" ++ name

end Path

namespace FileTree

/-- Walks along components. `above` holds the directories that the walk has passed, the
nearest first. -/
def walk (above : List FileTree) (current : FileTree) : List String → Except FileError FileTree
  | [] => .ok current
  | component :: rest =>
    match current with
    | .file _ => .error .notADirectory
    | .directory entries =>
      if component = "." then walk above current rest
      else if component = ".." then
        match above with
        | [] => walk [] current rest
        | parent :: above => walk above parent rest
      else
        match entries.lookup component with
        | none => .error .notFound
        | some next => walk (current :: above) next rest

/-- The entries of a directory with a tree under a name, in place of what was there. -/
def putEntry (name : String) (t : FileTree) (entries : List (String × FileTree)) :
    List (String × FileTree) :=
  entries.filter (·.1 ≠ name) ++ [(name, t)]

/-- The tree with another one at the end of a path, and with the directories on the way. -/
def put (leaf : FileTree) : List String → FileTree → Except FileError FileTree
  | _, .file _ => .error .notADirectory
  | [], .directory entries =>
    match leaf with
    | .file _ => .error .isADirectory
    | .directory _ => .ok (.directory entries)
  | [name], .directory entries =>
    match leaf, entries.lookup name with
    | .file _, some (.directory _) => .error .isADirectory
    | .directory _, some (.directory _) => .ok (.directory entries)
    | .directory _, some (.file _) => .error .notADirectory
    | _, _ => .ok (.directory (putEntry name leaf entries))
  | name :: rest, .directory entries =>
    match put leaf rest ((entries.lookup name).getD (.directory [])) with
    | .ok t => .ok (.directory (putEntry name t entries))
    | .error e => .error e

/-- The tree with the directories that a walk enters on its way to the last of the components;
`way` are those that it has behind it. -/
def makeWay (way : List String) : List String → FileTree → Except FileError FileTree
  | [], t | [_], t => .ok t
  | component :: rest, t =>
    match put (.directory []) (Path.normalize (way ++ [component])) t with
    | .ok t => makeWay (way ++ [component]) rest t
    | .error e => .error e

/-- The tree without what stands at the end of a path. -/
def remove : List String → FileTree → FileTree
  | [name], .directory entries => .directory (entries.filter (·.1 ≠ name))
  | name :: rest, .directory entries =>
    match entries.lookup name with
    | some t => .directory (putEntry name (remove rest t) entries)
    | none => .directory entries
  | _, t => t

end FileTree

/-- A file system with a working directory, given by its components from the root. -/
structure Files where
  root : FileTree
  workingDirectory : List String

namespace Files

/-- A file system without any file. -/
def empty : Files := ⟨.directory [], []⟩

/-- The components of a path from the root. -/
def fullPath (files : Files) (path : String) : List String :=
  if Path.isAbsolute path then Path.components path
  else files.workingDirectory ++ Path.components path

/-- What stands at a path. -/
def find (files : Files) (path : String) : Except FileError FileTree :=
  if path.isEmpty then .error .notFound
  else files.root.walk [] (files.fullPath path)

/-- Whether a file stands at the path. -/
def isFile (files : Files) (path : String) : Bool :=
  match files.find path with
  | .ok (.file _) => true
  | _ => false

/-- Whether a directory stands at the path. -/
def isDirectory (files : Files) (path : String) : Bool :=
  match files.find path with
  | .ok (.directory _) => true
  | _ => false

/-- Whether anything stands at the path. -/
def contains (files : Files) (path : String) : Bool := (files.find path).isOk

/-- The text of a file. -/
def read (files : Files) (path : String) : Except FileError String :=
  match files.find path with
  | .error e => .error e
  | .ok (.directory _) => .error .isADirectory
  | .ok (.file content) =>
    match String.fromUTF8? content with
    | some text => .ok text
    | none => .error .notText

/-- The file system with a file or directory at a path, and the directories on the way to
it. -/
def put (files : Files) (path : String) (leaf : FileTree) : Except FileError Files :=
  if path.isEmpty then .error .notFound
  else
    match files.root.makeWay [] (files.fullPath path) with
    | .error e => .error e
    | .ok root =>
      match FileTree.put leaf (Path.normalize (files.fullPath path)) root with
      | .ok root => .ok { files with root }
      | .error e => .error e

/-- The file system with a text at a path. -/
def write (files : Files) (path text : String) : Except FileError Files :=
  files.put path (.file text.toUTF8)

/-- The file system without what stands at a path. -/
def remove (files : Files) (path : String) : Files :=
  { files with root := FileTree.remove (Path.normalize (files.fullPath path)) files.root }

end Files

end ModelRegistry
