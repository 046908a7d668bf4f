/-!
A tree of files and directories, as far as one program sees it. A path is the list of the names on
the way from the root, which is always a directory. A text that names a path may also step up and
stay in place; every step starts from a directory that is there.
-/

namespace Gamepad

abbrev Path := List String

namespace Path

def above (path : Path) : List Path := (List.range path.length).map path.take

end Path

inductive FileError
  | notFound
  | fileExists
  | notDirectory
  | isDirectory
  | invalidText
deriving DecidableEq, Repr

def FileError.message : FileError → String
  | notFound => "No such file or directory (os error 2)"
  | fileExists => "File exists (os error 17)"
  | notDirectory => "Not a directory (os error 20)"
  | isDirectory => "Is a directory (os error 21)"
  | invalidText => "stream did not contain valid UTF-8"

inductive FileNode
  | directory
  | file (content : ByteArray)

/-- The nodes that are not the root; of two nodes with one path the first is in force. -/
structure Files where
  nodes : List (Path × FileNode) := []

namespace Files

def node? (files : Files) (path : Path) : Option FileNode :=
  if path = [] then some .directory else files.nodes.lookup path

def put (files : Files) (path : Path) (node : FileNode) : Files :=
  { nodes := (path, node) :: files.nodes }

/-- Takes one step. A point and no name at all stay in place, and above the root is the root. -/
def step (files : Files) (path : Path) (name : String) : Except FileError Path :=
  match files.node? path with
  | none => .error .notFound
  | some (.file _) => .error .notDirectory
  | some .directory =>
    if name = "" ∨ name = "." then .ok path
    else if name = ".." then .ok path.dropLast
    else .ok (path ++ [name])

/-- Follows a text from the root, step by step between its slashes. Nothing needs to be there where
the last step ends. -/
def locate (files : Files) (text : String) : Except FileError Path :=
  ((text.toList.splitOn '/').map String.ofList).foldlM files.step []

def obstacle? (files : Files) (path : Path) : Option FileError :=
  path.above.findSome? fun directory =>
    match files.node? directory with
    | some .directory => none
    | some (.file _) => some .notDirectory
    | none => some .notFound

def contains (files : Files) (path : Path) : Bool :=
  (files.obstacle? path).isNone && (files.node? path).isSome

def read (files : Files) (path : Path) : Except FileError ByteArray :=
  match files.obstacle? path, files.node? path with
  | some error, _ => .error error
  | none, some (.file content) => .ok content
  | none, some .directory => .error .isDirectory
  | none, none => .error .notFound

def readText (files : Files) (path : Path) : Except FileError String := do
  let content ← files.read path
  match String.fromUTF8? content with
  | some text => return text
  | none => throw .invalidText

def write (files : Files) (path : Path) (content : ByteArray) : Except FileError Files :=
  match files.obstacle? path, files.node? path with
  | some error, _ => .error error
  | none, some .directory => .error .isDirectory
  | none, _ => .ok (files.put path (.file content))

def createDirectories (files : Files) (path : Path) : Except FileError Files :=
  (path.above ++ [path]).foldlM
    (fun files directory =>
      match files.node? directory with
      | some .directory => .ok files
      | some (.file _) => .error (if directory = path then .fileExists else .notDirectory)
      | none => .ok (files.put directory .directory))
    files

end Files

end Gamepad
