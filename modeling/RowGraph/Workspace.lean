import RowGraph.Host

/-!
Files as a value: the folders and files below a root, and the folder that paths
start from. A workspace answers the requests of a run like a system does, so
what a run finds in its files and leaves in them can be computed and reasoned
about.
-/

namespace RowGraph

/-- The names of the folders on the way from the root, and of what lies at the
end. -/
abbrev Path := List String

inductive FileContent where
  | text (text : String)
  | database (database : Database)

inductive Place where
  | nothing
  | folder
  | file (content : FileContent)

structure Workspace where
  /-- The folder that paths start from. -/
  here : Path
  /-- Folders that need no file in them to be there. -/
  folders : List Path
  files : List (Path × FileContent)

namespace Workspace

def split (path : String) : List String :=
  (path.toList.splitOn '/').map String.ofList

/-- Whether a part of a path leaves the walker where it is. -/
def isIdle (part : String) : Bool :=
  part == "" || part == "."

def start (w : Workspace) (path : String) : Path :=
  if path.toList.head? == some '/' then [] else w.here

def place (w : Workspace) (path : Path) : Place :=
  match w.files.lookup path with
  | some content => .file content
  | none =>
    let known := [] :: w.here :: w.folders ++ w.files.map fun (file, _) => file.dropLast
    if known.any path.isPrefixOf then .folder else .nothing

def isFolder (w : Workspace) (path : Path) : Bool :=
  match w.place path with
  | .folder => true
  | _ => false

def enter (w : Workspace) (folder : Path) (part : String) : Except FileFault Path :=
  match w.place folder with
  | .nothing => .error .missing
  | .file _ => .error .notFolder
  | .folder =>
    .ok (if isIdle part then folder else if part = ".." then folder.dropLast else folder ++ [part])

def walk (w : Workspace) (folder : Path) (parts : List String) : Except FileFault Path :=
  parts.foldlM w.enter folder

def put (w : Workspace) (path : Path) (content : FileContent) : Workspace :=
  { w with files := (path, content) :: w.files.filter fun (other, _) => other != path }

/-- The path that a written path names if every `..` takes back the part before
it, whether or not that part is there. -/
def pathOf (w : Workspace) (path : String) : Path :=
  (split path).foldl (fun found part =>
    if isIdle part then found else if part = ".." then found.dropLast else found ++ [part])
    (w.start path)

def add (w : Workspace) (path : String) (content : FileContent) : Workspace :=
  w.put (w.pathOf path) content

def readText (w : Workspace) (path : String) : Except FileFault String :=
  match w.walk (w.start path) (split path) with
  | .error fault => .error fault
  | .ok found =>
    match w.place found with
    | .nothing => .error .missing
    | .folder => .error .isFolder
    | .file (.text text) => .ok text
    | .file (.database _) => .error .notText

/-- The database in a file, and the workspace with that file. A file that holds
no tables is an empty database. The path of a database is taken as it is
written: a part that `..` takes back need not be there. -/
def openDatabase? (w : Workspace) (path : String) : Option (Database × Workspace) :=
  let found := w.pathOf path
  if !w.isFolder found.dropLast then none
  else match w.place found with
    | .folder => none
    | .file (.database database) => some (database, w)
    | .file (.text _) => some (.empty, w)
    | .nothing => some (.empty, w.put found (.database .empty))

def saveDatabase (w : Workspace) (path : String) (database : Database) : Workspace :=
  w.add path (.database database)

/-- A workspace with the folders that parts of a path name one after another;
none is made where something else is in the way. -/
def makeFolders (w : Workspace) (folder : Path) : List String → Workspace
  | [] => w
  | part :: rest =>
    match w.enter folder part with
    | .error _ => w
    | .ok found =>
      match w.place found with
      | .file _ => w
      | .folder => w.makeFolders found rest
      | .nothing => { w with folders := found :: w.folders }.makeFolders found rest

def writable (w : Workspace) (path : String) : Except FileFault Path := do
  let parts := split path
  let folder ← w.walk (w.start path) parts.dropLast
  let last := parts.getLastD ""
  let found ← w.enter folder last
  if isIdle last || last == ".." then throw .isFolder
  match w.place found with
  | .folder => throw .isFolder
  | _ => return found

/-- Makes the folders on the way to a file, and the file if it is not there. -/
def openLog (w : Workspace) (path : String) : Option FileFault × Workspace :=
  let parts := (split path).filter fun part => !isIdle part
  let w := w.makeFolders (w.start path) parts.dropLast
  match w.writable path with
  | .error fault => (some fault, w)
  | .ok found =>
    match w.place found with
    | .nothing => (none, w.put found (.text ""))
    | _ => (none, w)

def appendLog (w : Workspace) (path : String) (lines : List String) : Workspace :=
  match w.writable path with
  | .error _ => w
  | .ok found =>
    match w.place found with
    | .file (.text text) =>
      w.put found (.text (text ++ String.join (lines.map fun line => line ++ "\n")))
    | _ => w

def host : Host (StateM Workspace) where
  readText path := fun w => (w.readText path, w)
  openDatabase? path := fun w =>
    match w.openDatabase? path with
    | some (database, w) => (some database, w)
    | none => (none, w)
  saveDatabase path database := fun w => ((), w.saveDatabase path database)
  openLog path := fun w => w.openLog path
  appendLog path lines := fun w => ((), w.appendLog path lines)

end Workspace

end RowGraph
