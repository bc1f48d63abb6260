import RowGraph.Program
import RowGraph.Store.Archive
import RowGraph.Workspace

/-!
The program on real files. Databases are kept as archives; everything else is
as the library says.
-/

namespace RowGraph.System

def faultOf : IO.Error → FileFault
  | .noFileOrDirectory .. => .missing
  | problem => .stated (toString problem)

def readFileText (path : String) : IO (Except FileFault String) := do
  try
    let bytes ← IO.FS.readBinFile path
    match String.fromUTF8? bytes with
    | some text => return .ok text
    | none => return .error .notText
  catch problem => return .error (faultOf problem)

/-- The database in a file, which is made if there is none. -/
def openArchive (path : String) : IO (Option Database) := do
  match ← readFileText path with
  | .ok text => return Database.restore? text
  | .error .missing =>
    try
      IO.FS.writeFile path ""
      return some .empty
    catch _ => return none
  | .error _ => return none

def folderOf (path : String) : String :=
  String.intercalate "/" (Workspace.split path).dropLast

def openEnd (path : String) : IO (Option FileFault) := do
  let folder := folderOf path
  if !folder.isEmpty then
    try IO.FS.createDirAll folder catch _ => pure ()
  try
    let _ ← IO.FS.Handle.mk path .append
    return none
  catch problem => return some (faultOf problem)

def writeEnd (path : String) (lines : List String) : IO Unit := do
  let handle ← IO.FS.Handle.mk path .append
  handle.putStr (Display.printed lines)

def host : Host IO where
  readText := readFileText
  openDatabase? := openArchive
  saveDatabase path database := IO.FS.writeFile path database.archive
  openLog := openEnd
  appendLog := writeEnd

def readEnvironment : IO (String → Option String) := do
  let names := CommandLine.configVariable :: Settings.variableNames
  let found ← names.mapM fun name => do return (name, ← IO.getEnv name)
  return fun name => (found.lookup name).join

/-- Runs the program on the words of a command line and answers its number. -/
def run (words : List String) : IO UInt32 := do
  let env ← readEnvironment
  let filter ← IO.getEnv Program.filterVariable
  let finish ← Program.run host .plain env filter words
  IO.print finish.output
  for note in finish.notes do
    IO.eprintln note
  return UInt32.ofNat finish.exit

end RowGraph.System

def main (words : List String) : IO UInt32 :=
  RowGraph.System.run words
