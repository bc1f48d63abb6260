import RowGraph.Store.Database

/-!
What a run needs of the system it runs on: files to read, databases to open and
keep, and a log file to write to. A host answers these requests in a monad of
its own choice, so that a run can be carried out on real files or on a value
that stands for them.
-/

namespace RowGraph

inductive FileFault where
  | missing
  /-- A part of the path before the last is no folder. -/
  | notFolder
  | isFolder
  /-- The bytes of the file are no text. -/
  | notText
  /-- A reason in the words of the system. -/
  | stated (reason : String)
deriving DecidableEq

def FileFault.message : FileFault → String
  | .missing => "No such file or directory (os error 2)"
  | .notFolder => "Not a directory (os error 20)"
  | .isFolder => "Is a directory (os error 21)"
  | .notText => "stream did not contain valid UTF-8"
  | .stated reason => reason

/-- The requests of a run, each answered in `m`. -/
structure Host (m : Type → Type) where
  /-- The text of a file. -/
  readText : String → m (Except FileFault String)
  /-- The database in a file, which is made if there is none. -/
  openDatabase? : String → m (Option Database)
  /-- Keeps a database in a file that has been opened. -/
  saveDatabase : String → Database → m Unit
  /-- Makes sure that a file can be written to at its end, and makes the
  folders on the way to it; or says why it cannot. -/
  openLog : String → m (Option FileFault)
  /-- Adds lines to a file that has been opened for them. -/
  appendLog : String → List String → m Unit

end RowGraph
