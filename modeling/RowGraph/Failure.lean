import RowGraph.Fault
import RowGraph.Host
import RowGraph.Settings
import RowGraph.Text.Column

/-!
Why a command comes to nothing, as a chain of causes: what the command was
about to do, and below it what kept it from doing so. A chain ends early where
a cause lies inside the database or the document language, whose own words are
not this library's to choose.
-/

namespace RowGraph

inductive Cause where
  | said (text : String)
  /-- A cause inside the database. -/
  | database
  /-- A cause inside the text of a document. -/
  | document
deriving DecidableEq

def Cause.text : Cause → String
  | .said text => text
  | .database => "database error"
  | .document => "TOML parse error"

inductive Failure where
  | unreadSettings (path : String) (fault : FileFault)
  | invalidSettings (path : String) (fault : SettingsFault)
  | closedDatabase (path : String)
  | closedLog (path : String) (fault : FileFault)
  | unregistered (table : String) (fault : Fault)
  | raised (fault : Fault)
  | refused (problem : StoreFault)
  /-- The graph has an address of a kind that is not known. -/
  | unsupportedScheme (scheme : String)
  /-- The graph does not answer. -/
  | unreachable (uri : String)
deriving DecidableEq

def StoreFault.causes (problem : StoreFault) : List Cause :=
  .said problem.message :: if problem.fromEngine then [.database] else []

def Fault.causes (fault : Fault) : List Cause :=
  .said fault.message ::
    match fault with
    | .pattern _ _ problem => [.said problem.message]
    | .source _ problem | .sink _ _ _ problem => problem.causes
    | _ => []

def SettingsFault.causes (fault : SettingsFault) : List Cause :=
  match fault.message? with
  | some message => [.said message]
  | none => [.document]

namespace Failure

/-- The causes of a failure, outermost first. -/
def causes : Failure → List Cause
  | unreadSettings path fault =>
    [.said ("Failed to read config file " ++ path), .said fault.message]
  | invalidSettings path fault => .said ("Invalid config file " ++ path) :: fault.causes
  | closedDatabase path => [.said ("Failed to open database " ++ path), .database]
  | closedLog path fault => [.said ("Failed to open log file " ++ path), .said fault.message]
  | unregistered table fault =>
    .said ("Failed to register table '" ++ table ++ "'") :: fault.causes
  | raised fault => fault.causes
  | refused problem => problem.causes
  | unsupportedScheme scheme =>
    [.said "Failed to create Neo4j connection pool",
      .said ("Unsupported URI scheme: " ++ scheme)]
  | unreachable uri => [.said ("Timed out connecting to Neo4j at " ++ uri)]

/-- A line and the lines after it, each behind its indentation. -/
def indented (first later : String) (text : String) : List String :=
  match (text.toList.splitOn '\n').map String.ofList with
  | [] => [first]
  | line :: rest => (first ++ line) :: rest.map (later ++ ·)

/-- The lines of the causes below the outermost; several are numbered. -/
def causeLines : List String → List String
  | [text] => indented "    " "    " text
  | texts => texts.zipIdx.flatMap fun (text, place) =>
    indented (Text.padLeft 5 (toString place) ++ ": ") "       " text

def lines (failure : Failure) : List String :=
  match failure.causes.map Cause.text with
  | [] => []
  | [text] => indented "Error: " "" text
  | text :: rest => indented "Error: " "" text ++ "" :: "Caused by:" :: causeLines rest

end Failure

end RowGraph
