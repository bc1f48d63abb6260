import RowGraph.Address
import RowGraph.CommandLine.Reader
import RowGraph.Display.Grid
import RowGraph.Display.Json
import RowGraph.Display.Overview
import RowGraph.Display.Summary
import RowGraph.Engine
import RowGraph.Failure
import RowGraph.Store.Catalog
import RowGraph.Store.Script.Reader

/-!
What each command does. A command is a function of the settings and of the
database; all that it needs of the system besides is the text of the settings
and the database itself, which are fetched first and in this order.

The graph is never reached from here. A command that needs it tells why it
cannot go on, by the address of the graph.
-/

namespace RowGraph

/-- What a command comes to: the lines it shows, what there is to log, and why
it failed if it did. -/
structure Outcome where
  lines : List String
  entries : List Log.Entry
  failure : Option Failure

def Outcome.failed (failure : Failure) : Outcome :=
  ⟨[], [], some failure⟩

def Outcome.after (lines : List String) (outcome : Outcome) : Outcome :=
  { outcome with lines := lines ++ outcome.lines }

def Engine.outcome (engine : Engine) (lines : List String) (failure : Option Failure) : Outcome :=
  ⟨lines, engine.transcript.entries.toList, failure⟩

namespace Session

open Display

/-- Registers the tables of mappings in order, up to the first that fails. -/
def registerAll (catalog : Catalog) (engine : Engine) : List TableMapping → Engine × Option Failure
  | [] => (engine, none)
  | mapping :: rest =>
    match engine.register catalog mapping.toSpec with
    | (engine, .error fault) => (engine, some (.unregistered mapping.name fault))
    | (engine, .ok _) => registerAll catalog engine rest

def registeredEntry (tables : Nat) : Log.Entry :=
  ⟨.info, "graphsync::commands", "Registered tables", [("tables", .count tables)]⟩

/-- An engine in which every table of the settings is registered, if all of
them can be. -/
def engineFor (settings : Settings) (database : Database) : Engine × Option Failure :=
  match registerAll database.catalog (.new settings.load) settings.tables with
  | (engine, some failure) => (engine, some failure)
  | (engine, none) =>
    let transcript := engine.transcript.log (registeredEntry engine.registry.size)
    ({ engine with transcript }, none)

def previewLines (ink : Ink) (table : String) (statements : List String) : List String :=
  (ink.paint .bold "Preview of" ++ " " ++ ink.paint .cyan table) :: rule 50 ::
    statementLines ink statements

def preview (ink : Ink) (settings : Settings) (table : String) (limit : Option Nat)
    (database : Database) : Outcome :=
  match engineFor settings database with
  | (engine, some failure) => engine.outcome [] (some failure)
  | (engine, none) =>
    match engine.preview database.scan table limit with
    | (engine, .error fault) => engine.outcome [] (some (.raised fault))
    | (engine, .ok statements) => engine.outcome (previewLines ink table statements) none

def acceptAll : Sink := fun _ _ => none

/-- A load without a graph, its statements and its report. -/
def dryRun (ink : Ink) (settings : Settings) (options : LoadOptions) (database : Database) :
    Outcome :=
  match engineFor settings database with
  | (engine, some failure) => engine.outcome [] (some failure)
  | (engine, none) =>
    match engine.load database.scan acceptAll options with
    | (engine, .error fault) => engine.outcome [] (some (.raised fault))
    | (engine, .ok report) =>
      let (engine, statements) := engine.take
      engine.outcome (statementLines ink statements ++ reportLines ink report) none

def inspect (ink : Ink) (table : String) (database : Database) : Outcome :=
  match database.catalog table with
  | (entries, .error fault) => ⟨[], entries, some (.raised fault)⟩
  | (entries, .ok schema) => ⟨schemaLines ink schema, entries, none⟩

def query (ink : Ink) (sql : String) (json : Bool) (database : Database) : Outcome × Database :=
  match database.query (Script.read sql) with
  | (.error problem, after) => (.failed (.refused problem), after)
  | (.ok rows, after) => (⟨if json then [jsonRows rows] else rowLines ink rows, [], none⟩, after)

/-- Why the graph at an address cannot be reached. -/
def unreached (uri : String) : Failure :=
  match Address.foreignScheme? uri with
  | some scheme => .unsupportedScheme scheme
  | none => .unreachable uri

def loadOptions (settings : Settings) (concurrency : Option Nat) (collectErrors : Bool) :
    LoadOptions where
  concurrency := concurrency.getD settings.load.concurrency
  errorMode := if collectErrors then .collect else settings.load.errorMode

/-- Whether a path names no file but a database that is forgotten after the
run. -/
def isTransient (path : String) : Bool :=
  path == "" || path == ":memory:"

/-- Work on the database at a path. The database after the work is kept if the
work returns one. -/
def withDatabase {m : Type → Type} [Monad m] (host : Host m) (path : String)
    (work : Database → Outcome × Option Database) : m Outcome := do
  if isTransient path then return (work .empty).1
  match ← host.openDatabase? path with
  | none => return .failed (.closedDatabase path)
  | some database =>
    let (outcome, after) := work database
    if let some after := after then
      host.saveDatabase path after
    return outcome

def perform {m : Type → Type} [Monad m] (host : Host m) (ink : Ink) (settings : Settings)
    (command : CommandLine.Command) : m Outcome :=
  let reading (work : Database → Outcome) : m Outcome :=
    withDatabase host settings.database fun database => (work database, none)
  match command with
  | .sync true concurrency collectErrors => do
    let outcome ← reading (dryRun ink settings (loadOptions settings concurrency collectErrors))
    return outcome.after [ink.paint .dim "Dry run: statements are printed, not executed."]
  | .sync false _ _ =>
    let outcome := Outcome.failed (unreached settings.graph.uri)
    return outcome.after [ink.paint .bold "Syncing to Neo4j..."]
  | .status =>
    let outcome := Outcome.failed (unreached settings.graph.uri)
    return outcome.after [ink.paint .bold "Graph Status", rule 40]
  | .preview table limit => reading (preview ink settings table limit)
  | .inspect table => reading (inspect ink table)
  | .query sql json =>
    withDatabase host settings.database fun database =>
      let (outcome, after) := query ink sql json database
      (outcome, some after)

def run {m : Type → Type} [Monad m] (host : Host m) (ink : Ink) (env : String → Option String)
    (invocation : CommandLine.Invocation) : m Outcome := do
  match ← host.readText invocation.config with
  | .error fault => return .failed (.unreadSettings invocation.config fault)
  | .ok text =>
    match Settings.read text with
    | .error fault => return .failed (.invalidSettings invocation.config fault)
    | .ok settings => perform host ink (settings.override env) invocation.command

end Session

end RowGraph
