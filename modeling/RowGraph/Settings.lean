import RowGraph.Document.Reader
import RowGraph.Load
import RowGraph.Mapping

/-!
The settings of a run: which database, which graph, how to load, and the
mappings of the tables. Everything has a standard value; a document replaces
what it mentions, and the environment what it names.
-/

namespace RowGraph

def ErrorMode.ofName? : String → Option ErrorMode
  | "fail-fast" => some .failFast
  | "collect" => some .collect
  | _ => none

/-- A mode is its name, or a record with nothing under its name. -/
def ErrorMode.ofTree? : Tree → Option ErrorMode
  | .text name => ErrorMode.ofName? name
  | .record [(name, .record [])] | .record [(name, .list [])] => ErrorMode.ofName? name
  | _ => none

/-- The load options that a tree describes; what it does not mention is
standard. -/
def LoadOptions.ofTree? (tree : Tree) : Option LoadOptions := do
  let standard := LoadOptions.standard
  let part ← tree.parts? ["concurrency", "error_mode"]
  let concurrency ← Tree.partOr Tree.natural? standard.concurrency (part "concurrency")
  let errorMode ← Tree.partOr ErrorMode.ofTree? standard.errorMode (part "error_mode")
  return { concurrency, errorMode }

structure GraphSettings where
  uri : String
  user : String
  password : String
  database : String
  maxConnections : Nat
  fetchSize : Nat
deriving DecidableEq

namespace GraphSettings

def standard : GraphSettings where
  uri := "bolt://localhost:7687"
  user := "neo4j"
  password := "neo4j"
  database := "neo4j"
  maxConnections := 8
  fetchSize := 200

def ofTree? (tree : Tree) : Option GraphSettings := do
  let part ← tree.parts? ["uri", "user", "password", "db", "max_connections", "fetch_size"]
  let text (name standard : String) : Option String :=
    Tree.partOr Tree.text? standard (part name)
  let count (name : String) (standard : Nat) : Option Nat :=
    Tree.partOr Tree.natural? standard (part name)
  return {
    uri := ← text "uri" standard.uri
    user := ← text "user" standard.user
    password := ← text "password" standard.password
    database := ← text "db" standard.database
    maxConnections := ← count "max_connections" standard.maxConnections
    fetchSize := ← count "fetch_size" standard.fetchSize }

end GraphSettings

structure Settings where
  /-- The path of the database. -/
  database : String
  graph : GraphSettings
  /-- Seconds to wait for the graph; 0 stands for the standard time. -/
  connectTimeout : Nat
  load : LoadOptions
  tables : List TableMapping

inductive SettingsFault where
  /-- It is no document, or a part of it is not what it should be. -/
  | unreadable
  /-- A table has no labels of its own. -/
  | unlabelled (table : String)
deriving DecidableEq

/-- The message of a fault, where it is for this library to say. -/
def SettingsFault.message? : SettingsFault → Option String
  | .unreadable => none
  | .unlabelled table => some <|
    "Table '" ++ table ++ "' needs at least one entry in labels; label_column only adds to them"

namespace Settings

def standard : Settings where
  database := "graphsync.db"
  graph := .standard
  connectTimeout := 0
  load := .standard
  tables := []

def databaseOfTree? (tree : Tree) : Option String := do
  let part ← tree.parts? ["path"]
  Tree.partOr Tree.text? standard.database (part "path")

def ofTree? (tree : Tree) : Option Settings := do
  let part ← tree.parts? ["database", "neo4j", "connect_timeout_secs", "sync", "tables"]
  let mappings (items : Tree) : Option (List TableMapping) :=
    items.list?.bind fun items => items.mapM TableMapping.ofTree?
  return {
    database := ← Tree.partOr databaseOfTree? standard.database (part "database")
    graph := ← Tree.partOr GraphSettings.ofTree? .standard (part "neo4j")
    connectTimeout :=
      ← Tree.partOr Tree.natural? standard.connectTimeout (part "connect_timeout_secs")
    load := ← Tree.partOr LoadOptions.ofTree? .standard (part "sync")
    tables := ← Tree.partOr mappings [] (part "tables") }

/-- The settings of a document. The row at the far end of a relationship is
known by its key alone, so a table that others refer to needs labels that do
not depend on a column; every table is held to that. -/
def read (text : String) : Except SettingsFault Settings :=
  match (Document.read? text).bind ofTree? with
  | none => .error .unreadable
  | some settings =>
    match settings.tables.find? fun mapping => mapping.labels.isEmpty with
    | some mapping => .error (.unlabelled mapping.name)
    | none => .ok settings

def variableNames : List String :=
  ["GRAPHSYNC_DB", "NEO4J_URI", "NEO4J_USER", "NEO4J_PASSWORD", "NEO4J_DB"]

def override (settings : Settings) (env : String → Option String) : Settings :=
  { settings with
    database := (env "GRAPHSYNC_DB").getD settings.database
    graph := { settings.graph with
      uri := (env "NEO4J_URI").getD settings.graph.uri
      user := (env "NEO4J_USER").getD settings.graph.user
      password := (env "NEO4J_PASSWORD").getD settings.graph.password
      database := (env "NEO4J_DB").getD settings.graph.database } }

/-- Seconds to wait for the graph. -/
def timeout (settings : Settings) : Nat :=
  if settings.connectTimeout = 0 then 10 else settings.connectTimeout

/-- The tables of settings that have been read all have labels. -/
theorem labels_ne_nil_of_read {text : String} {settings : Settings}
    (h : read text = .ok settings) : ∀ mapping ∈ settings.tables, mapping.labels ≠ [] := by
  unfold read at h
  split at h
  · contradiction
  · split at h
    · contradiction
    · rename_i absent
      cases h
      intro mapping member empty
      have := List.find?_eq_none.mp absent mapping member
      simp [empty] at this

end Settings

end RowGraph
