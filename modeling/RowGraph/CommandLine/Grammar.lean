/-!
What the command line may say: the subcommands, the options of each, and the
argument that some of them need. Three options and the two that ask for help
or the version belong to every level of the command line.
-/

namespace RowGraph.CommandLine

inductive Subcommand where
  | sync
  | preview
  | query
  | inspect
  | status
deriving DecidableEq

/-- An option; those with a value name take a value. -/
inductive Switch where
  | dryRun
  | concurrency
  | collectErrors
  | limit
  | json
  | verbose
  | config
  | log
  | help
  | version
deriving DecidableEq

namespace Switch

def long : Switch → String
  | dryRun => "dry-run"
  | concurrency => "concurrency"
  | collectErrors => "collect-errors"
  | limit => "limit"
  | json => "json"
  | verbose => "verbose"
  | config => "config"
  | log => "log"
  | help => "help"
  | version => "version"

def short? : Switch → Option Char
  | limit => some 'l'
  | verbose => some 'v'
  | config => some 'c'
  | help => some 'h'
  | version => some 'V'
  | _ => none

def valueName? : Switch → Option String
  | concurrency => some "CONCURRENCY"
  | limit => some "LIMIT"
  | config => some "CONFIG"
  | log => some "LOG"
  | _ => none

def takesValue (switch : Switch) : Bool :=
  switch.valueName?.isSome

def purpose : Switch → String
  | dryRun => "Generate statements without sending them to Neo4j"
  | concurrency => "Statements in flight per table"
  | collectErrors => "Record failed rows and keep going"
  | limit => "Only read the first N rows"
  | json => "Print rows as JSON"
  | verbose => "Enable verbose output"
  | config => "Mapping config file"
  | log => "Also write logs to this file"
  | help => "Print help"
  | version => "Print version"

/-- The options that may stand at every level. -/
def everywhere : List Switch :=
  [verbose, config, log, help, version]

end Switch

namespace Subcommand

def all : List Subcommand :=
  [sync, preview, query, inspect, status]

def name : Subcommand → String
  | sync => "sync"
  | preview => "preview"
  | query => "query"
  | inspect => "inspect"
  | status => "status"

def ofName? (text : String) : Option Subcommand :=
  all.find? fun command => command.name == text

def purpose : Subcommand → String
  | sync => "Load every configured table: all nodes, then all relationships"
  | preview => "Print the statements one table would produce, without running them"
  | query => "Run SQL against the relational database"
  | inspect => "Show the keys discovered for a table"
  | status => "Show graph node and relationship counts"

def ownSwitches : Subcommand → List Switch
  | sync => [.dryRun, .concurrency, .collectErrors]
  | preview => [.limit]
  | query => [.json]
  | inspect | status => []

def argument? : Subcommand → Option (String × String)
  | preview => some ("TABLE", "Registered table name")
  | query => some ("SQL", "SQL text")
  | inspect => some ("TABLE", "Table name")
  | sync | status => none

end Subcommand

/-- A level of the command line: before a subcommand, or after it. -/
abbrev Level := Option Subcommand

def switches : Level → List Switch
  | none => Switch.everywhere
  | some command => command.ownSwitches ++ Switch.everywhere

def program : String := "graphsync"

def versionNumber : String := "0.3.0"

def programPurpose : String := "Load relational tables into a Neo4j property graph"

/-- The variable that stands for the option of the mapping file. -/
def configVariable : String := "GRAPHSYNC_CONFIG"

def standardConfig : String := "graphsync.toml"

end RowGraph.CommandLine
