import RowGraph.Pattern
import RowGraph.Row
import RowGraph.Schema

/-!
What can go wrong between a table and the graph. Every fault names the table
that it was raised for; a fault of one row also carries the key that points at
the row, so that a failed run can be mended row by row.
-/

namespace RowGraph

/-- Why a store refused a request, as far as its user is told. -/
inductive StoreFault where
  /-- A name that the store does not quote. -/
  | invalidIdentifier (name : String)
  | scanFailed (table : String)
  | lookupFailed (table : String)
  | queryFailed
  | noSuchTable (table : String)
  /-- A scan that ended after a number of rows. -/
  | scanBroke (rows : Nat)
  | cannotRun (query : String)
  /-- A reason given by the other side. -/
  | stated (reason : String)
deriving DecidableEq

def StoreFault.message : StoreFault → String
  | .invalidIdentifier name => "Invalid identifier: " ++ name
  | .scanFailed table => "Failed to scan table '" ++ table ++ "'"
  | .lookupFailed table => "Failed to look up row in '" ++ table ++ "'"
  | .queryFailed => "Query passthrough failed"
  | .noSuchTable table => "no such table: " ++ table
  | .scanBroke rows => "stream broke after " ++ toString rows
  | .cannotRun query => "cannot run: " ++ query
  | .stated reason => reason

/-- Whether a fault has a cause of its own inside the database engine. -/
def StoreFault.fromEngine : StoreFault → Bool
  | .scanFailed _ | .lookupFailed _ | .queryFailed => true
  | _ => false

inductive SchemaProblem where
  | missing
  | noPrimaryKey
  | reservedAlias (column : String)
  | aliasClash (first second : String)
  | stated (reason : String)
deriving DecidableEq

def SchemaProblem.message : SchemaProblem → String
  | .missing => "table does not exist"
  | .noPrimaryKey => "no primary key declared"
  | .reservedAlias column =>
    "foreign key column '" ++ column ++ "' derives the reserved alias '" ++ Pattern.own ++ "'"
  | .aliasClash first second =>
    "foreign key columns '" ++ first ++ "' and '" ++ second ++ "' both derive alias '" ++
      aliasOf second ++ "'"
  | .stated reason => reason

inductive RegistrationProblem where
  | badName
  | noLabels
  | noProperties
  | stated (reason : String)
deriving DecidableEq

def RegistrationProblem.message : RegistrationProblem → String
  | .badName => "table name must match [A-Za-z_][A-Za-z0-9_]*"
  | .noLabels => "missing labels mapping"
  | .noProperties => "missing properties mapping"
  | .stated reason => reason

inductive AliasProblem where
  | sameEnds
  | unknown
  | unregistered (table : String)
  | uncovered (table column : String)
  | stated (reason : String)
deriving DecidableEq

def AliasProblem.message : AliasProblem → String
  | .sameEnds => "both endpoints use the same alias"
  | .unknown => "not 'this' and not a declared foreign key"
  | .unregistered table => "referenced table '" ++ table ++ "' is not registered"
  | .uncovered table column =>
    "its foreign key does not cover '" ++ table ++ "." ++ column ++ "'"
  | .stated reason => reason

/-- A failed step between a table and the graph. -/
inductive Fault where
  | schema (table : String) (problem : SchemaProblem)
  | registration (table : String) (problem : RegistrationProblem)
  | duplicateTable (table : String)
  | unknownTable (table : String) (key : RowKey)
  | pattern (table : String) (key : RowKey) (problem : Pattern.Malformed)
  | badAlias (table name : String) (key : RowKey) (problem : AliasProblem)
  | noLabels (table : String) (key : RowKey)
  | missingColumn (table column : String) (key : RowKey)
  | source (table : String) (problem : StoreFault)
  | sink (table : String) (key : RowKey) (statement : String) (problem : StoreFault)
deriving DecidableEq

namespace Fault

def table : Fault → String
  | schema table _ | registration table _ | duplicateTable table | unknownTable table _
  | pattern table _ _ | badAlias table _ _ _ | noLabels table _ | missingColumn table _ _
  | source table _ | sink table _ _ _ => table

/-- The key of the row that a fault is about, if it is about one. -/
def key? : Fault → Option RowKey
  | unknownTable _ key | pattern _ key _ | badAlias _ _ key _ | noLabels _ key
  | missingColumn _ _ key | sink _ key _ _ => some key
  | schema _ _ | registration _ _ | duplicateTable _ | source _ _ => none

def rowNote (key : RowKey) : String :=
  " (row: " ++ key.text ++ ")"

def message : Fault → String
  | schema table problem =>
    "Schema error for table '" ++ table ++ "': " ++ problem.message
  | registration table problem =>
    "Invalid registration for table '" ++ table ++ "': " ++ problem.message
  | duplicateTable table => "Table already registered: " ++ table
  | unknownTable table key => "Table not registered: " ++ table ++ rowNote key
  | pattern table key problem =>
    "Invalid relationship pattern on table '" ++ table ++ "'" ++ rowNote key ++ ": " ++
      problem.message
  | badAlias table name key problem =>
    "Invalid alias '" ++ name ++ "' on table '" ++ table ++ "'" ++ rowNote key ++ ": " ++
      problem.message
  | noLabels table key => "Table '" ++ table ++ "' produced no labels" ++ rowNote key
  | missingColumn table column key =>
    "Column '" ++ column ++ "' missing from row of table '" ++ table ++ "'" ++ rowNote key
  | source table problem =>
    "Relational store error on table '" ++ table ++ "': " ++ problem.message
  | sink table key _ problem =>
    "Graph store error on table '" ++ table ++ "'" ++ rowNote key ++ ": " ++ problem.message

end Fault

end RowGraph
