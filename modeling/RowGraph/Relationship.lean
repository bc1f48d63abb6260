import RowGraph.Node

/-!
The relationships of a row. A pattern names two aliases. `this` is the row
itself, found by its primary key. Any other alias is a foreign key of the
table and stands for the row it refers to, found by the primary key of the
referenced table with values taken from the columns of the same constraint.

Every value is made to fit the column that it is compared with, so that a text
column that holds keys of an integer column still finds them. A null in a
column of the constraint that the key needs means that there is nothing to
link. The patterns of a row do not affect each other.
-/

namespace RowGraph

open Cypher (Endpoint EdgeStatement)

/-- The value of a column that has to be there. -/
def TableDefinition.require (definition : TableDefinition) (row : Row) (column : String) :
    Except Fault Value :=
  match row.get? column with
  | some value => .ok value
  | none => .error (.missingColumn definition.table column (definition.rowKey row))

def TableDefinition.badAlias (definition : TableDefinition) (row : Row) (name : String)
    (problem : AliasProblem) : Fault :=
  .badAlias definition.table name (definition.rowKey row) problem

/-- The given key columns of a row with their values, each made to fit its
column. -/
def TableDefinition.ownKey (definition : TableDefinition) (row : Row) :
    List String → Except Fault (List (String × Value))
  | [] => .ok []
  | column :: rest =>
    match definition.require row column with
    | .error fault => .error fault
    | .ok value =>
      match definition.ownKey row rest with
      | .error fault => .error fault
      | .ok pairs => .ok ((column, value.fit (definition.columnType? column)) :: pairs)

def TableDefinition.ownEndpoint (definition : TableDefinition) (row : Row) :
    Except Fault Endpoint :=
  let labels := definition.labels row
  if labels.isEmpty then .error (.noLabels definition.table (definition.rowKey row))
  else match definition.ownKey row definition.primaryKey with
    | .error fault => .error fault
    | .ok pairs => .ok ⟨Pattern.own, labels, pairs⟩

/-- The foreign key of the same constraint that refers to a column. -/
def TableDefinition.paired? (definition : TableDefinition) (fk : ForeignKey)
    (column : String) : Option ForeignKey :=
  if column = fk.foreignColumn then some fk
  else definition.foreignKeys.find? fun other =>
    other.constraint == fk.constraint && other.foreignColumn == column

/-- The key of the row that a foreign key refers to, for the given columns of
the referenced table's primary key, added to those that are already known.
Nothing if one of the values is null. -/
def TableDefinition.foreignKeyRow (definition : TableDefinition) (row : Row)
    (fk : ForeignKey) (foreign : TableDefinition) :
    List String → Row → Except Fault (Option Row)
  | [], known => .ok (some known)
  | column :: rest, known =>
    match definition.paired? fk column with
    | none => .error (definition.badAlias row fk.alias (.uncovered fk.foreignTable column))
    | some own =>
      match definition.require row own.column with
      | .error fault => .error fault
      | .ok value =>
        if value.isNull then .ok none
        else definition.foreignKeyRow row fk foreign rest
          (known.insert column (value.fit (foreign.columnType? column)))

/-- The row that a foreign key refers to as an end of a relationship. Its
labels are those that the referenced table gives to the key alone. -/
def TableDefinition.foreignEndpoint (definition : TableDefinition) (registry : Registry)
    (row : Row) (fk : ForeignKey) : Except Fault (Option Endpoint) :=
  match registry.get? fk.foreignTable with
  | none => .error (definition.badAlias row fk.alias (.unregistered fk.foreignTable))
  | some foreign =>
    match definition.foreignKeyRow row fk foreign foreign.primaryKey .empty with
    | .error fault => .error fault
    | .ok none => .ok none
    | .ok (some key) =>
      let labels := foreign.labels key
      if labels.isEmpty then .error (.noLabels foreign.table (foreign.rowKey key))
      else .ok (some ⟨fk.alias, labels, key.columns⟩)

/-- The end of a relationship that an alias names; nothing if it stands for no
row because of a null. -/
def TableDefinition.endpoint (definition : TableDefinition) (registry : Registry)
    (row : Row) (name : String) : Except Fault (Option Endpoint) :=
  if name = Pattern.own then (definition.ownEndpoint row).map some
  else match definition.foreignKey? name with
    | none => .error (definition.badAlias row name .unknown)
    | some fk => definition.foreignEndpoint registry row fk

inductive PatternOutcome where
  | linked (statement : EdgeStatement)
  | skipped
  | failed (fault : Fault)
deriving DecidableEq

def TableDefinition.relate (definition : TableDefinition) (registry : Registry) (row : Row)
    (link : Link) : PatternOutcome :=
  if link.source = link.target then
    .failed (definition.badAlias row link.source .sameEnds)
  else match definition.endpoint registry row link.source with
    | .error fault => .failed fault
    | .ok none => .skipped
    | .ok (some source) =>
      match definition.endpoint registry row link.target with
      | .error fault => .failed fault
      | .ok none => .skipped
      | .ok (some target) => .linked ⟨source, target, link.kind⟩

def TableDefinition.outcome (definition : TableDefinition) (registry : Registry) (row : Row)
    (pattern : Pattern) : PatternOutcome :=
  match pattern.read with
  | .error problem => .failed (.pattern definition.table (definition.rowKey row) problem)
  | .ok link => definition.relate registry row link

/-- The outcomes of all the patterns of a row, in pattern order. -/
structure Batch where
  table : String
  key : RowKey
  outcomes : List (Pattern × PatternOutcome)

namespace Batch

def statements (batch : Batch) : List EdgeStatement :=
  batch.outcomes.filterMap fun
    | (_, .linked statement) => some statement
    | _ => none

def skipped (batch : Batch) : Nat :=
  batch.outcomes.countP fun
    | (_, .skipped) => true
    | _ => false

def faults (batch : Batch) : List Fault :=
  batch.outcomes.filterMap fun
    | (_, .failed fault) => some fault
    | _ => none

def isOk (batch : Batch) : Bool :=
  batch.faults.isEmpty

/-- All statements, or the first fault if a pattern failed. -/
def result (batch : Batch) : Except Fault (List EdgeStatement) :=
  match batch.faults with
  | [] => .ok batch.statements
  | fault :: _ => .error fault

def entries (batch : Batch) : List Log.Entry :=
  batch.outcomes.filterMap fun
    | (pattern, .skipped) => some {
        level := .debug
        origin := "graphsync_core::cypher::relationship"
        message := "Null foreign key, relationship skipped"
        fields := [("table", .quoted batch.table), ("row", .plain batch.key.text),
          ("pattern", .plain pattern.text)] }
    | _ => none

end Batch

def TableDefinition.batch (definition : TableDefinition) (registry : Registry) (row : Row) :
    Batch where
  table := definition.table
  key := definition.rowKey row
  outcomes := (definition.relationships row).map fun pattern =>
    (pattern, definition.outcome registry row pattern)

def Registry.batch (registry : Registry) (table : String) (row : Row) :
    Except Fault Batch :=
  match registry.find table row with
  | .error fault => .error fault
  | .ok definition => .ok (definition.batch registry row)

end RowGraph
