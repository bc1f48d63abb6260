import RowGraph.Engine
import RowGraph.Store.Database

/-!
What the catalog of a database says about a table. The references of a table
are numbered from the last declared to the first, and each is spelled out
column by column. A reference that names no target refers to the primary key,
position by position; a position at which that key has no column is left out,
with a warning.
-/

namespace RowGraph

structure ReferencePart where
  constraint : Nat
  position : Nat
  column : String
  table : String
  target : Option String

/-- The columns of the references of a table, by number and position. -/
def Table.referenceParts (table : Table) : List ReferencePart :=
  table.references.reverse.zipIdx.flatMap fun (reference, constraint) =>
    reference.columns.zipIdx.map fun (name, position) =>
      { constraint, position
        column := ((table.column? name).map Column.name).getD name
        table := reference.table
        target := reference.target.bind fun names => names[position]? }

namespace Database

/-- The primary key of a table, empty if there is no such table. -/
def keyOf (database : Database) (table : String) : List String :=
  ((database.get? table).map Table.key).getD []

def targetOf? (database : Database) (part : ReferencePart) : Option String :=
  part.target.or (database.keyOf part.table)[part.position]?

/-- A part of a reference as a foreign key, if it refers to a column. -/
def foreignKey? (database : Database) (part : ReferencePart) : Option ForeignKey :=
  (database.targetOf? part).map fun foreignColumn =>
    { constraint := part.constraint
      column := part.column
      foreignTable := part.table
      foreignColumn }

def ignoredEntry (table : String) (part : ReferencePart) : Log.Entry where
  level := .warn
  origin := "graphsync_db::catalog"
  message := "Implicit reference has no key column at this position, foreign key ignored"
  fields := [("table", .quoted table), ("column", .plain part.column),
    ("referenced", .plain part.table), ("position", .count part.position)]

def introspectedEntry (schema : TableSchema) : Log.Entry where
  level := .debug
  origin := "graphsync_db::store"
  message := "Introspected table"
  fields := [("table", .quoted schema.table), ("primary_key", .list schema.primaryKey),
    ("foreign_keys", .count schema.foreignKeys.length)]

/-- The schema of a table under the name by which it was asked for. -/
def schemaOf (database : Database) (name : String) (table : Table) : TableSchema where
  table := name
  primaryKey := table.key
  foreignKeys := table.referenceParts.filterMap database.foreignKey?
  columnTypes := table.columns.map fun column => (column.name, .ofDeclared column.declared)

/-- The schema of a table that has a primary key. -/
def catalog (database : Database) : Catalog := fun name =>
  match database.get? name with
  | none => ([], .error (.schema name .missing))
  | some table =>
    let ignored := table.referenceParts.filter fun part => (database.targetOf? part).isNone
    let warnings := ignored.map (ignoredEntry name)
    let schema := database.schemaOf name table
    if schema.primaryKey.isEmpty then (warnings, .error (.schema name .noPrimaryKey))
    else (warnings ++ [introspectedEntry schema], .ok schema)

end Database

end RowGraph
