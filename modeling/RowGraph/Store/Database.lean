import RowGraph.Row
import RowGraph.Store.Affinity

/-!
A database: tables with their columns, primary key, references to other tables
and rows of cells. Names are looked up without regard to the case of ASCII
letters and answered in the spelling of their declaration.

The rows of a table stand in the order in which a scan meets them.
-/

namespace RowGraph

structure Column where
  name : String
  declared : String
deriving DecidableEq

/-- The class of the values of a column; none is known of a column without a
declared type. -/
def Column.type? (column : Column) : Option ColumnType :=
  if column.declared.isEmpty then none else some (.ofDeclared column.declared)

def Column.affinity (column : Column) : Affinity :=
  .ofDeclared column.declared

structure Reference where
  columns : List String
  table : String
  /-- The columns referred to; without them the primary key is. -/
  target : Option (List String)

structure Table where
  name : String
  columns : List Column
  primaryKey : List String
  references : List Reference
  rows : List (List Cell)

namespace Table

/-- That no two columns have the same name, up to the case of ASCII letters. -/
def DistinctColumns (table : Table) : Prop :=
  (table.columns.map fun column => Text.lowerAscii column.name).Nodup

instance (table : Table) : Decidable table.DistinctColumns :=
  inferInstanceAs (Decidable (List.Nodup _))

def columnIndex? (table : Table) (name : String) : Option Nat :=
  table.columns.findIdx? fun column => Text.sameName column.name name

def column? (table : Table) (name : String) : Option Column :=
  table.columns.find? fun column => Text.sameName column.name name

/-- The place of a column in the primary key, from 1 on, or 0. -/
def keyPosition (table : Table) (column : Column) : Nat :=
  match table.primaryKey.findIdx? fun name => Text.sameName name column.name with
  | some index => index + 1
  | none => 0

def namesInKey (columns : List (String × Int)) : List String :=
  let keyed := columns.filter fun (_, position) => 0 < position
  (keyed.mergeSort fun a b => a.2 ≤ b.2).map Prod.fst

/-- The columns of the primary key in key order, as they are declared. -/
def key (table : Table) : List String :=
  namesInKey (table.columns.map fun column => (column.name, (table.keyPosition column : Int)))

/-- Whether the primary key is the number of the row: a single column that is
declared as an integer. Such a column is never null, and the rows are kept in
its order. -/
def isNumbered (table : Table) : Bool :=
  match table.key with
  | [name] => (table.column? name).any fun column => Text.sameName column.declared "INTEGER"
  | _ => false

def cellOf (table : Table) (cells : List Cell) (name : String) : Cell :=
  match table.columnIndex? name with
  | some index => cells.getD index .null
  | none => .null

def keyCells (table : Table) (cells : List Cell) : List Cell :=
  table.key.map (table.cellOf cells)

/-- A column with its cell as a row shows it, fitted to the class of the
column. -/
def readCell (column : Column) (cell : Cell) : String × Value :=
  (column.name, cell.value.fit column.type?)

def readRow (table : Table) (cells : List Cell) : Row :=
  .ofList (List.zipWith readCell table.columns cells)

def readRows (table : Table) : List Row :=
  table.rows.map table.readRow

end Table

/-- Tables in the order of their creation. -/
structure Database where
  tables : List Table

namespace Database

def empty : Database := ⟨[]⟩

def get? (database : Database) (name : String) : Option Table :=
  database.tables.find? fun table => Text.sameName table.name name

def add (database : Database) (table : Table) : Database :=
  ⟨database.tables ++ [table]⟩

def setRows (database : Database) (name : String) (rows : List (List Cell)) : Database :=
  ⟨database.tables.map fun table =>
    if Text.sameName table.name name then { table with rows } else table⟩

end Database

end RowGraph
