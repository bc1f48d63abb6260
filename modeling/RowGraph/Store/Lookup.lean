import RowGraph.Load
import RowGraph.Store.Database

/-!
Reading from a database: the scan of a table, and the first row that meets the
conditions of a key. Names in a condition are not looked up among the columns
alone: `rowid` and its other names are the number of the row unless a column is
called so, and any other name stands for itself as a text.
-/

namespace RowGraph

/-- What a name in a statement about a table stands for. -/
inductive Operand where
  | column (index : Nat) (column : Column)
  | rowNumber
  | literal (text : String)

namespace Table

def operand (table : Table) (name : String) : Operand :=
  match table.columnIndex? name, table.column? name with
  | some index, some column => .column index column
  | _, _ =>
    if ["rowid", "oid", "_rowid_"].any (Text.sameName name) then .rowNumber
    else .literal name

/-- The number of a row: its primary key if that is one, else its place. -/
def rowNumber (table : Table) (place : Nat) (cells : List Cell) : Cell :=
  if table.isNumbered then (table.keyCells cells).headD .null
  else .integer (Int64.ofNat (place + 1))

def operandCell (table : Table) (place : Nat) (cells : List Cell) : Operand → Cell
  | .column index _ => cells.getD index .null
  | .rowNumber => table.rowNumber place cells
  | .literal text => .text text.toUTF8

def operandAffinity : Operand → Affinity
  | .column _ column => column.affinity
  | .rowNumber => .numeric
  | .literal _ => .asGiven

/-- Whether the row at a place has a value under a name. -/
def hasPair (table : Table) (place : Nat) (cells : List Cell) (pair : String × Value) : Bool :=
  let operand := table.operand pair.1
  let asked := (operandAffinity operand).fit (Cell.ofValue pair.2).taken
  (table.operandCell place cells operand).equal asked

def rowsWith (table : Table) (key : Row) : List (List Cell) :=
  let found := table.rows.zipIdx.filter fun (cells, place) =>
    key.columns.all (table.hasPair place cells)
  found.map Prod.fst

/-- Whether a key has the first column of the primary key, so that the rows are
looked up in key order. -/
def leads (table : Table) (key : Row) : Bool :=
  table.key.head?.any fun first => key.names.any (Text.sameName first)

def firstInKeyOrder? (table : Table) : List (List Cell) → Option (List Cell)
  | [] => none
  | cells :: rest =>
    match table.firstInKeyOrder? rest with
    | none => some cells
    | some other =>
      if Cell.orderRows (table.keyCells other) (table.keyCells cells) == .lt then some other
      else some cells

def findOne (table : Table) (key : Row) : Option Row :=
  let found := table.rowsWith key
  let cells := if table.leads key then table.firstInKeyOrder? found else found.head?
  cells.map table.readRow

end Table

namespace Database

/-- The rows of a table. That there is no such table shows only when the first
row is asked for. -/
def scan (database : Database) : RowSource := fun name =>
  if Text.isName name then
    match database.get? name with
    | some table => .ok ⟨table.readRows, none⟩
    | none => .ok ⟨[], some (.scanFailed name)⟩
  else .error (.invalidIdentifier name)

def findOne (database : Database) (name : String) (key : Row) :
    Except StoreFault (Option Row) :=
  match (name :: key.names).find? fun text => !Text.isName text with
  | some text => .error (.invalidIdentifier text)
  | none =>
    match database.get? name with
    | some table => .ok (table.findOne key)
    | none => .error (.lookupFailed name)

end Database

end RowGraph
