import RowGraph.Store.Change
import RowGraph.Store.Lookup
import RowGraph.Store.Traversal

/-!
Scripts: statements run one after another on a database. The rows of the last
statement that has columns are the answer. A statement that fails ends the
script, and what the statements before it did stays done.
-/

namespace RowGraph

inductive Statement where
  /-- One row of literals under names. -/
  | select (columns : List (String × Cell))
  /-- The rows of a table; with columns, each under its new name. -/
  | selectFrom (table : String) (columns : Option (List (String × String)))
  | insert (table : String) (cells : List Cell)
  | delete (table : String)
  | create (table : Table)
  /-- Something that is no statement. -/
  | broken

namespace Table

/-- A column with its cell in the row at a place, under a new name. Only the
cells of columns are fitted to a class. -/
def renamed (table : Table) (place : Nat) (cells : List Cell) (column : String × String) :
    String × Value :=
  let operand := table.operand column.2
  let type := match operand with
    | .column _ column => column.type?
    | .rowNumber => some .integer
    | .literal _ => none
  (column.1, (table.operandCell place cells operand).value.fit type)

def readRenamed (table : Table) (columns : List (String × String)) : List Row :=
  let asked := columns.filterMap fun (_, name) => table.column? name
  (table.traversal asked).map fun (cells, place) =>
    .ofList (columns.map (table.renamed place cells))

end Table

namespace Statement

/-- What a statement answers, if it has columns, and the database after it; or
nothing if it fails. -/
def run? (database : Database) : Statement → Option (Option (List Row) × Database)
  | .select columns =>
    let row := Row.ofList (columns.map fun (name, cell) => (name, cell.taken.value))
    some (some [row], database)
  | .selectFrom name columns =>
    (database.get? name).map fun table =>
      match columns with
      | none => (some table.readRows, database)
      | some columns => (some (table.readRenamed columns), database)
  | .insert name cells =>
    (database.insertRow? name (cells.map Cell.taken)).map fun after => (none, after)
  | .delete name => (database.deleteRows? name).map fun after => (none, after)
  | .create table => (database.create? table).map fun after => (none, after)
  | .broken => none

/-- Runs statements in order; `answer` is the answer so far. -/
def runAll (answer : List Row) :
    List Statement → Database → Except StoreFault (List Row) × Database
  | [], database => (.ok answer, database)
  | statement :: rest, database =>
    match statement.run? database with
    | none => (.error .queryFailed, database)
    | some (none, database) => runAll answer rest database
    | some (some rows, database) => runAll rows rest database

end Statement

def Database.query (database : Database) (script : List Statement) :
    Except StoreFault (List Row) × Database :=
  Statement.runAll [] script database

end RowGraph
