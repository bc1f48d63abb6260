import RowGraph.Store.Script.Reader
import RowGraph.Store.Script.Writer

/-!
A database as text: the script that makes it, first all tables and then all
rows. Reading an archive checks no reference, since a row may stand before the
row that it refers to.
-/

namespace RowGraph.Database

def statements (database : Database) : List Statement :=
  database.tables.map (fun table => .create { table with rows := [] }) ++
    database.tables.flatMap fun table => table.rows.map (.insert table.name)

def restoreStep (database : Database) : Statement → Option Database
  | .create table => database.create? table
  | .insert name cells =>
    (database.get? name).map fun table => database.setRows name (table.rows ++ [cells])
  | _ => none

def archive (database : Database) : String :=
  Script.text database.statements

def restore? (text : String) : Option Database :=
  (Script.read text).foldlM restoreStep .empty

end RowGraph.Database
