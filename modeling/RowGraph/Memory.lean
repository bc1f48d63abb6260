import RowGraph.Engine

/-!
A relational side held in memory: tables with their schema and rows. A table
may be made to break off its scans after a number of rows.
-/

namespace RowGraph

structure MemoryTable where
  schema : TableSchema
  rows : List Row
  /-- The number of rows after which scans break off. -/
  failAfter : Option Nat

structure MemoryStore where
  tables : List MemoryTable

namespace MemoryStore

def empty : MemoryStore := ⟨[]⟩

def get? (store : MemoryStore) (table : String) : Option MemoryTable :=
  store.tables.find? fun candidate => candidate.schema.table == table

/-- A store with one more table, instead of any other of the same name. -/
def add (store : MemoryStore) (table : MemoryTable) : MemoryStore :=
  ⟨store.tables.filter (fun other => other.schema.table != table.schema.table) ++ [table]⟩

/-- The schema of a table, whether or not it has a primary key. -/
def catalog (store : MemoryStore) : Catalog := fun table =>
  match store.get? table with
  | some found => ([], .ok found.schema)
  | none => ([], .error (.schema table .missing))

def scan (store : MemoryStore) : RowSource := fun table =>
  match store.get? table with
  | none => .error (.noSuchTable table)
  | some found =>
    match found.failAfter with
    | none => .ok ⟨found.rows, none⟩
    | some limit => .ok ⟨found.rows.take limit, some (.scanBroke limit)⟩

/-- The only queries there are: the name of a table asks for its rows. -/
def query (store : MemoryStore) (text : String) : Except StoreFault (List Row) :=
  match store.get? text with
  | some found => .ok found.rows
  | none => .error (.cannotRun text)

def fits (key row : Row) : Bool :=
  key.columns.all fun (column, value) =>
    match row.get? column with
    | some found => found.equal value
    | none => false

def findOne (store : MemoryStore) (table : String) (key : Row) :
    Except StoreFault (Option Row) :=
  match store.get? table with
  | none => .error (.noSuchTable table)
  | some found => .ok (found.rows.find? (fits key))

end MemoryStore

end RowGraph
