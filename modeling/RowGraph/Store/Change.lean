import RowGraph.Store.Database

/-!
Changes of a database and the conditions on them. A change is made only if it
leaves every primary key unique and every reference intact: the columns that a
reference names have to be the primary key of a table that exists, and a
reference without null has to find its row there.
-/

namespace RowGraph

namespace Reference

def sameColumns (a b : List String) : Bool :=
  a.length == b.length && b.all fun name => a.any (Text.sameName name)

/-- The columns that a reference refers to, if they are the primary key of a
table. -/
def targets? (reference : Reference) (parent : Table) : Option (List String) :=
  let key := parent.key
  let names := reference.target.getD key
  if !key.isEmpty && reference.columns.length == names.length && sameColumns names key then
    some names
  else none

def affinityIn (table : Table) (name : String) : Affinity :=
  ((table.column? name).map Column.affinity).getD .asGiven

/-- Whether a row of a child, looked up in its parent, finds a row. The cells of
the child are brought into the form of the columns that they refer to. -/
def finds (child parent : Table) (pairs : List (String × String)) (cells target : List Cell) :
    Bool :=
  pairs.all fun (own, other) =>
    (parent.cellOf target other).equal ((affinityIn parent other).fit (child.cellOf cells own))

/-- Whether a row that is about to enter a table refers to itself. As it is not
in the table yet its cells are compared as they are, unless the key is the
number of the row. -/
def findsItself (table : Table) (pairs : List (String × String)) (cells : List Cell) : Bool :=
  if table.isNumbered then finds table table pairs cells cells
  else pairs.all fun (own, other) =>
    (table.cellOf cells other).equal (table.cellOf cells own)

def isFoundBy (child parent : Table) (pairs : List (String × String))
    (cells target : List Cell) : Bool :=
  pairs.all fun (own, other) =>
    Affinity.equalBetween (affinityIn parent other) (affinityIn child own)
      (parent.cellOf target other) (child.cellOf cells own)

end Reference

namespace Database

def leadsSomewhere (database : Database) (reference : Reference) : Bool :=
  match database.get? reference.table with
  | some parent => (reference.targets? parent).isSome
  | none => false

/-- Whether a row of a table satisfies a reference: one of its cells is null, or
it refers to a row of the parent. `rows` are the rows of the table itself, which
may be the parent. -/
def satisfies (database : Database) (table : Table) (rows : List (List Cell))
    (reference : Reference) (cells : List Cell) : Bool :=
  match database.get? reference.table with
  | none => false
  | some parent =>
    match reference.targets? parent with
    | none => false
    | some targets =>
      let targetRows := if Text.sameName parent.name table.name then rows else parent.rows
      reference.columns.any (fun name => (table.cellOf cells name).isNull) ||
        targetRows.any (Reference.finds table parent (reference.columns.zip targets) cells)

def isOwnParent (table : Table) (cells : List Cell) (reference : Reference) : Bool :=
  Text.sameName reference.table table.name &&
    match reference.targets? table with
    | some targets => Reference.findsItself table (reference.columns.zip targets) cells
    | none => false

def incoming (database : Database) (name : String) : List (Table × Reference) :=
  database.tables.flatMap fun child =>
    (child.references.filter fun reference => Text.sameName reference.table name).map
      fun reference => (child, reference)

/-- How many rows refer to a row of a table. `rows` are the other rows of the
table itself. -/
def countReferring (database : Database) (table : Table) (rows : List (List Cell))
    (target : List Cell) : Nat :=
  (database.incoming table.name).foldl (fun count (child, reference) =>
    let targets := (reference.targets? table).getD []
    let childRows := if Text.sameName child.name table.name then rows else child.rows
    count + childRows.countP fun cells =>
      Reference.isFoundBy child table (reference.columns.zip targets) cells target) 0

/-- The count of broken references once rows of a table have gone one after
another. A row that goes breaks the references to it; a reference of its own
that is broken goes with it and is taken off the count, also one that was broken
before and never counted. -/
def brokenAfter (database : Database) (table : Table) (count : Nat) : List (List Cell) → Nat
  | [] => count
  | cells :: rest =>
    let mended := table.references.countP fun reference =>
      !database.satisfies table (cells :: rest) reference cells
    brokenAfter database table (count - mended + database.countReferring table rest cells) rest

end Database

namespace Table

def lastNumber? (table : Table) : Option Int64 :=
  table.rows.foldl (fun last cells =>
    match (table.keyCells cells).head?, last with
    | some (.integer i), some j => some (max i j)
    | some (.integer i), none => some i
    | _, last => last) none

/-- A row as a numbered table takes it: a null number is replaced by the one
after the last, and any other has to be an integer. -/
def numbered? (table : Table) (cells : List Cell) : Option (List Cell) :=
  match table.key.head?.bind table.columnIndex? with
  | none => none
  | some index =>
    match Affinity.numeric.fit (cells.getD index .null) with
    | .integer i => some (cells.set index (.integer i))
    | .null =>
      let next := match table.lastNumber? with
        | none => some 1
        | some last => int64? (last.toInt + 1)
      next.map fun i => cells.set index (.integer i)
    | _ => none

/-- Whether a row has the primary key of a row that is there; a null in a key
makes it unlike any other. -/
def hasKeyOf (table : Table) (cells : List Cell) : Bool :=
  !table.key.isEmpty && table.rows.any fun other =>
    (List.zipWith Cell.equal (table.keyCells cells) (table.keyCells other)).all id

/-- Rows with one more: in its place in a numbered table, else at the end. -/
def place (table : Table) (cells : List Cell) : List (List Cell) → List (List Cell)
  | [] => [cells]
  | other :: rest =>
    if table.isNumbered &&
        Cell.orderRows (table.keyCells cells) (table.keyCells other) == .lt then
      cells :: other :: rest
    else other :: table.place cells rest

end Table

namespace Database

def insertRow? (database : Database) (name : String) (cells : List Cell) :
    Option Database := do
  let table ← database.get? name
  guard (cells.length = table.columns.length)
  let cells ← if table.isNumbered then table.numbered? cells else some cells
  guard (!table.hasKeyOf cells)
  guard (table.references.all fun reference =>
    isOwnParent table cells reference || database.satisfies table table.rows reference cells)
  return database.setRows name (table.place cells table.rows)

/-- A database in which a table has no rows, if they may go: all references of
the table and to it lead somewhere, and none is left broken. -/
def deleteRows? (database : Database) (name : String) : Option Database := do
  let table ← database.get? name
  guard (table.references.all database.leadsSomewhere)
  guard ((database.incoming name).all fun (_, reference) => (reference.targets? table).isSome)
  guard (database.brokenAfter table 0 table.rows = 0)
  return database.setRows name []

/-- A database with one more table, which has no rows, if its name is free and
no two of its columns share one. -/
def create? (database : Database) (table : Table) : Option Database :=
  match database.get? table.name with
  | some _ => none
  | none =>
    if table.DistinctColumns then some (database.add { table with rows := [] }) else none

end Database

end RowGraph
