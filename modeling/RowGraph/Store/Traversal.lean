import RowGraph.Store.Database

/-!
The order in which rows are met. A table keeps the cells of its primary key a
second time, in key order, unless the key is the number of the row. When only
columns of the key are asked for, this copy is read in place of the table if
its rows are estimated to be shorter; the rows are then met in key order.

Sizes are estimated by declared types alone, in units of four bytes, and are
compared on a coarse logarithmic scale.
-/

namespace RowGraph

def afterLast? (part : List Char) : List Char → Option (List Char)
  | [] => none
  | c :: rest =>
    match afterLast? part rest with
    | some found => some found
    | none => if part.isPrefixOf (c :: rest) then some ((c :: rest).drop part.length) else none

namespace Column

/-- The size that the first number in a text stands for, 0 without one or with
one that is out of range. -/
def statedSize (cs : List Char) : Nat :=
  let size := Text.ofDigits ((cs.dropWhile fun c => !c.isDigit).takeWhile Char.isDigit)
  if size < 0x80000000 then size else 0

/-- The bytes that a text or a blob of a declared type is estimated to have: as
many as are stated, or some if nothing can be stated. -/
def estimatedBytes (declared : String) : Nat :=
  let upper := (Text.upperAscii declared).toList
  match afterLast? "CHAR".toList upper, afterLast? "BLOB".toList upper with
  | some rest, _ => statedSize rest
  | none, some ('(' :: rest) => statedSize rest
  | none, _ => 16

def size (column : Column) : Nat :=
  if column.declared.isEmpty || column.affinity == .numeric then 1
  else min 255 (estimatedBytes column.declared / 4 + 1)

end Column

/-- Ten times the logarithm of a number to the base of two, by the three bits
after its leading one. -/
def coarseLog (n : Nat) : Nat :=
  if n = 0 then 0
  else
    let place := n.log2
    let tail := n * 8 / Nat.pow 2 place % 8
    10 * place + [0, 2, 3, 5, 6, 7, 8, 9].getD tail 0

namespace Table

/-- The coarse size of a row with some columns and its number. -/
def rowSize (columns : List Column) : Nat :=
  coarseLog (4 * columns.foldl (fun total column => total + column.size) 1)

def keyColumns (table : Table) : List Column :=
  table.key.filterMap table.column?

/-- Whether the copy of the primary key is read when some columns are asked
for. -/
def readsKey (table : Table) (columns : List Column) : Bool :=
  !table.key.isEmpty && !table.isNumbered && columns.all table.keyColumns.contains &&
    rowSize table.keyColumns < rowSize table.columns

/-- The rows with their places, in the order in which they are met when some
columns are asked for. -/
def traversal (table : Table) (columns : List Column) : List (List Cell × Nat) :=
  let placed := table.rows.zipIdx
  if table.readsKey columns then
    placed.mergeSort fun a b =>
      Cell.orderRows (table.keyCells a.1) (table.keyCells b.1) != .gt
  else placed

end Table

end RowGraph
