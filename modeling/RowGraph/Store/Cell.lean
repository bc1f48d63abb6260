import RowGraph.Text.Bytes
import RowGraph.Value

/-!
Cells, the values that a table of a database holds, and how they stand to the
values of a row: reading a cell, and the cell that a value is bound as.

Cells are compared by what they are: numbers by their place on the number
line, whether they are integers or not, texts and blobs by their bytes, and
nothing equals null.
-/

namespace RowGraph

/-- A value in a table. The bytes of a text need not be well-formed. -/
inductive Cell where
  | null
  | integer (i : Int64)
  | real (x : Binary64)
  | text (bytes : ByteArray)
  | blob (bytes : ByteArray)

namespace Cell

/-- What a row shows of a cell, before the class of its column is looked
at. -/
def value : Cell → Value
  | .null => .null
  | .integer i => .int i
  | .real x => .float x
  | .text bytes => .text (Text.ofBytes bytes)
  | .blob bytes => .text (Text.hex bytes)

/-- The cell that a value is bound as: truth values are the integers 0 and 1,
instants their RFC 3339 text. -/
def ofValue : Value → Cell
  | .null => .null
  | .bool b => .integer (if b then 1 else 0)
  | .int i => .integer i
  | .float x => .real x
  | .text s => .text s.toUTF8
  | .timestamp t => .text t.utcText.toUTF8

/-- A cell as a database takes it: what is not a number becomes null. -/
def taken : Cell → Cell
  | .real x => if x.isNaN then .null else .real x
  | cell => cell

def isNull : Cell → Bool
  | .null => true
  | _ => false

/-- The place of a number on the number line, in units of 2^-1074. The
infinities lie beyond all other numbers. -/
def place? : Cell → Option Int
  | .integer i => some (i.toInt * Binary64.unitsOfOne)
  | .real x => some x.place
  | _ => none

/-- Equality of cells in a condition. -/
def equal (a b : Cell) : Bool :=
  match a, b with
  | .text x, .text y => x.toList == y.toList
  | .blob x, .blob y => x.toList == y.toList
  | a, b =>
    match a.place?, b.place? with
    | some m, some n => m == n
    | _, _ => false

/-- The order of kinds: null, numbers, texts, blobs. -/
def kind : Cell → Nat
  | .null => 0
  | .integer _ | .real _ => 1
  | .text _ => 2
  | .blob _ => 3

/-- The order of sequences of bytes in which the first difference decides and
a shorter one comes before its continuations. -/
def compareBytes : List UInt8 → List UInt8 → Ordering
  | [], [] => .eq
  | [], _ => .lt
  | _, [] => .gt
  | a :: as, b :: bs => (compare a.toNat b.toNat).then (compareBytes as bs)

/-- The order in which an index keeps cells. -/
def order (a b : Cell) : Ordering :=
  match a, b with
  | .text x, .text y | .blob x, .blob y => compareBytes x.toList y.toList
  | a, b =>
    match a.place?, b.place? with
    | some m, some n => compare m n
    | _, _ => compare a.kind b.kind

def orderRows : List Cell → List Cell → Ordering
  | a :: as, b :: bs => (a.order b).then (orderRows as bs)
  | _, _ => .eq

/-- Null equals nothing. -/
@[simp] theorem null_equal (a : Cell) : Cell.null.equal a = false := by
  cases a <;> rfl

/-- A text value is bound as a cell that shows it again. -/
theorem value_ofValue_text (s : String) : (ofValue (.text s)).value = .text s :=
  congrArg Value.text (Text.ofBytes_toUTF8 s)

end Cell

end RowGraph
