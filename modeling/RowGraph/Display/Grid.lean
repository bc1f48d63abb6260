import RowGraph.Display.Ink
import RowGraph.Row

/-!
Rows as an aligned table. The columns are those of the first row; another row
has an empty cell where it lacks one of them. Every column is as wide as its
widest cell or its name, up to a limit; cells that are wider still are cut.
-/

namespace RowGraph.Display

def cellText : Value → String
  | .null => "NULL"
  | .text s => s
  | v => Cypher.literal v

structure Grid where
  names : List String
  cells : List (List String)

namespace Grid

def widthLimit : Nat := 40

def gap : String := "  "

def cellsOf (names : List String) (row : Row) : List String :=
  names.map fun name => ((row.get? name).map cellText).getD ""

/-- The grid of rows that begin with `first`. -/
def ofRows (first : Row) (rows : List Row) : Grid where
  names := first.names
  cells := (first :: rows).map (cellsOf first.names)

def widthAt (grid : Grid) (name : String) (place : Nat) : Nat :=
  let lengths := grid.cells.map fun cells => (cells.getD place "").length
  min widthLimit (lengths.foldl max name.length)

def widths (grid : Grid) : List Nat :=
  grid.names.zipIdx.map fun (name, place) => grid.widthAt name place

def header (grid : Grid) : String :=
  String.intercalate gap (List.zipWith Text.padRight grid.widths grid.names)

/-- A cell cut and padded to a width. -/
def fitted (width : Nat) (cell : String) : String :=
  Text.padRight width (Text.shorten width cell)

def line (grid : Grid) (cells : List String) : String :=
  String.intercalate gap (List.zipWith fitted grid.widths cells)

/-- The line between the names and the rows. -/
def ruleLine (grid : Grid) : String :=
  rule (grid.widths.foldr (· + ·) 0 + gap.length * (grid.widths.length - 1))

end Grid

def rowLines (ink : Ink) : List Row → List String
  | [] => [ink.paint .dim "No rows."]
  | first :: rest =>
    let grid := Grid.ofRows first rest
    ink.paint .bold grid.header :: grid.ruleLine :: grid.cells.map grid.line ++
      ["", ink.paint .bold (toString (first :: rest).length) ++ " row(s)"]

end RowGraph.Display
