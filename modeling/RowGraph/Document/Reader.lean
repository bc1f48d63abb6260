import RowGraph.Document.Scalar
import RowGraph.Document.Section

/-!
Reading TOML documents. A line holds a key with its value, a header or nothing,
and may end in a comment. Lists may go over several lines, tables in braces
stay on one. Values are nested, and keys are long, up to a limit.
-/

namespace RowGraph.Document

open Reading

/-- The nesting of values and the length of keys stay below this. -/
def depthLimit : Nat := 80

def spaces : Reading Unit := do
  let _ ← span isBlank

def comment : Reading Unit := do
  mark '#'
  let _ ← span isPlain

/-- Blanks, and line ends with or without a comment before them. -/
def gapWithin : Nat → Reading Unit
  | 0 => spaces
  | fuel + 1 => do
    spaces
    let more ← optional (do
      let _ ← optional comment
      newline)
    if more.isSome then gapWithin fuel

def gap : Reading Unit := fun cs =>
  gapWithin cs.length cs

def keyName : Reading String :=
  lineText <|> do
    let name ← span fun c => c.isAlphanum || c == '_' || c == '-'
    if name.isEmpty then failure
    return String.ofList name

/-- A key: a path of names and a last name, with points between them. -/
def key : Reading (List String × String) := do
  let names ← separated (do spaces; let name ← keyName; spaces; return name) (mark '.')
  if depthLimit ≤ names.length then failure
  match names.getLast? with
  | some last => return (names.dropLast, last)
  | none => failure

def keyValue (value : Reading Tree) : Reading (List String × String × Tree) := do
  let (path, name) ← key
  mark '='
  spaces
  let tree ← value
  spaces
  return (path, name, tree)

/-- A list in brackets, of what `value` reads. A comma may follow the last
item. -/
def list (value : Reading Tree) : Reading Tree := do
  mark '['
  let items ← optional (separated (do gap; let tree ← value; gap; return tree) (mark ','))
  if items.isSome then
    let _ ← optional (mark ',')
  gap
  mark ']'
  return .list (items.getD [])

def table (value : Reading Tree) : Reading Tree := do
  mark '\x7b'
  let values ← optional (separated (keyValue value) (mark ','))
  spaces
  mark '\x7d'
  match Entries.insertValues [] (values.getD []) with
  | some entries => return .record (fieldsOf entries)
  | none => failure

/-- A value with fewer than `depth` lists and tables around any of its
parts. -/
def value : Nat → Reading Tree
  | 0 => scalar
  | depth + 1 => scalar <|> list (value depth) <|> table (value depth)

def lineEnd : Reading Unit := do
  spaces
  let _ ← optional comment
  newline <|> finish

def emptyLine : Reading Unit := do
  spaces
  let _ ← optional comment
  newline

def valueLine : Reading (List String × String × Tree) := do
  let found ← keyValue (value (depthLimit - 1))
  lineEnd
  return found

/-- A line with a header: its path, its last name, and whether it is
repeatable. -/
def headerLine : Reading (List String × String × Bool) := do
  spaces
  mark '['
  let repeatable := (← optional (mark '[')).isSome
  let (path, name) ← key
  mark ']'
  if repeatable then mark ']'
  lineEnd
  return (path, name, repeatable)

/-- What `line` finds in consecutive lines, at most `fuel` of them, among
empty ones. -/
def linesWithin {α : Type} (line : Reading α) : Nat → Reading (List α)
  | 0 => return []
  | fuel + 1 =>
    (do emptyLine; linesWithin line fuel) <|>
    (do
      let first ← line
      let rest ← linesWithin line fuel
      return first :: rest) <|> return []

def values : Reading (List (List String × String × Tree)) := fun cs =>
  linesWithin valueLine (cs.length + 1) cs

def headedSection : Reading Section := do
  let header ← headerLine
  let found ← values
  return ⟨some header, found⟩

/-- A whole document, part by part. A byte-order mark may stand in front. -/
def document : Reading (List Section) := do
  let _ ← optional (mark '\ufeff')
  let first ← values
  let rest ← fun cs => linesWithin headedSection (cs.length + 1) cs
  spaces
  let _ ← optional comment
  finish
  return ⟨none, first⟩ :: rest

def read? (text : String) : Option Tree :=
  (whole document text.toList).bind assemble

end RowGraph.Document
