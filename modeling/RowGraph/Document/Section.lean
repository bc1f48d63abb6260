import RowGraph.Document.Tree

/-!
How the lines of a TOML document come together. A key may be a path, and
headers open sections anywhere in the tree, so parts of one table may stand
apart. They may not define anything twice: a table that a header or braces have
defined takes no more keys from elsewhere, and a table that came into being by
the path of a key takes more keys, but no header.
-/

namespace RowGraph.Document

/-- What a name stands for while a document is put together. -/
inductive Entry where
  | value (tree : Tree)
  /-- A table; `implied` if only paths have mentioned it so far, `dotted` if
  the path of a key was the first to do so. -/
  | table (implied dotted : Bool) (entries : List (String × Entry))
  /-- The tables under a repeated header. -/
  | tables (elements : List (List (String × Entry)))

abbrev Entries := List (String × Entry)

mutual

def Entry.tree : Entry → Tree
  | .value tree => tree
  | .table _ _ entries => .record (fieldsOf entries)
  | .tables elements => .list (recordsOf elements)

def fieldsOf : List (String × Entry) → List (String × Tree)
  | [] => []
  | (name, entry) :: rest => (name, entry.tree) :: fieldsOf rest

def recordsOf : List (List (String × Entry)) → List Tree
  | [] => []
  | entries :: rest => .record (fieldsOf entries) :: recordsOf rest

end

namespace Entries

def find? (entries : Entries) (name : String) : Option Entry :=
  List.lookup name entries

/-- Entries with a name set: in its place if it is there, else at the end. -/
def set (entries : Entries) (name : String) (entry : Entry) : Entries :=
  match entries with
  | [] => [(name, entry)]
  | other :: rest =>
    if other.1 == name then (name, entry) :: rest else other :: set rest name entry

def erase (entries : Entries) (name : String) : Entries :=
  entries.filter fun other => other.1 != name

/-- The last table of a list, replaced by what `change` makes of it. -/
def changeLast (change : Entries → Option Entries) :
    List Entries → Option (List Entries)
  | [] => none
  | [last] => (change last).map fun last => [last]
  | first :: rest => (changeLast change rest).map fun rest => first :: rest

def insertValue (name : String) (tree : Tree) : List String → Entries → Option Entries
  | [], entries =>
    match find? entries name with
    | some _ => none
    | none => some (entries ++ [(name, .value tree)])
  | first :: path, entries =>
    match find? entries first with
    | none =>
      (insertValue name tree path []).map fun inner =>
        entries ++ [(first, .table true true inner)]
    | some (.table implied dotted inner) =>
      if implied && (dotted || !path.isEmpty) then
        (insertValue name tree path inner).map fun inner =>
          set entries first (.table implied dotted inner)
      else none
    | some (.tables elements) =>
      if path.isEmpty then none
      else
        (changeLast (insertValue name tree path) elements).map fun elements =>
          set entries first (.tables elements)
    | some (.value _) => none

/-- Entries with a section under a path of names, put in place by `change`. -/
def insertSection (change : Entries → Option Entries) :
    List String → Entries → Option Entries
  | [], entries => change entries
  | first :: path, entries =>
    match find? entries first with
    | none =>
      (insertSection change path []).map fun inner =>
        entries ++ [(first, .table true false inner)]
    | some (.table implied dotted inner) =>
      (insertSection change path inner).map fun inner =>
        set entries first (.table implied dotted inner)
    | some (.tables elements) =>
      (changeLast (insertSection change path) elements).map fun elements =>
        set entries first (.tables elements)
    | some (.value _) => none

/-- Entries with values under their paths, none of which may be there. -/
def insertValues (entries : Entries) (values : List (List String × String × Tree)) :
    Option Entries :=
  values.foldlM (fun entries (path, name, tree) => insertValue name tree path entries) entries

/-- Entries with a table under a name: a new one, or one that only paths of
headers have mentioned. -/
def defineTable (name : String) (values : List (List String × String × Tree))
    (entries : Entries) : Option Entries :=
  let start : Option Entries := match find? entries name with
    | none => some []
    | some (.table true false inner) => some inner
    | some _ => none
  (start.bind fun inner => insertValues inner values).map fun inner =>
    erase entries name ++ [(name, .table false false inner)]

def appendTable (name : String) (values : List (List String × String × Tree))
    (entries : Entries) : Option Entries :=
  (insertValues [] values).bind fun inner =>
    match find? entries name with
    | none => some (entries ++ [(name, .tables [inner])])
    | some (.tables elements) => some (set entries name (.tables (elements ++ [inner])))
    | some _ => none

end Entries

/-- A part of a document: the keys before the first header, or a header with
the keys after it. Every key is a path and a last name. -/
structure Section where
  /-- Path and last name of the header, and whether it is repeatable. -/
  header : Option (List String × String × Bool)
  values : List (List String × String × Tree)

def Entries.addSection (entries : Entries) (part : Section) : Option Entries :=
  match part.header with
  | none => insertValues entries part.values
  | some (path, name, repeatable) =>
    insertSection ((if repeatable then appendTable else defineTable) name part.values)
      path entries

def assemble (parts : List Section) : Option Tree :=
  (parts.foldlM Entries.addSection []).map fun entries => .record (fieldsOf entries)

end RowGraph.Document
