import RowGraph.Decimal.Numeral

/-!
Documents as trees, whatever they were written in: scalars, lists, and records
of named parts. What reads a setting or a mapping out of a document asks the
tree for what it needs and ignores the rest.
-/

namespace RowGraph

inductive Tree where
  | null
  | bool (b : Bool)
  | integer (i : Int)
  | decimal (x : Binary64)
  | text (s : String)
  /-- A date, a time of day or both, as written. -/
  | moment (text : String)
  | list (items : List Tree)
  | record (fields : List (String × Tree))
deriving Inhabited

namespace Tree

def text? : Tree → Option String
  | .text s => some s
  | _ => none

def natural? : Tree → Option Nat
  | .integer (.ofNat n) => some n
  | _ => none

def list? : Tree → Option (List Tree)
  | .list items => some items
  | _ => none

def texts? (tree : Tree) : Option (List String) :=
  tree.list?.bind fun items => items.mapM text?

/-- A record by its fields. A moment counts as a record, of none that anyone
asks for. -/
def fields? : Tree → Option (List (String × Tree))
  | .record fields => some fields
  | .moment _ => some []
  | _ => none

/-- The parts of something that is made of parts with these names: a record
gives them by name, a list gives them in this order. Either may have more than
that or less. -/
def parts? (names : List String) (tree : Tree) : Option (String → Option Tree) :=
  match tree with
  | .list items => some fun name => (names.idxOf? name).bind fun place => items[place]?
  | tree => tree.fields?.map fun fields name => List.lookup name fields

/-- A part that may be missing: `standard` stands for it if it is. -/
def partOr {α : Type} (read : Tree → Option α) (standard : α) : Option Tree → Option α
  | none => some standard
  | some tree => read tree

def maybe {α : Type} (read : Tree → Option α) : Option Tree → Option (Option α)
  | none | some .null => some none
  | some tree => (read tree).map some

end Tree

end RowGraph
