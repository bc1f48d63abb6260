import RowGraph.Cypher.Literal

/-!
Rows: values under column names, in the order in which the columns were first
given. No two columns of a row have the same name, a column given again takes
the new value in its old place, and looking a column up or choosing columns
never changes a value.
-/

namespace RowGraph

structure Row where
  columns : List (String × Value)
  names_nodup : (columns.map Prod.fst).Nodup
deriving DecidableEq

/-- Values that point at a row: columns in the order asked for, repeats
included. -/
structure RowKey where
  pairs : List (String × Value)
deriving DecidableEq

namespace RowKey

/-- The key that points at no row in particular. -/
def empty : RowKey := ⟨[]⟩

def isEmpty (key : RowKey) : Bool :=
  key.pairs.isEmpty

def text (key : RowKey) : String :=
  if key.isEmpty then "<no key>"
  else String.intercalate ", "
    (key.pairs.map fun (column, value) => column ++ "=" ++ Cypher.literal value)

end RowKey

namespace Row

/-- Pairs with one column set: in its place if it is there, else at the
end. -/
def setPair (column : String) (value : Value) :
    List (String × Value) → List (String × Value)
  | [] => [(column, value)]
  | pair :: rest =>
    if pair.1 = column then (column, value) :: rest
    else pair :: setPair column value rest

/-- A new column comes at the end; no other change is made to the names. -/
theorem names_setPair (column : String) (value : Value) (pairs : List (String × Value)) :
    (setPair column value pairs).map Prod.fst =
      if column ∈ pairs.map Prod.fst then pairs.map Prod.fst
      else pairs.map Prod.fst ++ [column] := by
  induction pairs with
  | nil => rfl
  | cons pair rest ih =>
      by_cases hhere : pair.1 = column
      · simp [setPair, hhere]
      · rw [setPair, if_neg hhere, List.map_cons, ih]
        by_cases hlater : column ∈ rest.map Prod.fst
        · simp [hlater]
        · simp [hlater, Ne.symm hhere]

theorem nodup_setPair {column : String} {value : Value}
    {pairs : List (String × Value)} (h : (pairs.map Prod.fst).Nodup) :
    ((setPair column value pairs).map Prod.fst).Nodup := by
  rw [names_setPair]
  by_cases hmem : column ∈ pairs.map Prod.fst
  · rwa [if_pos hmem]
  · rw [if_neg hmem, List.nodup_append]
    refine ⟨h, List.pairwise_singleton _ column, ?_⟩
    intro name member other hother
    obtain rfl := List.mem_singleton.mp hother
    rintro rfl
    exact hmem member

def empty : Row := ⟨[], List.nodup_nil⟩

def insert (row : Row) (column : String) (value : Value) : Row :=
  ⟨setPair column value row.columns, nodup_setPair row.names_nodup⟩

def ofList (pairs : List (String × Value)) : Row :=
  pairs.foldl (fun row (column, value) => row.insert column value) empty

def get? (row : Row) (column : String) : Option Value :=
  (row.columns.find? fun pair => pair.1 == column).map Prod.snd

def names (row : Row) : List String :=
  row.columns.map Prod.fst

def size (row : Row) : Nat :=
  row.columns.length

def isEmpty (row : Row) : Bool :=
  row.columns.isEmpty

/-- The columns of a list that the row has, with their values, in the order
of the list. -/
def pairsOf (row : Row) (columns : List String) : List (String × Value) :=
  columns.filterMap fun column => (row.get? column).map fun value => (column, value)

/-- The row of the listed columns, each where it is first listed. -/
def select (row : Row) (columns : List String) : Row :=
  ofList (row.pairsOf columns)

def key (row : Row) (columns : List String) : RowKey :=
  ⟨row.pairsOf columns⟩

def leadingKey (row : Row) : RowKey :=
  ⟨row.columns.take 1⟩

/-- Same columns in the same order with equal values. -/
def equal (a b : Row) : Bool :=
  a.size == b.size && (a.columns.zip b.columns).all fun (p, q) => p.1 == q.1 && p.2.equal q.2

end Row

end RowGraph
