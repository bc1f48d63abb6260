import RowGraph.Value

/-!
What is known of a table from its catalog: its key, its columns with their
classes, and its references to other tables. A foreign key is addressed by an
alias, its column name without the part that says that it holds a key.
-/

namespace RowGraph

/-- One column of a foreign-key constraint, and the column that it refers
to. -/
structure ForeignKey where
  /-- The number of the constraint; its columns share it. -/
  constraint : Int
  column : String
  foreignTable : String
  foreignColumn : String
deriving DecidableEq

/-- The stem of a column name that ends in `_id`, in any case, or in `Id`
after a lower-case letter or a digit; given and returned from the back. -/
def stemFromBack : List Char → Option (List Char)
  | d :: i :: '_' :: c :: stem =>
    if d.toLower == 'd' && i.toLower == 'i' then some (c :: stem)
    else none
  | 'd' :: 'I' :: c :: stem =>
    if c.isLower || c.isDigit then some (c :: stem) else none
  | _ => none

/-- The alias of a foreign-key column: its stem, or the whole name if it has
none. -/
def aliasOf (column : String) : String :=
  match stemFromBack column.toList.reverse with
  | some stem => String.ofList stem.reverse
  | none => column

def ForeignKey.alias (fk : ForeignKey) : String :=
  aliasOf fk.column

def columnTypeIn? (columns : List (String × ColumnType)) (column : String) :
    Option ColumnType :=
  (columns.find? fun entry => entry.1 == column).map Prod.snd

structure TableSchema where
  table : String
  /-- The columns of the primary key in key order; none if none is
  declared. -/
  primaryKey : List String
  foreignKeys : List ForeignKey
  columnTypes : List (String × ColumnType)
deriving DecidableEq

def TableSchema.columnType? (schema : TableSchema) (column : String) : Option ColumnType :=
  columnTypeIn? schema.columnTypes column

end RowGraph
