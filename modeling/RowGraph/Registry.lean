import RowGraph.Fault
import RowGraph.Log.Entry
import RowGraph.Schema

/-!
Registered tables. A registration joins what a mapping says about a table
(labels, properties, relationships of a row) with what the catalog says about
it (key, references, column classes), and is refused unless the two fit: the
name is plain and new, the mapping gives labels and properties, the table has a
primary key, and every foreign key has an alias of its own.

A definition carries the proofs of these conditions. A registry looks its tables
up in an index and carries the proofs that the names are distinct and that the
index gives each name its position, which every new table has to keep.
-/

namespace RowGraph

/-- What a caller says about one table. -/
structure TableSpec where
  table : String
  labels : Option (Row → List String)
  properties : Option (Row → Row)
  relationships : Option (Row → List Pattern)

structure TableRules where
  table : String
  table_isName : Text.isName table = true
  labels : Row → List String
  properties : Row → Row
  relationships : Option (Row → List Pattern)

def TableSpec.rules (spec : TableSpec) : Except Fault TableRules :=
  if named : Text.isName spec.table = true then
    match spec.labels, spec.properties with
    | none, _ => .error (.registration spec.table .noLabels)
    | some _, none => .error (.registration spec.table .noProperties)
    | some labels, some properties =>
      .ok ⟨spec.table, named, labels, properties, spec.relationships⟩
  else .error (.registration spec.table .badName)

structure TableDefinition where
  table : String
  primaryKey : List String
  /-- In catalog order. -/
  foreignKeys : List ForeignKey
  columnTypes : List (String × ColumnType)
  labels : Row → List String
  properties : Row → Row
  relationships? : Option (Row → List Pattern)
  table_isName : Text.isName table = true
  primaryKey_ne_nil : primaryKey ≠ []
  aliases_nodup : (foreignKeys.map ForeignKey.alias).Nodup
  own_not_alias : ∀ fk ∈ foreignKeys, fk.alias ≠ Pattern.own

/-- The first foreign key of a list that has no alias of its own, given those
before it. -/
def aliasProblem? (before : List ForeignKey) : List ForeignKey → Option SchemaProblem
  | [] => none
  | fk :: rest =>
    if fk.alias = Pattern.own then some (.reservedAlias fk.column)
    else match before.find? fun other => other.alias == fk.alias with
      | some other => some (.aliasClash other.column fk.column)
      | none => aliasProblem? (before ++ [fk]) rest

theorem aliases_of_aliasProblem?_eq_none {before rest : List ForeignKey}
    (h : aliasProblem? before rest = none)
    (distinct : (before.map ForeignKey.alias).Nodup)
    (proper : ∀ fk ∈ before, fk.alias ≠ Pattern.own) :
    ((before ++ rest).map ForeignKey.alias).Nodup ∧
      ∀ fk ∈ before ++ rest, fk.alias ≠ Pattern.own := by
  induction rest generalizing before with
  | nil => simpa using ⟨distinct, proper⟩
  | cons fk rest ih =>
      rw [aliasProblem?] at h
      split at h
      · exact absurd h (by simp)
      · rename_i notOwn
        split at h
        · exact absurd h (by simp)
        · rename_i unseen
          have fresh : ∀ other ∈ before, other.alias ≠ fk.alias := by
            intro other member
            have := List.find?_eq_none.mp unseen other member
            simpa using this
          have distinct' : ((before ++ [fk]).map ForeignKey.alias).Nodup := by
            rw [List.map_append, List.nodup_append]
            refine ⟨distinct, by simp, ?_⟩
            intro a inBefore b isLast
            obtain ⟨other, member, rfl⟩ := List.mem_map.mp inBefore
            have last : b = fk.alias := by simpa using isLast
            exact last ▸ fresh other member
          have proper' : ∀ other ∈ before ++ [fk], other.alias ≠ Pattern.own := by
            intro other member
            rcases List.mem_append.mp member with earlier | last
            · exact proper other earlier
            · rw [List.mem_singleton.mp last]
              exact notOwn
          have whole := ih h distinct' proper'
          rwa [List.append_assoc, List.singleton_append] at whole

/-- The definition that rules and a schema make. The table is the one that
the rules name. -/
def TableRules.define (rules : TableRules) (schema : TableSchema) :
    Except Fault { definition : TableDefinition // definition.table = rules.table } :=
  if keyed : schema.primaryKey = [] then
    .error (.schema rules.table .noPrimaryKey)
  else
    match aliased : aliasProblem? [] schema.foreignKeys with
    | some problem => .error (.schema rules.table problem)
    | none =>
      have proofs := aliases_of_aliasProblem?_eq_none aliased List.nodup_nil (by simp)
      .ok ⟨{
        table := rules.table
        primaryKey := schema.primaryKey
        foreignKeys := schema.foreignKeys
        columnTypes := schema.columnTypes
        labels := rules.labels
        properties := rules.properties
        relationships? := rules.relationships
        table_isName := rules.table_isName
        primaryKey_ne_nil := keyed
        aliases_nodup := by simpa using proofs.1
        own_not_alias := by simpa using proofs.2
      }, rfl⟩

namespace TableDefinition

/-- The patterns of a row; none if the table maps no relationships. -/
def relationships (definition : TableDefinition) (row : Row) : List Pattern :=
  match definition.relationships? with
  | some patterns => patterns row
  | none => []

def hasRelationships (definition : TableDefinition) : Bool :=
  definition.relationships?.isSome

def foreignKey? (definition : TableDefinition) (name : String) : Option ForeignKey :=
  definition.foreignKeys.find? fun fk => fk.alias == name

def columnType? (definition : TableDefinition) (column : String) : Option ColumnType :=
  columnTypeIn? definition.columnTypes column

def rowKey (definition : TableDefinition) (row : Row) : RowKey :=
  row.key definition.primaryKey

end TableDefinition

/-- Registered tables in registration order, and beside them the position of
each table under its name. -/
structure Registry where
  tables : List TableDefinition
  index : List (String × Nat)
  names_nodup : (tables.map TableDefinition.table).Nodup
  indexed : ∀ name, index.lookup name = (tables.map TableDefinition.table).idxOf? name

namespace Registry

def empty : Registry := ⟨[], [], List.nodup_nil, fun _ => rfl⟩

def names (registry : Registry) : List String :=
  registry.tables.map TableDefinition.table

def get? (registry : Registry) (table : String) : Option TableDefinition :=
  (registry.index.lookup table).bind (registry.tables[·]?)

def contains (registry : Registry) (table : String) : Bool :=
  (registry.index.lookup table).isSome

theorem contains_iff {registry : Registry} {table : String} :
    registry.contains table = true ↔ table ∈ registry.names := by
  rw [contains, registry.indexed]
  exact List.isSome_idxOf?

def size (registry : Registry) : Nat :=
  registry.tables.length

def isEmpty (registry : Registry) : Bool :=
  registry.tables.isEmpty

/-- The position of a new name is that of the last of all names, and no other
position changes. -/
theorem lookup_index_push {index : List (String × Nat)} {names : List String}
    (indexed : ∀ name, index.lookup name = names.idxOf? name) {table : String}
    (new : table ∉ names) (name : String) :
    ((table, names.length) :: index).lookup name = (names ++ [table]).idxOf? name := by
  have happend : (names ++ [table]).idxOf? name =
      (names.idxOf? name).or (([table].idxOf? name).map (· + names.length)) :=
    List.findIdx?_append
  rw [List.lookup_cons, happend, indexed]
  by_cases hsame : name = table
  · subst hsame
    have hnone : names.idxOf? name = none := List.idxOf?_eq_none_iff.mpr new
    simp [hnone, List.idxOf?_cons]
  · have hother : (name == table) = false := by simpa using hsame
    simp [hother, List.idxOf?_cons, Ne.symm hsame]

def push (registry : Registry) (definition : TableDefinition)
    (new : definition.table ∉ registry.names) : Registry where
  tables := registry.tables ++ [definition]
  index := (definition.table, registry.tables.length) :: registry.index
  names_nodup := by
    rw [List.map_append, List.nodup_append]
    refine ⟨registry.names_nodup, by simp, ?_⟩
    intro a member b last
    have eq : b = definition.table := by simpa using last
    rintro rfl
    exact new (eq ▸ member)
  indexed := by
    intro name
    rw [List.map_append, ← List.length_map TableDefinition.table]
    exact lookup_index_push registry.indexed new name

/-- The conditions that need no catalog. -/
def validate (registry : Registry) (spec : TableSpec) : Except Fault Unit :=
  match spec.rules with
  | .error fault => .error fault
  | .ok rules =>
    if registry.contains rules.table then .error (.duplicateTable rules.table) else .ok ()

def insert (registry : Registry) (spec : TableSpec) (schema : TableSchema) :
    Except Fault Registry :=
  match spec.rules with
  | .error fault => .error fault
  | .ok rules =>
    if known : registry.contains rules.table then .error (.duplicateTable rules.table)
    else match rules.define schema with
      | .error fault => .error fault
      | .ok ⟨definition, same⟩ =>
        .ok (registry.push definition (same ▸ mt contains_iff.mpr known))

/-- A registry with one more table, of a spec and the schema that a catalog
gives. The catalog is asked only for a spec that passes every other
condition. -/
def register {σ : Type} (registry : Registry) (spec : TableSpec)
    (catalog : String → σ → Except Fault TableSchema × σ) (state : σ) :
    Except Fault Registry × σ :=
  match registry.validate spec with
  | .error fault => (.error fault, state)
  | .ok () =>
    match catalog spec.table state with
    | (.error fault, state) => (.error fault, state)
    | (.ok schema, state) => (registry.insert spec schema, state)

end Registry

def TableDefinition.registeredEntry (definition : TableDefinition) : Log.Entry where
  level := .info
  origin := "graphsync_core::registry"
  message := "Registered table"
  fields := [("table", .plain definition.table), ("primary_key", .list definition.primaryKey),
    ("foreign_keys", .count definition.foreignKeys.length)]

end RowGraph
