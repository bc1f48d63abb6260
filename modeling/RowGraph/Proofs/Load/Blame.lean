import RowGraph.Proofs.Load.Faults

/-!
Which row a fault points at. A fault that is met in work on a row names the table
of the row and has the columns of the primary key that the row has, with their
values, in the order of the key. There is one exception. If the row that a
foreign key refers to has no labels, the fault points at that row, which is known
by its key alone: it names the other table and has one value for each column of
that table's key, which the row at work holds in the paired column.

A load adds one kind of fault: that of a scan names the table that was scanned
and points at no row.
-/

namespace RowGraph

open Load (Work Settlement)

theorem forall₂_filterMap {α β : Type} {R : α → β → Prop} {f : α → Option β} {items : List α}
    (h : ∀ item ∈ items, ∃ found, f item = some found ∧ R item found) :
    List.Forall₂ R items (items.filterMap f) := by
  induction items with
  | nil => exact List.Forall₂.nil
  | cons first rest ih =>
      obtain ⟨found, hfound, hR⟩ := h first (List.mem_cons_self ..)
      rw [List.filterMap_cons_some hfound]
      exact List.Forall₂.cons hR (ih fun item member => h item (List.mem_cons_of_mem first member))

/-- That a fault points at a row: by the name of its table and by the columns of
the primary key that it has. -/
structure Fault.PointsAt (fault : Fault) (definition : TableDefinition) (row : Row) : Prop where
  table : fault.table = definition.table
  key : fault.key? = some ⟨definition.primaryKey.filterMap fun column =>
    (row.get? column).map fun value => (column, value)⟩

namespace TableDefinition

/-- That a pair is a column of the key that a foreign key refers to, with the
value that a row holds in the paired column, fitted to the class of the column
referred to. -/
structure HoldsFor (definition : TableDefinition) (row : Row) (fk : ForeignKey)
    (foreign : TableDefinition) (column : String) (pair : String × Value) : Prop where
  column_eq : pair.1 = column
  held : ∃ own ∈ definition.foreignKeys, definition.paired? fk column = some own ∧
    own.constraint = fk.constraint ∧ own.foreignColumn = column ∧
    ∃ value, row.get? own.column = some value ∧
      pair.2 = value.fit (foreign.columnType? column)

/-- The faults that point at a row, or at a row that it refers to and that has
no labels. -/
inductive Blames (definition : TableDefinition) (registry : Registry) (row : Row) :
    Fault → Prop where
  | own (fault : Fault) (points : fault.PointsAt definition row) :
      Blames definition registry row fault
  | referred (fk : ForeignKey) (foreign : TableDefinition) (key : List (String × Value))
      (declared : fk ∈ definition.foreignKeys)
      (registered : registry.get? fk.foreignTable = some foreign)
      (whole : List.Forall₂ (definition.HoldsFor row fk foreign) foreign.primaryKey key) :
      Blames definition registry row (.noLabels fk.foreignTable ⟨key⟩)

variable {definition foreign : TableDefinition} {registry : Registry} {row key : Row}
  {fk own : ForeignKey} {fault : Fault}

theorem eq_of_paired? {column : String} (h : definition.paired? fk column = some own) :
    own.constraint = fk.constraint ∧ own.foreignColumn = column := by
  unfold paired? at h
  split at h
  · rename_i hcolumn
    obtain rfl := Option.some.inj h
    exact ⟨rfl, hcolumn.symm⟩
  · simpa using List.find?_some h

/-- The key of the row that a foreign key refers to has a value for each column
that is asked for. -/
theorem forall₂_of_foreignKeyRow (declared : fk ∈ definition.foreignKeys)
    (keyed : definition.foreignKeyRow row fk foreign foreign.primaryKey .empty = .ok (some key)) :
    List.Forall₂ (definition.HoldsFor row fk foreign) foreign.primaryKey
      (key.pairsOf foreign.primaryKey) := by
  apply forall₂_filterMap
  intro column member
  have hkey := get?_foreignKeyRow keyed column
  rw [if_pos member] at hkey
  obtain ⟨fitted, hfitted, own, value, hpaired, hvalue, -, heq⟩ := hkey
  obtain ⟨hconstraint, hcolumn⟩ := eq_of_paired? hpaired
  exact ⟨(column, fitted), by rw [hfitted]; rfl, rfl, own, mem_of_paired? declared hpaired,
    hpaired, hconstraint, hcolumn, value, hvalue, heq⟩

theorem blames_of_failsWith (fails : definition.FailsWith registry row fault) :
    definition.Blames registry row fault := by
  cases fails with
  | pattern problem => exact .own _ ⟨rfl, rfl⟩
  | badAlias name problem => exact .own _ ⟨rfl, rfl⟩
  | ownLabels unlabelled => exact .own _ ⟨rfl, rfl⟩
  | foreignLabels fk foreign key declared registered keyed unlabelled =>
      -- This fault alone is about another row, which is known by its key.
      have htable : foreign.table = fk.foreignTable := (Registry.mem_of_get? registered).2
      rw [htable]
      exact .referred fk foreign _ declared registered (forall₂_of_foreignKeyRow declared keyed)
  | missing column asked absent => exact .own _ ⟨rfl, rfl⟩

theorem pointsAt_of_node (h : definition.node row = .error fault) :
    fault.PointsAt definition row := by
  obtain ⟨-, rfl⟩ := unlabelled_of_node h
  exact ⟨rfl, rfl⟩

end TableDefinition

variable {registry : Registry} {source : Phase → RowSource} {fault : Fault}

theorem Load.Settlement.blames_of_mem_faults {settlement : Settlement}
    (member : fault ∈ settlement.faults registry) :
    settlement.work.definition.Blames registry settlement.work.row fault := by
  rcases List.mem_append.mp member with hunmade | hrefused
  · exact TableDefinition.blames_of_failsWith (Work.failsWith_of_mem_unmade hunmade)
  · obtain ⟨submission, -, hrefusal⟩ := List.mem_filterMap.mp hrefused
    obtain ⟨problem, -, rfl⟩ := Option.map_eq_some_iff.mp hrefusal
    exact .own _ ⟨rfl, rfl⟩

/-- The faults that show where they come from: from a scan, with the name of the
table that was scanned and no key, or from a row that a scan yielded. -/
inductive Registry.Locates (registry : Registry) (source : Phase → RowSource) (fault : Fault) :
    Prop where
  | scan (phase : Phase) (definition : TableDefinition) (problem : StoreFault)
      (member : definition ∈ registry.tables)
      (broken : Scan.problem? (source phase definition.table) = some problem)
      (raised : fault = .source definition.table problem) (unkeyed : fault.key? = none)
  | row (settlement : Settlement) (read : settlement.work.IsRead registry source)
      (whole : settlement.IsWhole registry) (met : fault ∈ settlement.faults registry)
      (blames : settlement.work.definition.Blames registry settlement.work.row fault)

theorem Load.Arises.locates (arises : Load.Arises registry source fault) :
    registry.Locates source fault := by
  cases arises with
  | scan phase definition problem member broken =>
      exact .scan phase definition problem member broken rfl rfl
  | row settlement fault read whole met =>
      exact .row settlement read whole met (settlement.blames_of_mem_faults met)

/-- Every fault points at the row that was at work. The node of a row of a
registered table fails only with faults that point at the row; its patterns and
the statements sent for it, only with such faults or with one that points at a
row which it refers to and which has no labels. What a load returns or records
comes from such a row, or from a scan, whose fault names the table and has no
key, in whatever order the rows are worked on; and so does what the rows fail
with that a load settles before it stops. -/
theorem Registry.faults_point_at_rows (registry : Registry) :
    (∀ definition ∈ registry.tables, ∀ row,
      (∀ fault, registry.node definition.table row = .error fault →
        fault.PointsAt definition row) ∧
      (∃ batch, registry.batch definition.table row = .ok batch ∧
        ∀ fault ∈ batch.faults, definition.Blames registry row fault) ∧
      ∀ phase sink transcript,
        ∀ fault ∈ (Load.row phase registry sink definition row transcript).2.faults,
          definition.Blames registry row fault) ∧
    ∀ source : Phase → RowSource,
      (∀ sink options start,
        match (Load.run registry source sink options start).2 with
        | .error fault => registry.Locates source fault
        | .ok report => ∀ fault ∈ report.faults, registry.Locates source fault) ∧
      (∀ width sent report, Load.Completes registry source width sent report →
        ∀ fault ∈ report.faults, registry.Locates source fault) ∧
      ∀ settlement : Settlement, settlement.work.IsRead registry source →
        ∀ fault ∈ settlement.faults registry,
          settlement.work.definition.Blames registry settlement.work.row fault := by
  constructor
  · intro definition member row
    have registered : registry.get? definition.table = some definition :=
      Registry.get?_of_mem member
    refine ⟨?_, ⟨_, Registry.batch_of_get? registered row, ?_⟩, ?_⟩
    · intro fault hfault
      rw [Registry.node_of_get? registered] at hfault
      exact TableDefinition.pointsAt_of_node hfault
    · intro fault hfault
      exact TableDefinition.blames_of_failsWith (TableDefinition.failsWith_of_mem_faults hfault)
    · intro phase sink transcript fault hfault
      have hrow := (Load.row_settle sink ⟨phase, definition, row⟩ registered transcript).2
      rw [hrow, Settlement.faults_outcome] at hfault
      exact Settlement.blames_of_mem_faults hfault
  · intro source
    refine ⟨?_, ?_, ?_⟩
    · intro sink options start
      have harises := Load.arises_of_run registry source sink options start
      cases hresult : (Load.run registry source sink options start).2 with
      | error fault =>
          rw [hresult] at harises
          exact harises.locates
      | ok report =>
          rw [hresult] at harises
          exact fun fault hfault => (harises fault hfault).locates
    · intro width sent report completes fault hfault
      exact (Load.arises_of_completes completes fault hfault).locates
    · intro settlement _ fault hfault
      exact settlement.blames_of_mem_faults hfault

/-- Pages, which have labels only if their title is known. One pattern leads to
the next page and one leads nowhere. -/
def pagesDefinition : TableDefinition where
  table := "pages"
  primaryKey := ["book", "number"]
  foreignKeys := [⟨0, "next_number", "pages", "number"⟩, ⟨0, "next_book", "pages", "book"⟩]
  columnTypes := [("book", .text), ("number", .integer), ("next_number", .text),
    ("next_book", .text)]
  labels := fun row => if (row.get? "title").isSome then ["Page"] else []
  properties := id
  relationships? := some fun _ =>
    [.shorthand "(this)-[:BEFORE]->(next_book)", .structured "this" "sheet" "ON"]
  table_isName := by decide
  primaryKey_ne_nil := by decide
  aliases_nodup := by decide
  own_not_alias := by decide

def pagesRegistry : Registry := .push .empty pagesDefinition (by decide)

theorem faults_point_at_rows_pages :
    let row := Row.ofList [("number", .int 5), ("book", .text "b"), ("title", .text "t"),
      ("next_number", .text "6"), ("next_book", .text "c")]
    let unlabelled : Fault := .noLabels "pages" ⟨[("book", .text "c"), ("number", .int 6)]⟩
    let unknown : Fault :=
      .badAlias "pages" "sheet" ⟨[("book", .text "b"), ("number", .int 5)]⟩ .unknown
    pagesDefinition ∈ pagesRegistry.tables ∧
      (pagesDefinition.batch pagesRegistry row).faults = [unlabelled, unknown] ∧
      pagesDefinition.Blames pagesRegistry row unlabelled ∧
      pagesDefinition.Blames pagesRegistry row unknown := by
  intro row unlabelled unknown
  have hmember : pagesDefinition ∈ pagesRegistry.tables := List.mem_cons_self
  have hfaults : (pagesDefinition.batch pagesRegistry row).faults = [unlabelled, unknown] := by
    decide +kernel
  obtain ⟨-, ⟨batch, hbatch, hblames⟩, -⟩ :=
    (Registry.faults_point_at_rows pagesRegistry).1 pagesDefinition hmember row
  rw [Registry.batch_of_get? (Registry.get?_of_mem hmember)] at hbatch
  obtain rfl := Except.ok.inj hbatch
  rw [hfaults] at hblames
  exact ⟨hmember, hfaults, hblames unlabelled List.mem_cons_self,
    hblames unknown (List.mem_cons_of_mem _ List.mem_cons_self)⟩

end RowGraph
