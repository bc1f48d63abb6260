import RowGraph.Proofs.Keyed
import RowGraph.Proofs.Row.Lookup

/-!
Rows as ordered maps. A row is told by its names, in order, and by what each of
them finds. Setting a column leaves every other column in its place; pairs that
are set one after another stand in the order in which their columns first occur,
each with the value that was set last. Choosing columns is setting the pairs
that are found, so that repeats fall together, where a key keeps them.

The list behind a row is searched from the front and knows nothing of its
names. That they stay different is a matter of what the steps do to the list.
-/

namespace RowGraph.Row

variable {column : String} {value : Value} {pair : String × Value}
  {pairs : List (String × Value)} {row other : Row}

theorem names_insert (row : Row) (column : String) (value : Value) :
    (row.insert column value).names =
      if column ∈ row.names then row.names else row.names ++ [column] :=
  names_setPair column value row.columns

theorem getElem?_setPair (hother : pair.1 ≠ column) (place : Nat) :
    (setPair column value pairs)[place]? = some pair ↔ pairs[place]? = some pair := by
  have hset : (column, value) ≠ pair := by
    rintro rfl
    exact hother rfl
  induction pairs generalizing place with
  | nil =>
      cases place with
      | zero => simp [setPair, hset]
      | succ place => simp [setPair]
  | cons first rest ih =>
      by_cases hhere : first.1 = column
      · have hfirst : first ≠ pair := by
          rintro rfl
          exact hother hhere
        rw [setPair, if_pos hhere]
        cases place with
        | zero => simp [hset, hfirst]
        | succ place => rfl
      · rw [setPair, if_neg hhere]
        cases place with
        | zero => rfl
        | succ place => exact ih place

/-- The pairs that are found under some names, in the order of the names. -/
def found (pairs : List (String × Value)) (columns : List String) : List (String × Value) :=
  columns.filterMap fun column =>
    ((pairs.find? fun pair => pair.1 == column).map Prod.snd).map fun value => (column, value)

/-- Pairs set one after another in a list that is empty at first. -/
def collected (pairs : List (String × Value)) : List (String × Value) :=
  pairs.foldl (fun columns (column, value) => setPair column value columns) []

theorem columns_foldl (pairs : List (String × Value)) (row : Row) :
    (pairs.foldl (fun row (column, value) => row.insert column value) row).columns =
      pairs.foldl (fun columns (column, value) => setPair column value columns) row.columns := by
  induction pairs generalizing row with
  | nil => rfl
  | cons pair rest ih => exact ih (row.insert pair.1 pair.2)

theorem columns_ofList_eq (pairs : List (String × Value)) :
    (ofList pairs).columns = collected pairs :=
  columns_foldl pairs empty

theorem ofList_concat (pairs : List (String × Value)) (pair : String × Value) :
    ofList (pairs ++ [pair]) = (ofList pairs).insert pair.1 pair.2 := by
  rw [ofList, List.foldl_append]
  rfl

/-- Columns stand in the order in which they are first set. -/
theorem names_ofList (pairs : List (String × Value)) :
    (ofList pairs).names = (pairs.map Prod.fst).eraseDups := by
  induction pairs using List.reverseRecOn with
  | nil => rfl
  | append_singleton pairs pair ih =>
      rw [ofList_concat, names_insert, ih, List.map_append, List.map_singleton, eraseDups_concat]
      simp only [List.mem_eraseDups]

/-- A column has the value that is set last. -/
theorem get?_ofList (pairs : List (String × Value)) (column : String) :
    (ofList pairs).get? column = pairs.reverse.lookup column := by
  induction pairs using List.reverseRecOn with
  | nil => rfl
  | append_singleton pairs pair ih =>
      rw [ofList_concat, get?_insert, ih, List.reverse_append, List.reverse_singleton,
        List.singleton_append, List.lookup_cons]
      by_cases hhere : column = pair.1
      · simp [hhere]
      · have hother : (column == pair.1) = false := by simpa using hhere
        simp [hhere, hother]

theorem isSome_get?_ofList :
    ((ofList pairs).get? column).isSome = true ↔ column ∈ pairs.map Prod.fst := by
  rw [isSome_get?_iff, names_ofList, List.mem_eraseDups]

theorem pairsOf_names (row : Row) : row.pairsOf row.names = row.columns := by
  rw [pairsOf, names, List.filterMap_map]
  calc row.columns.filterMap _
      = row.columns.filterMap some := by
        apply List.filterMap_congr
        intro pair member
        rw [Function.comp_apply, mem_columns_iff.mp member]
        rfl
    _ = row.columns := List.filterMap_some

theorem eq_of_columns (h : row.columns = other.columns) : row = other := by
  cases row
  cases other
  subst h
  rfl

/-- Rows with the same names in order, under which they have the same values,
are the same. -/
theorem eq_of_names (hnames : row.names = other.names)
    (hvalues : ∀ column ∈ row.names, row.get? column = other.get? column) : row = other := by
  apply eq_of_columns
  rw [← pairsOf_names row, ← pairsOf_names other, ← hnames, pairsOf, pairsOf]
  apply List.filterMap_congr
  intro column member
  rw [hvalues column member]

theorem ofList_columns (row : Row) : ofList row.columns = row :=
  eq_of_columns (columns_ofList row.names_nodup)

/-- Chosen columns stand in the order in which they are first asked for. -/
theorem names_select (row : Row) (columns : List String) :
    (row.select columns).names =
      (columns.filter fun column => column ∈ row.names).eraseDups := by
  rw [select, names_ofList, names_pairsOf]

theorem mem_names_select {columns : List String} :
    column ∈ (row.select columns).names ↔ column ∈ columns ∧ column ∈ row.names := by
  rw [names_select, List.mem_eraseDups, List.mem_filter, decide_eq_true_iff]

/-- Choosing from what was chosen is choosing what is in both choices. -/
theorem select_select (row : Row) (first second : List String) :
    (row.select first).select second =
      row.select (second.filter fun column => column ∈ first) := by
  apply eq_of_names
  · have hboth : (second.filter fun column => column ∈ (row.select first).names) =
        second.filter fun column => column ∈ row.names ∧ column ∈ first := by
      apply List.filter_congr
      intro column _
      rw [decide_eq_decide, mem_names_select, and_comm]
    rw [names_select (row.select first), names_select row (second.filter _), List.filter_filter,
      hboth]
    simp only [Bool.decide_and]
  · intro column _
    rw [get?_select, get?_select, get?_select]
    by_cases hsecond : column ∈ second
    · by_cases hfirst : column ∈ first
      · simp [hsecond, hfirst]
      · simp [hsecond, hfirst]
    · simp [hsecond]

inductive Step where
  /-- One column is set. -/
  | insert (column : String) (value : Value)
  /-- A row is made anew of some pairs, whatever was there. -/
  | collect (pairs : List (String × Value))
  /-- Some columns are chosen. -/
  | select (columns : List String)

namespace Step

def onRow (row : Row) : Step → Row
  | .insert column value => row.insert column value
  | .collect pairs => ofList pairs
  | .select columns => row.select columns

/-- What a step does to a list of pairs, whatever their names are. -/
def onPairs (pairs : List (String × Value)) : Step → List (String × Value)
  | .insert column value => setPair column value pairs
  | .collect given => collected given
  | .select columns => collected (found pairs columns)

theorem columns_onRow (step : Step) (row : Row) :
    (step.onRow row).columns = step.onPairs row.columns := by
  cases step with
  | insert column value => rfl
  | collect pairs => exact columns_ofList_eq pairs
  | select columns => exact columns_ofList_eq (found row.columns columns)

theorem nodup_collected (pairs : List (String × Value)) :
    ((collected pairs).map Prod.fst).Nodup := by
  have hnames : (collected pairs).map Prod.fst = (pairs.map Prod.fst).eraseDups := by
    rw [← columns_ofList_eq, ← names_ofList]
    rfl
  rw [hnames]
  exact nodup_eraseDups _

/-- No step makes a second column of one name. -/
theorem nodup_onPairs (step : Step) (h : (pairs.map Prod.fst).Nodup) :
    ((step.onPairs pairs).map Prod.fst).Nodup := by
  cases step with
  | insert column value => exact nodup_setPair h
  | collect given => exact nodup_collected given
  | select columns => exact nodup_collected (found pairs columns)

end Step

def after (steps : List Step) : Row :=
  steps.foldl Step.onRow empty

def pairsAfter (steps : List Step) : List (String × Value) :=
  steps.foldl Step.onPairs []

theorem columns_after (steps : List Step) : (after steps).columns = pairsAfter steps := by
  induction steps using List.reverseRecOn with
  | nil => rfl
  | append_singleton steps step ih =>
      rw [after, pairsAfter, List.foldl_concat, List.foldl_concat, ← after, ← pairsAfter,
        Step.columns_onRow, ih]

theorem nodup_pairsAfter (steps : List Step) : ((pairsAfter steps).map Prod.fst).Nodup := by
  induction steps using List.reverseRecOn with
  | nil => exact List.nodup_nil
  | append_singleton steps step ih =>
      rw [pairsAfter, List.foldl_concat, ← pairsAfter]
      exact step.nodup_onPairs ih

/-- Rows as ordered maps. Whatever steps are taken, on a row or on a plain list
of pairs, the columns are the same and no two have one name. Pairs that are
inserted in an empty row stand in the order in which their columns first occur,
and each column has the value that was inserted last. Inserting a column gives
it the value, in its place if it has one and else at the end, and leaves every
other pair where it is. Choosing columns gives those that are present, in the
order in which they are first mentioned, with the values of the row; choosing
twice is choosing what is in both choices; collecting the pairs of a row gives
the row; and a key has the present columns in the order asked for, repeats
included. -/
theorem is_ordered_map :
    (∀ steps, (after steps).columns = pairsAfter steps ∧
      ((pairsAfter steps).map Prod.fst).Nodup) ∧
    (∀ pairs, let row := pairs.foldl (fun row (column, value) => row.insert column value) empty
      ofList pairs = row ∧ row.names = (pairs.map Prod.fst).eraseDups ∧
      (row.names.Pairwise fun a b =>
        (pairs.map Prod.fst).idxOf a < (pairs.map Prod.fst).idxOf b) ∧
      ∀ column, row.get? column = pairs.reverse.lookup column) ∧
    (∀ (row : Row) column value, let next := row.insert column value
      next.get? column = some value ∧
      next.names = (if column ∈ row.names then row.names else row.names ++ [column]) ∧
      ∀ (place : Nat) (pair : String × Value), pair.1 ≠ column →
        (next.columns[place]? = some pair ↔ row.columns[place]? = some pair)) ∧
    (∀ (row : Row) columns, let chosen := row.select columns
      chosen.names = (columns.filter fun column => column ∈ row.names).eraseDups ∧
      ∀ column ∈ chosen.names, chosen.get? column = row.get? column) ∧
    (∀ (row : Row) first second, (row.select first).select second =
      row.select (second.filter fun column => column ∈ first)) ∧
    (∀ row, ofList row.columns = row) ∧
    ∀ (row : Row) columns, let key := row.key columns
      key.pairs.map Prod.fst = (columns.filter fun column => column ∈ row.names) ∧
      ∀ pair ∈ key.pairs, row.get? pair.1 = some pair.2 := by
  refine ⟨fun steps => ⟨columns_after steps, nodup_pairsAfter steps⟩, ?_, ?_, ?_, select_select,
    ofList_columns, ?_⟩
  · intro pairs row
    have hnames : row.names = (pairs.map Prod.fst).eraseDups := names_ofList pairs
    refine ⟨rfl, hnames, ?_, get?_ofList pairs⟩
    rw [hnames]
    exact pairwise_idxOf_eraseDups _
  · intro row column value next
    refine ⟨?_, names_insert row column value, ?_⟩
    · rw [get?_insert, if_pos rfl]
    · intro place pair hother
      exact getElem?_setPair hother place
  · intro row columns chosen
    refine ⟨names_select row columns, ?_⟩
    intro column member
    rw [get?_select, if_pos (mem_names_select.mp member).1]
  · intro row columns key
    refine ⟨names_pairsOf row columns, ?_⟩
    intro pair member
    exact (mem_pairsOf.mp member).2

theorem is_ordered_map_novel :
    let title : String × Value := ("title", .text "Emma")
    let row := ofList [("id", .int 1), title, ("id", .int 2)]
    row.names = ["id", "title"] ∧ row.get? "id" = some (.int 2) ∧
      title.1 ≠ "id" ∧ (row.insert "id" (.int 3)).columns[1]? = some title ∧
      (row.select ["title", "year", "title"]).names = ["title"] ∧
      (row.select ["title", "year", "title"]).get? "title" = row.get? "title" ∧
      (row.key ["title", "id", "title"]).pairs.map Prod.fst = ["title", "id", "title"] := by
  intro title row
  obtain ⟨-, hcollect, hinsert, hselect, -, -, hkey⟩ := is_ordered_map
  obtain ⟨-, hnames, -, hvalues⟩ := hcollect [("id", .int 1), title, ("id", .int 2)]
  have hother : title.1 ≠ "id" := by decide
  have hplace : row.columns[1]? = some title := by decide
  obtain ⟨hchosen, hsame⟩ := hselect row ["title", "year", "title"]
  refine ⟨hnames.trans ?_, hvalues "id", hother,
    ((hinsert row "id" (.int 3)).2.2 1 title hother).mpr hplace, hchosen.trans ?_,
    hsame "title" ?_, (hkey row ["title", "id", "title"]).1.trans ?_⟩
  · decide
  · decide
  · decide
  · decide

end RowGraph.Row
