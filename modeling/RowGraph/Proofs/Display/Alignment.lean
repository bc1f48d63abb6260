import Mathlib.Algebra.BigOperators.Group.List.Basic
import RowGraph.Proofs.Display.Lines
import RowGraph.Proofs.Row.Lookup

/-!
How a table is laid out. A column is as wide as its widest cell or its name, up
to a limit, and every cell is made to fill the width of its column: it is cut if
it is longer and padded if it is shorter. So all lines of rows are as long as
the rule above them, and each column starts at the same place in all of them.

Names are padded but not cut. A name that is longer than the limit pushes the
rest of the header to the right by what it has beyond the limit, and nothing
else moves the header against the rows.
-/

namespace RowGraph.Display

section

variable {part : List Char} {parts : List (List Char)}

theorem length_intercalate (sep : List Char) (parts : List (List Char)) :
    (sep.intercalate parts).length =
      (parts.map List.length).sum + sep.length * (parts.length - 1) := by
  induction parts with
  | nil => simp
  | cons first rest ih =>
      cases rest with
      | nil => simp
      | cons second rest =>
          simp only [List.intercalate_cons_cons, List.length_append, List.map_cons, List.sum_cons,
            List.length_cons, Nat.add_sub_cancel, Nat.mul_add, Nat.mul_one] at ih ⊢
          omega

/-- A part stands behind the parts and the gaps before it. -/
theorem exists_drop_intercalate (sep : List Char) {place : Nat} (h : parts[place]? = some part) :
    ∃ rest, (sep.intercalate parts).drop
      (((parts.map List.length).take place).map (· + sep.length)).sum = part ++ rest := by
  induction parts generalizing place with
  | nil => simp at h
  | cons first more ih =>
      cases place with
      | zero =>
          obtain rfl : first = part := by simpa using h
          cases more with
          | nil => exact ⟨[], by simp⟩
          | cons second more =>
              exact ⟨sep ++ sep.intercalate (second :: more), by
                rw [List.intercalate_cons_cons, List.append_assoc]; rfl⟩
      | succ place =>
          rw [List.getElem?_cons_succ] at h
          obtain ⟨rest, hrest⟩ := ih h
          have hne : more ≠ [] := by
            rintro rfl
            simp at h
          refine ⟨rest, ?_⟩
          rw [List.intercalate_cons_of_ne_nil hne, List.map_cons, List.take_succ_cons,
            List.map_cons, List.sum_cons, ← List.length_append, List.drop_length_add_append, hrest]

/-- Lengths that exceed others add up to what these do, and what they have
beyond them. -/
theorem sum_take_zipWith_add (gap : Nat) {lengths excess : List Nat}
    (h : lengths.length = excess.length) (place : Nat) :
    (((List.zipWith (· + ·) lengths excess).take place).map (· + gap)).sum =
      ((lengths.take place).map (· + gap)).sum + (excess.take place).sum := by
  induction lengths generalizing excess place with
  | nil =>
      obtain rfl := List.length_eq_zero_iff.mp h.symm
      simp
  | cons first lengths ih =>
      obtain ⟨beyond, excess, rfl⟩ := List.exists_cons_of_length_eq_add_one h.symm
      cases place with
      | zero => rfl
      | succ place =>
          have hrest := ih (Nat.succ.inj h) place
          simp only [List.zipWith_cons_cons, List.take_succ_cons, List.map_cons, List.sum_cons,
            hrest]
          omega

end

theorem le_foldl_max (first : Nat) (lengths : List Nat) :
    first ≤ lengths.foldl max first ∧ ∀ length ∈ lengths, length ≤ lengths.foldl max first := by
  induction lengths generalizing first with
  | nil => simp
  | cons second rest ih =>
      obtain ⟨hstart, hrest⟩ := ih (max first second)
      refine ⟨le_trans (le_max_left _ _) hstart, ?_⟩
      intro length member
      rcases List.mem_cons.mp member with rfl | hlater
      · exact le_trans (le_max_right _ _) hstart
      · exact hrest length hlater

namespace Grid

variable {grid : Grid} {cells : List String} {name cell : String} {place width : Nat}

/-- A cell of at most the width is shown in full, any other without what is
beyond the width less one, and with an ellipsis. -/
theorem toList_fitted (h : cell.length ≤ width ∨ 0 < width) :
    (fitted width cell).toList =
      if cell.length ≤ width then cell.toList ++ List.replicate (width - cell.length) ' '
      else cell.toList.take (width - 1) ++ ['…'] := by
  rw [fitted, Text.padRight, String.toList_ofList]
  by_cases hfits : cell.length ≤ width
  · rw [if_pos hfits, Text.shorten, if_pos hfits]
  · have hlength : (cell.toList.take (width - 1) ++ ['…']).length = width := by
      simp only [List.length_append, List.length_take, String.length_toList, List.length_singleton]
      omega
    rw [if_neg hfits, Text.shorten, if_neg hfits, String.toList_ofList, String.length_ofList,
      hlength, Nat.sub_self, List.replicate_zero, List.append_nil]

theorem length_fitted (h : cell.length ≤ width ∨ 0 < width) :
    (fitted width cell).length = width := by
  have hshort : (Text.shorten width cell).length ≤ width := by
    rcases h with hfits | hpos
    · rwa [Text.shorten, if_pos hfits]
    · exact Text.length_shorten_le hpos cell
  rw [fitted, Text.length_padRight, max_eq_left hshort]

theorem length_widths (grid : Grid) : grid.widths.length = grid.names.length := by
  simp [widths]

theorem getElem?_widths (hname : grid.names[place]? = some name) :
    grid.widths[place]? = some (grid.widthAt name place) := by
  simp [widths, List.getElem?_zipIdx, hname]

theorem widthAt_le (grid : Grid) (name : String) (place : Nat) :
    grid.widthAt name place ≤ widthLimit :=
  min_le_left _ _

/-- A name is as wide as its column at most, unless the column has the limit. -/
theorem name_fits (grid : Grid) (name : String) (place : Nat) :
    name.length ≤ grid.widthAt name place ∨ grid.widthAt name place = widthLimit := by
  have hmax := (le_foldl_max name.length
    (grid.cells.map fun cells => (cells.getD place "").length)).1
  unfold widthAt
  dsimp only
  omega

theorem cell_fits (name : String) (member : cells ∈ grid.cells)
    (hcell : cells[place]? = some cell) :
    cell.length ≤ grid.widthAt name place ∨ grid.widthAt name place = widthLimit := by
  have hlength : cell.length ∈ grid.cells.map fun cells => (cells.getD place "").length := by
    refine List.mem_map.mpr ⟨cells, member, ?_⟩
    rw [List.getD_eq_getElem?_getD, hcell, Option.getD_some]
  have hmax := (le_foldl_max name.length _).2 _ hlength
  unfold widthAt
  dsimp only
  omega

/-- Where a column starts in the line of a row. -/
def start (grid : Grid) (place : Nat) : Nat :=
  ((grid.widths.take place).map (· + gap.length)).sum

theorem length_ruleLine (grid : Grid) :
    grid.ruleLine.length = grid.widths.sum + gap.length * (grid.widths.length - 1) := by
  rw [ruleLine, rule, Text.line, String.length_ofList, List.length_replicate]
  rfl

/-- Texts laid out in the columns of a grid, each as long as the column is wide
and what it has in excess. The line is longer than the rule by all excess, and
a text stands at the start of its column, moved by the excess before it. -/
theorem layout (layOut : Nat → String → String) (excess : String → Nat) {texts : List String}
    (full : texts.length = grid.names.length)
    (fills : ∀ (place width : Nat) text, grid.widths[place]? = some width →
      texts[place]? = some text → (layOut width text).length = width + excess text) :
    let line := String.intercalate gap (List.zipWith layOut grid.widths texts)
    line.length = grid.ruleLine.length + (texts.map excess).sum ∧
      ∀ (place width : Nat) text, grid.widths[place]? = some width → texts[place]? = some text →
        (line.toList.drop (grid.start place + ((texts.take place).map excess).sum)).take
          (layOut width text).length = (layOut width text).toList := by
  intro line
  let parts := (List.zipWith layOut grid.widths texts).map String.toList
  have hwidths : grid.widths.length = texts.length := by rw [length_widths, full]
  have hline : line.toList = gap.toList.intercalate parts := String.toList_intercalate
  have hlengths : parts.map List.length =
      List.zipWith (· + ·) grid.widths (texts.map excess) := by
    apply List.ext_getElem?
    intro place
    simp only [parts, List.map_map, List.getElem?_map, List.getElem?_zipWith]
    cases hwidth : grid.widths[place]? with
    | none => rfl
    | some width =>
        cases htext : texts[place]? with
        | none => rfl
        | some text => simp [String.length_toList, fills place width text hwidth htext]
  constructor
  · have hparts : parts.length = grid.widths.length := by simp [parts, hwidths]
    have hsum := List.sum_add_sum_eq_sum_zipWith_of_length_eq grid.widths (texts.map excess)
      (by rw [List.length_map, hwidths])
    rw [← String.length_toList, hline, length_intercalate, hlengths, ← hsum, hparts,
      length_ruleLine, String.length_toList]
    omega
  · intro place width text hwidth htext
    have hpart : parts[place]? = some (layOut width text).toList := by
      simp [parts, List.getElem?_zipWith, hwidth, htext]
    obtain ⟨rest, hrest⟩ := exists_drop_intercalate gap.toList hpart
    have hlength : (layOut width text).length = (layOut width text).toList.length :=
      String.length_toList.symm
    rw [hlengths, sum_take_zipWith_add _ (by rw [List.length_map, hwidths]),
      String.length_toList, ← List.map_take] at hrest
    rw [hline, start, hrest, hlength, List.take_left]

/-- What names have beyond the limit of a width. -/
def overhang (names : List String) : Nat :=
  (names.map fun name => name.length - widthLimit).sum

theorem exists_name (hwidth : grid.widths[place]? = some width) :
    ∃ name, grid.names[place]? = some name ∧ width = grid.widthAt name place := by
  obtain ⟨hplace, -⟩ := List.getElem?_eq_some_iff.mp hwidth
  rw [length_widths] at hplace
  have hname := List.getElem?_eq_getElem hplace
  have hsame := getElem?_widths hname
  exact ⟨_, hname, Option.some.inj (hwidth.symm.trans hsame)⟩

theorem overhang_eq_zero_iff {names : List String} :
    overhang names = 0 ↔ ∀ name ∈ names, name.length ≤ widthLimit := by
  rw [overhang]
  induction names with
  | nil => simp
  | cons name rest ih =>
      rw [List.map_cons, List.sum_cons, Nat.add_eq_zero_iff, ih, List.forall_mem_cons,
        Nat.sub_eq_zero_iff_le]

/-- A cell is cut only in a column of the limit. -/
theorem fits_of_mem (member : cells ∈ grid.cells) (hwidth : grid.widths[place]? = some width)
    (hcell : cells[place]? = some cell) : cell.length ≤ width ∨ 0 < width := by
  obtain ⟨name, -, rfl⟩ := exists_name hwidth
  rcases cell_fits name member hcell with hfits | hlimit
  · exact Or.inl hfits
  · exact Or.inr (by rw [hlimit]; decide)

/-- A name fills its column, and more if it is longer than the limit. -/
theorem length_padRight_name (hwidth : grid.widths[place]? = some width)
    (hname : grid.names[place]? = some name) :
    (Text.padRight width name).length = width + (name.length - widthLimit) := by
  obtain ⟨same, hsame, rfl⟩ := exists_name hwidth
  obtain rfl : name = same := Option.some.inj (hname.symm.trans hsame)
  have hlimit := grid.widthAt_le name place
  have hfits := grid.name_fits name place
  rw [Text.length_padRight]
  omega

end Grid

section

variable {first : Row} {rest : List Row}

theorem isLine_cells {row : Row} {names : List String}
    (texts : ∀ column text, row.get? column = some (.text text) → IsLine text) :
    ∀ cell ∈ Grid.cellsOf names row, IsLine cell := by
  intro cell member
  obtain ⟨name, -, rfl⟩ := List.mem_map.mp member
  cases hget : row.get? name with
  | none => exact show IsLine "" by decide
  | some value =>
      apply isLine_cellText
      rintro text rfl
      exact texts name text hget

theorem rowLines_plain (first : Row) (rest : List Row) :
    let grid := Grid.ofRows first rest
    rowLines .plain (first :: rest) = grid.header :: grid.ruleLine ::
      (first :: rest).map (fun row => grid.line (Grid.cellsOf first.names row)) ++
        ["", toString (rest.length + 1) ++ " row(s)"] := by
  simp [rowLines, Ink.paint, Grid.ofRows]

theorem splitOn_printed_rowLines (names : ∀ name ∈ first.names, IsLine name)
    (texts : ∀ row ∈ first :: rest, ∀ column text, row.get? column = some (.text text) →
      IsLine text) :
    ((printed (rowLines .plain (first :: rest))).toList.splitOn '\n').map String.ofList =
      rowLines .plain (first :: rest) ++ [""] := by
  apply splitOn_printed
  have hgap : IsLine Grid.gap := by decide
  let grid := Grid.ofRows first rest
  have hheader : IsLine grid.header :=
    isLine_intercalate hgap (isLine_laidOut (fun _ _ => isLine_padRight) names)
  have hlines : ∀ line ∈ grid.cells.map grid.line, IsLine line := by
    intro line member
    obtain ⟨cells, hcells, rfl⟩ := List.mem_map.mp member
    obtain ⟨row, hrow, rfl⟩ := List.mem_map.mp hcells
    exact isLine_intercalate hgap
      (isLine_laidOut (fun _ _ => isLine_fitted) (isLine_cells (texts row hrow)))
  have hcount : IsLine (toString (first :: rest).length ++ " row(s)") :=
    isLine_append.mpr ⟨isLine_toString _, by decide⟩
  have hall : ∀ line ∈ grid.header :: grid.ruleLine :: (grid.cells.map grid.line ++
      ["", toString (first :: rest).length ++ " row(s)"]), IsLine line := by
    rw [List.forall_mem_cons, List.forall_mem_cons, List.forall_mem_append]
    refine ⟨hheader, isLine_rule _, hlines, ?_⟩
    rw [List.forall_mem_cons, List.forall_mem_singleton]
    exact ⟨by decide, hcount⟩
  exact hall

/-- Rows as they are printed without colours. The printed text is the header,
the rule, a line for each row, an empty line and the number of rows. The lines
of the rows are as long as the rule, and each column starts at the same place in
all of them, its cells in full if they are at most as wide as the column, else
without what is beyond the width less one, and with an ellipsis. The names are
never cut: the header is longer than the rule, and a name stands further to the
right than the cells under it, by what the names, and the names before it, have
beyond the limit. So the header is aligned exactly if no name is longer than the
limit. -/
theorem rows_aligned_up_to_limit (first : Row) (rest : List Row)
    (names : ∀ name ∈ first.names, IsLine name)
    (texts : ∀ row ∈ first :: rest, ∀ column text, row.get? column = some (.text text) →
      IsLine text) :
    let grid := Grid.ofRows first rest
    let cell (row : Row) (name : String) := ((row.get? name).map cellText).getD ""
    let line (row : Row) := grid.line (first.names.map (cell row))
    ((printed (rowLines .plain (first :: rest))).toList.splitOn '\n').map String.ofList =
        grid.header :: grid.ruleLine :: (first :: rest).map line ++
          ["", toString (rest.length + 1) ++ " row(s)", ""] ∧
      (∀ row ∈ first :: rest, (line row).length = grid.ruleLine.length) ∧
      grid.header.length = grid.ruleLine.length + Grid.overhang first.names ∧
      (grid.header.length = grid.ruleLine.length ↔
        ∀ name ∈ first.names, name.length ≤ Grid.widthLimit) ∧
      ∀ (place : Nat) name, first.names[place]? = some name →
        ∃ width, grid.widths[place]? = some width ∧
          (∀ row ∈ first :: rest, ((line row).toList.drop (grid.start place)).take width =
            if (cell row name).length ≤ width then
              (cell row name).toList ++ List.replicate (width - (cell row name).length) ' '
            else (cell row name).toList.take (width - 1) ++ ['…']) ∧
          (grid.header.toList.drop (grid.start place +
              Grid.overhang (first.names.take place))).take (max width name.length) =
            name.toList ++ List.replicate (width - name.length) ' ' := by
  intro grid cell line
  have hfits (row : Row) (member : row ∈ first :: rest) (place width : Nat) (text : String)
      (hwidth : grid.widths[place]? = some width)
      (htext : (first.names.map (cell row))[place]? = some text) :
      text.length ≤ width ∨ 0 < width :=
    Grid.fits_of_mem (List.mem_map_of_mem member) hwidth htext
  have hrow (row : Row) (member : row ∈ first :: rest) :=
    grid.layout Grid.fitted (fun _ => 0) (List.length_map _) fun place width text hwidth htext =>
      Grid.length_fitted (hfits row member place width text hwidth htext)
  have hheader := grid.layout Text.padRight (fun name => name.length - Grid.widthLimit) rfl
    fun place width name => Grid.length_padRight_name
  have hlength : grid.header.length = grid.ruleLine.length + Grid.overhang first.names :=
    hheader.1
  refine ⟨?_, ?_, hlength, ?_, ?_⟩
  · rw [splitOn_printed_rowLines names texts, rowLines_plain, List.append_assoc]
    rfl
  · intro row member
    have h := (hrow row member).1
    rwa [List.map_const', List.sum_replicate_nat, Nat.mul_zero, Nat.add_zero] at h
  · rw [hlength, Nat.add_eq_left, Grid.overhang_eq_zero_iff]
  · intro place name hname
    have hwidth : grid.widths[place]? = some (grid.widthAt name place) :=
      Grid.getElem?_widths hname
    refine ⟨_, hwidth, ?_, ?_⟩
    · intro row member
      have htext : (first.names.map (cell row))[place]? = some (cell row name) := by
        rw [List.getElem?_map, hname, Option.map_some]
      have h := (hrow row member).2 place _ _ hwidth htext
      have hfit := hfits row member place _ _ hwidth htext
      rwa [Grid.length_fitted hfit, Grid.toList_fitted hfit, List.map_const',
        List.sum_replicate_nat, Nat.mul_zero, Nat.add_zero] at h
    · have h := hheader.2 place _ name hwidth hname
      rw [Text.length_padRight, Text.padRight, String.toList_ofList] at h
      exact h

def novel : Row :=
  Row.ofList [("id", .int 1), ("title", .text "Twenty Thousand Leagues Under the Sea, part one"),
    ("year", .null)]

def untitled : Row :=
  Row.ofList [("title", .text ""), ("id", .int 2)]

theorem rows_aligned_up_to_limit_novels :
    let rows := [novel, untitled]
    let grid := Grid.ofRows novel [untitled]
    let line (row : Row) := grid.line (Grid.cellsOf novel.names row)
    (∀ name ∈ novel.names, IsLine name) ∧
      (∀ row ∈ rows, ∀ column text, row.get? column = some (.text text) → IsLine text) ∧
      ((printed (rowLines .plain rows)).toList.splitOn '\n').map String.ofList =
        [grid.header, grid.ruleLine, line novel, line untitled, "", "2 row(s)", ""] ∧
      grid.header.length = grid.ruleLine.length ∧
      (∀ row ∈ rows, (line row).length = grid.ruleLine.length) ∧
      ((line novel).toList.drop (grid.start 1)).take 40 =
        "Twenty Thousand Leagues Under the Sea, …".toList := by
  intro rows grid line
  have hnames : ∀ name ∈ novel.names, IsLine name := by decide
  have htexts : ∀ row ∈ rows, ∀ column text, row.get? column = some (.text text) →
      IsLine text := by
    intro row member column text hget
    have hpair := Row.mem_columns_iff.mpr hget
    have hcolumns : novel.columns = [("id", .int 1),
        ("title", .text "Twenty Thousand Leagues Under the Sea, part one"), ("year", .null)] ∧
        untitled.columns = [("title", .text ""), ("id", .int 2)] := by decide
    rcases List.mem_pair.mp member with rfl | rfl
    · obtain ⟨-, rfl⟩ : column = "title" ∧
          text = "Twenty Thousand Leagues Under the Sea, part one" := by
        simpa [hcolumns.1] using hpair
      decide
    · obtain ⟨-, rfl⟩ : column = "title" ∧ text = "" := by simpa [hcolumns.2] using hpair
      decide
  obtain ⟨hprinted, hlines, -, hheader, hcells⟩ :=
    rows_aligned_up_to_limit novel [untitled] hnames htexts
  obtain ⟨width, hwidth, htitle, -⟩ := hcells 1 "title" (by decide)
  have hlimit : (Grid.ofRows novel [untitled]).widths[1]? = some 40 := by decide
  obtain rfl : 40 = width := Option.some.inj (hlimit.symm.trans hwidth)
  refine ⟨hnames, htexts, hprinted, hheader.mpr (by decide), hlines, ?_⟩
  refine (htitle novel (by simp)).trans ?_
  decide

def census : Row :=
  Row.ofList [("population_at_the_last_census_in_millions", .int 84), ("year", .int 2011)]

/-- A name beyond the limit makes the header longer than the rule and the rows,
and moves the next name away from its column. -/
theorem misaligned_under_long_name_census :
    let grid := Grid.ofRows census []
    let line := grid.line (Grid.cellsOf census.names census)
    (∀ name ∈ census.names, IsLine name) ∧
      (∀ column text, census.get? column = some (.text text) → IsLine text) ∧
      rowLines .plain [census] = [grid.header, grid.ruleLine, line, "", "1 row(s)"] ∧
      (grid.header.length, grid.ruleLine.length, line.length) = (47, 46, 46) ∧
      (grid.header.toList.idxOf 'y', line.toList.idxOf '2') = (43, 42) := by
  intro grid line
  refine ⟨by decide, ?_, rowLines_plain census [], by decide +kernel, by decide +kernel⟩
  intro column text hget
  have hpair := Row.mem_columns_iff.mpr hget
  have hcolumns : census.columns =
      [("population_at_the_last_census_in_millions", .int 84), ("year", .int 2011)] := by decide
  simp [hcolumns] at hpair

end

end RowGraph.Display
