import RowGraph.Proofs.Store.Cell
import RowGraph.Proofs.Value.Coerce
import RowGraph.Store.Database

/-!
Values that are bound again. A value that was read from a column is a cell
fitted to the class of the column. Bound in a condition on that column it
becomes a cell again, in the form that the column keeps its cells in, and this
cell need not equal the one that was read: a blob shows the text of its digits,
bytes that are no text show another text, and a text that the class reads as a
number, a truth value or an instant is bound as that.

Every number is found again. The cells that a column can hold are restricted by
its affinity, and a class reads numbers as texts only in columns of an affinity
that keeps no numbers.
-/

namespace RowGraph

/-- The affinity that the columns of a class have; some classes have columns of
every affinity. -/
def ColumnType.affinity? : ColumnType → Option Affinity
  | .integer | .real | .numeric => some .numeric
  | .text => some .text
  | .boolean | .timestamp | .blob => none

namespace Affinity

variable {affinity : Affinity} {cell : Cell} {bytes : ByteArray}

/-- Classes and affinities look for the parts of a declaration in different
orders, but never disagree on what is a number and what is a text. -/
theorem ofDeclared_eq {declared : String}
    (h : (ColumnType.ofDeclared declared).affinity? = some affinity) :
    ofDeclared declared = affinity := by
  unfold ColumnType.ofDeclared at h
  unfold ofDeclared
  dsimp only at h ⊢
  split at h
  · cases h
  · split at h
    · cases h
    · split at h
      · rename_i hint
        rw [if_pos hint]
        exact Option.some.inj h
      · rename_i hint
        rw [if_neg hint]
        split at h
        · rename_i htext
          rw [if_pos htext]
          exact Option.some.inj h
        · rename_i htext
          rw [if_neg htext]
          split at h
          · cases h
          · rename_i hblob
            rw [if_neg hblob]
            split at h
            · exact Option.some.inj h
            · exact Option.some.inj h

theorem kind_of_readNumber? (h : readNumber? bytes = some cell) : cell.kind = 1 := by
  unfold readNumber? at h
  dsimp only at h
  split at h
  · rw [← Option.some.inj h]
    rfl
  · obtain ⟨number, -, rfl⟩ := Option.map_eq_some_iff.mp h
    rfl

/-- A text stays as it is or becomes a number. -/
theorem fit_text (affinity : Affinity) (bytes : ByteArray) :
    affinity.fit (.text bytes) = .text bytes ∨ (affinity.fit (.text bytes)).kind = 1 := by
  cases affinity with
  | numeric =>
      cases hread : readNumber? bytes with
      | none => exact .inl (by simp [fit, hread])
      | some cell => exact .inr (by simpa [fit, hread] using kind_of_readNumber? hread)
  | text => exact .inl rfl
  | asGiven => exact .inl rfl

theorem kind_fit_ne (h : cell.kind ≠ 3) : (affinity.fit cell).kind ≠ 3 := by
  cases cell with
  | null => rwa [fit_null]
  | integer i => cases affinity <;> exact nofun
  | real x => cases affinity <;> exact nofun
  | text bytes =>
      rcases affinity.fit_text bytes with hsame | hnumber
      · rwa [hsame]
      · rw [hnumber]
        exact nofun
  | blob bytes => exact absurd rfl h

theorem eq_of_fit_text {other : ByteArray} (h : affinity.fit (.text other) = .text bytes) :
    other = bytes := by
  rcases affinity.fit_text other with hsame | hnumber
  · exact Cell.text.inj (hsame.symm.trans h)
  · rw [h] at hnumber
    cases hnumber

end Affinity

namespace Column

variable {column : Column} {cell : Cell} {bytes : ByteArray}

theorem affinity_eq {type : ColumnType} {affinity : Affinity} (h : column.type? = some type)
    (known : type.affinity? = some affinity) : column.affinity = affinity := by
  unfold type? at h
  split at h
  · cases h
  · apply Affinity.ofDeclared_eq
    rw [Option.some.inj h, known]

/-- A value stays as it is in a column, or the column has a class that reads
it. -/
theorem fit_cases (column : Column) (v : Value) :
    v.fit column.type? = v ∨
      ∃ type, column.type? = some type ∧ v.read? type = some (v.fit column.type?) := by
  cases htype : column.type? with
  | none => exact .inl rfl
  | some type =>
      cases hread : v.read? type with
      | none => exact .inl (by simp [Value.fit, Value.coerce, hread])
      | some w => exact .inr ⟨type, rfl, by simp [Value.fit, Value.coerce, hread]⟩

/-- The cell that the value of a cell is bound as in a condition on its
column. -/
def rebound (column : Column) (cell : Cell) : Cell :=
  column.affinity.fit (Cell.ofValue (cell.value.fit column.type?)).taken

/-- That a column can hold a cell. The cell is in the form that the column keeps
and is taken as it is, which rules out NaN, and a column for floating-point
numbers has no integers. -/
structure Keeps (column : Column) (cell : Cell) : Prop where
  fitted : column.affinity.fit cell = cell
  taken : cell.taken = cell
  real : column.type? = some .real → ∀ i, cell ≠ .integer i

theorem keeps_text (fitted : column.affinity.fit (.text bytes) = .text bytes) :
    column.Keeps (.text bytes) := by
  refine ⟨fitted, rfl, ?_⟩
  intro _ i h
  cases h

/-- A column that keeps numbers as they are is not one for texts. -/
theorem Keeps.affinity_ne_text (keeps : column.Keeps cell) (number : cell.kind = 1) :
    column.affinity ≠ .text := by
  intro htext
  have hkept := keeps.fitted
  rw [htext] at hkept
  cases cell with
  | integer i => cases hkept
  | real x => cases hkept
  | _ => cases number

/-- The cells of a column that equal what their values are bound as: numbers,
texts for which the class of the column has no reading, instants in the spelling
that they are bound in, and the digits of the truth values in a column of
texts. -/
inductive Rebinds (column : Column) : Cell → Prop where
  | integer (i : Int64) : Rebinds column (.integer i)
  | real (x : Binary64) : Rebinds column (.real x)
  | text (s : String) (unread : (Value.text s).fit column.type? = .text s) :
      Rebinds column (.text s.toUTF8)
  | instant (t : Instant) (typed : column.type? = some .timestamp)
      (read : Instant.read? t.utcText = some t) : Rebinds column (.text t.utcText.toUTF8)
  | digit (b : Bool) (typed : column.type? = some .boolean) (texts : column.affinity = .text) :
      Rebinds column (.text (if b then "1" else "0").toUTF8)

/-- An integer is bound as itself. -/
theorem rebound_integer {i : Int64} (keeps : column.Keeps (.integer i)) :
    column.rebound (.integer i) = .integer i := by
  have hbound : Cell.ofValue ((Value.int i).fit column.type?) = .integer i := by
    rcases column.fit_cases (.int i) with hsame | ⟨type, htype, hread⟩
    · rw [hsame]
      rfl
    · cases type with
      | real => exact absurd rfl (keeps.real htype i)
      | text => exact absurd (affinity_eq htype rfl) (keeps.affinity_ne_text rfl)
      | boolean =>
          simp only [Value.read?, Value.toBool] at hread
          split at hread
          · rename_i hzero
            rw [← Option.some.inj hread, hzero]
            rfl
          · split at hread
            · rename_i hone
              rw [← Option.some.inj hread, hone]
              rfl
            · cases hread
      | _ => cases hread
  have htaken : (Cell.integer i).taken = .integer i := rfl
  rw [rebound, Cell.value, hbound, htaken, keeps.fitted]

/-- A floating-point number is bound as itself or as the integer that it
equals. -/
theorem real_equal_rebound {x : Binary64} (keeps : column.Keeps (.real x)) :
    (Cell.real x).equal (column.rebound (.real x)) = true := by
  unfold rebound
  simp only [Cell.value]
  rcases column.fit_cases (.float x) with hsame | ⟨type, htype, hread⟩
  · rw [hsame, Cell.ofValue, keeps.taken, keeps.fitted]
    exact Cell.equal_self (by simp)
  · cases type with
    | integer =>
        obtain ⟨i, hi, hvalue⟩ : ∃ i, x.toInt64? = some i ∧
            Value.int i = (Value.float x).fit column.type? := by
          simpa [Value.read?, Value.toInteger] using hread
        rw [← hvalue, affinity_eq htype rfl]
        exact Cell.real_equal_integer hi
    | text => exact absurd (affinity_eq htype rfl) (keeps.affinity_ne_text rfl)
    | _ => cases hread

/-- A text that is bound as itself is one that is found again. -/
theorem rebinds_of_rebound_text (h : column.rebound (.text bytes) = .text bytes) :
    column.Rebinds (.text bytes) := by
  unfold rebound at h
  simp only [Cell.value] at h
  rcases column.fit_cases (.text (Text.ofBytes bytes)) with hsame | ⟨type, htype, hread⟩
  · rw [hsame] at h
    rw [← Affinity.eq_of_fit_text h]
    exact .text _ hsame
  · generalize (Value.text (Text.ofBytes bytes)).fit column.type? = value at h hread
    -- The class has read the text, so its value is of the kind of the class.
    cases Value.isOf_of_read? hread with
    | integer i | whole i =>
        rw [affinity_eq htype rfl] at h
        cases h
    | real x | number x =>
        rw [affinity_eq htype rfl, Cell.ofValue, Cell.taken] at h
        split at h
        · cases h
        · cases h
    | text s => cases hread
    | boolean b =>
        cases haffinity : column.affinity with
        | numeric =>
            rw [haffinity] at h
            cases h
        | asGiven =>
            rw [haffinity] at h
            cases h
        | text =>
            rw [haffinity] at h
            obtain rfl := Cell.text.inj h
            cases b with
            | false => exact .digit false htype haffinity
            | true => exact .digit true htype haffinity
    | timestamp t =>
        obtain rfl := Affinity.eq_of_fit_text h
        rw [Text.ofBytes_toUTF8] at hread
        have hinstant : Instant.read? t.utcText = some t := by
          simpa [Value.read?, Value.toTimestamp] using hread
        exact .instant t htype hinstant

theorem rebound_text_of_rebinds (keeps : column.Keeps (.text bytes))
    (rebinds : column.Rebinds (.text bytes)) : column.rebound (.text bytes) = .text bytes := by
  have hfitted := keeps.fitted
  cases rebinds with
  | text s unread =>
      rw [rebound, Cell.value, Text.ofBytes_toUTF8, unread]
      exact hfitted
  | instant t typed read =>
      have hvalue : (Value.text t.utcText).fit column.type? = .timestamp t := by
        simp [Value.fit, typed, Value.coerce, Value.read?, Value.toTimestamp, read]
      rw [rebound, Cell.value, Text.ofBytes_toUTF8, hvalue]
      exact hfitted
  | digit b typed texts =>
      rw [rebound, Cell.value, Text.ofBytes_toUTF8, typed, texts]
      cases b with
      | false => rfl
      | true => rfl

/-- A value is never bound as a blob. -/
theorem rebound_ne_blob (column : Column) (cell : Cell) (bytes : ByteArray) :
    column.rebound cell ≠ .blob bytes := by
  intro h
  unfold rebound at h
  generalize cell.value.fit column.type? = value at h
  have hbound : (Cell.ofValue value).taken.kind ≠ 3 := by
    cases value with
    | float x =>
        rw [Cell.ofValue, Cell.taken]
        split
        · exact nofun
        · exact nofun
    | _ => exact nofun
  apply Affinity.kind_fit_ne hbound
  rw [h]
  rfl

/-- A cell that a column can hold equals what its value is bound as exactly if
it is one of those that are found again. -/
theorem equal_rebound_iff (keeps : column.Keeps cell) :
    cell.equal (column.rebound cell) = true ↔ column.Rebinds cell := by
  cases cell with
  | null =>
      rw [Cell.null_equal]
      exact ⟨nofun, nofun⟩
  | integer i =>
      rw [rebound_integer keeps]
      exact ⟨fun _ => .integer i, fun _ => Cell.equal_self (by simp)⟩
  | real x => exact ⟨fun _ => .real x, fun _ => real_equal_rebound keeps⟩
  | text bytes =>
      rw [Cell.text_equal_iff]
      exact ⟨rebinds_of_rebound_text, rebound_text_of_rebinds keeps⟩
  | blob bytes =>
      rw [Cell.blob_equal_iff]
      exact ⟨fun h => absurd h (rebound_ne_blob column _ bytes), nofun⟩

end Column

end RowGraph
