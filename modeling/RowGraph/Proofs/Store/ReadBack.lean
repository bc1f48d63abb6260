import RowGraph.Cypher.Literal
import RowGraph.Proofs.Time.Instant
import RowGraph.Proofs.Value.Coerce
import RowGraph.Store.Cell

/-!
Values that are bound and read back. A value that was read from a column of any
class, or of none, is the same after it was bound and read again: truth values
go through the integers 0 and 1, instants through their RFC 3339 text. Only the
instants of years that RFC 3339 does not have come back as that text.
-/

namespace RowGraph

namespace Value

/-- A value that a cell shows is shown by the cell that it is bound as. -/
theorem value_ofValue_value (cell : Cell) : (Cell.ofValue cell.value).value = cell.value := by
  cases cell with
  | null => rfl
  | integer i => rfl
  | real x => rfl
  | text bytes => exact Cell.value_ofValue_text _
  | blob bytes => exact Cell.value_ofValue_text _

theorem value_ne_timestamp (cell : Cell) (t : Instant) : cell.value ≠ .timestamp t := by
  cases cell <;> exact nofun

/-- The values that come back in a class when they are bound: all that the class
reads, but for the instants of some years. -/
theorem coerce_ofValue_iff {type : ColumnType} {v : Value} (h : IsOf type v) :
    (Cell.ofValue v).value.coerce type = v ↔
      ∀ t, v = .timestamp t → 0 ≤ t.date.year ∧ t.date.year ≤ 9999 := by
  -- What is bound as a cell that shows it is of its class still.
  have hsame (hshown : (Cell.ofValue v).value = v) (hno : ∀ t, v ≠ .timestamp t) :
      (Cell.ofValue v).value.coerce type = v ↔
        ∀ t, v = .timestamp t → 0 ≤ t.date.year ∧ t.date.year ≤ 9999 := by
    rw [hshown, coerce_of_unread (read?_of_isOf h)]
    exact iff_of_true rfl fun t ht => absurd ht (hno t)
  cases h with
  | integer i => exact hsame rfl (by simp)
  | real x => exact hsame rfl (by simp)
  | text s => exact hsame (Cell.value_ofValue_text s) (by simp)
  | boolean b =>
      have hback : (Cell.ofValue (.bool b)).value.coerce .boolean = .bool b := by
        cases b <;> rfl
      exact iff_of_true hback (by simp)
  | timestamp t =>
      have hshown : (Cell.ofValue (.timestamp t)).value = .text t.utcText :=
        Cell.value_ofValue_text _
      have hback : (Cell.ofValue (.timestamp t)).value.coerce .timestamp = .timestamp t ↔
          Instant.read? t.utcText = some t := by
        rw [hshown, coerce, read?, toTimestamp]
        cases Instant.read? t.utcText <;> simp
      rw [hback, t.read?_utcText_eq_some_iff]
      constructor
      · rintro hyear u ⟨⟩
        exact hyear
      · intro hyear
        exact hyear t rfl
  | whole i => exact hsame rfl (by simp)
  | number x => exact hsame rfl (by simp)

/-- Every value that is read from a cell, in a column of any class or of none,
comes back when it is bound and read again, exactly if it is not an instant
before the year 0 or after the year 9999. The text that such an instant has in
statements and in cells is read as the instant, to the nanosecond and with leap
seconds. -/
theorem read_back :
    (∀ (type : Option ColumnType) (cell : Cell),
      (Cell.ofValue (cell.value.fit type)).value.fit type = cell.value.fit type ↔
        ∀ t, cell.value.fit type = .timestamp t → 0 ≤ t.date.year ∧ t.date.year ≤ 9999) ∧
    ∀ t : Instant,
      Cypher.literal (.timestamp t) = Cypher.quote t.utcText ∧
      Cell.ofValue (.timestamp t) = .text t.utcText.toUTF8 ∧
      (Instant.read? t.utcText = some t ↔ 0 ≤ t.date.year ∧ t.date.year ≤ 9999) := by
  refine ⟨?_, fun t => ⟨rfl, rfl, t.read?_utcText_eq_some_iff⟩⟩
  intro type cell
  have hshown := value_ofValue_value cell
  have hno (t : Instant) (ht : cell.value = .timestamp t) :
      0 ≤ t.date.year ∧ t.date.year ≤ 9999 :=
    absurd ht (value_ne_timestamp cell t)
  cases type with
  | none => exact iff_of_true hshown hno
  | some type =>
      cases hread : cell.value.read? type with
      | none =>
          have hv : cell.value.coerce type = cell.value := coerce_of_unread hread
          rw [fit, fit, hv, hshown, hv]
          exact iff_of_true rfl hno
      | some v =>
          rw [fit, fit, coerce_of_read? hread]
          exact coerce_ofValue_iff (isOf_of_read? hread)

/-- A quarter into the leap second at the end of 2016, in a column of
instants. -/
theorem read_back_leapSecond :
    ∃ t : Instant, t.utcText = "2016-12-31T23:59:60.250Z" ∧
      (Cell.text "2016-12-31 23:59:60.25".toUTF8).value.fit (some .timestamp) = .timestamp t ∧
      (Cell.ofValue (.timestamp t)).value.fit (some .timestamp) = .timestamp t ∧
      Instant.read? t.utcText = some t := by
  have hshown : (Cell.text "2016-12-31 23:59:60.25".toUTF8).value =
      .text "2016-12-31 23:59:60.25" := Cell.value_ofValue_text _
  have hfit : (Cell.text "2016-12-31 23:59:60.25".toUTF8).value.fit (some .timestamp) =
      .timestamp ⟨1483228799, 1250000000, by decide, by decide⟩ := by
    rw [hshown]
    rfl
  obtain ⟨hback, htext⟩ := read_back
  refine ⟨_, by decide, hfit, ?_, (htext _).2.2.mpr (by decide)⟩
  rw [← hfit]
  apply (hback (some .timestamp) _).mpr
  intro t ht
  rw [hfit] at ht
  obtain rfl := Value.timestamp.inj ht
  decide

end Value

end RowGraph
