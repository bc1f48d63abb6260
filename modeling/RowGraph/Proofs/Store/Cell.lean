import RowGraph.Proofs.Decimal.Integers
import RowGraph.Store.Cell

/-!
What cells are compared by. Two cells are equal in a condition exactly if they
have the same mark: the place of a number on the number line, or the bytes of a
text or a blob. Null has none. So a cell equals itself unless it is null, and
cells that equal the same cell equal each other.
-/

namespace RowGraph

theorem toList_loop (bytes : ByteArray) (index : Nat) (before : List UInt8) :
    ByteArray.toList.loop bytes index before = before.reverse ++ bytes.data.toList.drop index := by
  fun_induction ByteArray.toList.loop bytes index before with
  | case1 index before inside ih =>
      have hinside : index < bytes.data.toList.length := by simpa using inside
      rw [ih, List.drop_eq_getElem_cons hinside]
      simp [ByteArray.get!, inside]
  | case2 index before outside =>
      have hrest : bytes.data.toList.drop index = [] :=
        List.drop_eq_nil_of_le (by simpa using outside)
      rw [hrest, List.append_nil]

theorem bytes_eq_iff {a b : ByteArray} : a.toList = b.toList ↔ a = b := by
  simp only [ByteArray.toList, toList_loop, List.reverse_nil, List.nil_append, List.drop_zero,
    Array.toList_inj]
  exact ByteArray.ext_iff.symm

namespace Cell

/-- What a cell is compared by. -/
inductive Mark where
  | number (place : Int)
  | text (bytes : ByteArray)
  | blob (bytes : ByteArray)

def mark? : Cell → Option Mark
  | .text bytes => some (.text bytes)
  | .blob bytes => some (.blob bytes)
  | cell => cell.place?.map .number

variable {a b c : Cell}

theorem equal_iff : a.equal b = true ↔ a ≠ .null ∧ a.mark? = b.mark? := by
  cases a <;> cases b <;>
    simp only [equal, mark?, place?, beq_iff_eq, bytes_eq_iff, Option.map_some, Option.map_none,
      Option.some.injEq, Mark.number.injEq, Mark.text.injEq, Mark.blob.injEq, ne_eq, reduceCtorEq,
      not_false_eq_true, not_true_eq_false, true_and, false_and, Bool.false_eq_true]

theorem equal_self (h : a ≠ .null) : a.equal a = true :=
  equal_iff.mpr ⟨h, rfl⟩

/-- Cells that equal the same cell equal each other. -/
theorem equal_of_equal (ha : a.equal c = true) (hb : b.equal c = true) : a.equal b = true := by
  obtain ⟨hne, ha⟩ := equal_iff.mp ha
  exact equal_iff.mpr ⟨hne, ha.trans (equal_iff.mp hb).2.symm⟩

/-- A text equals no other cell. -/
theorem text_equal_iff {bytes : ByteArray} : (text bytes).equal b = true ↔ b = .text bytes := by
  cases b with
  | text other => rw [equal, beq_iff_eq, bytes_eq_iff, text.injEq, eq_comm]
  | _ => exact ⟨nofun, nofun⟩

/-- A blob equals no other cell. -/
theorem blob_equal_iff {bytes : ByteArray} : (blob bytes).equal b = true ↔ b = .blob bytes := by
  cases b with
  | blob other => rw [equal, beq_iff_eq, bytes_eq_iff, blob.injEq, eq_comm]
  | _ => exact ⟨nofun, nofun⟩

/-- A floating-point number equals the integer that it can be read as. -/
theorem real_equal_integer {x : Binary64} {i : Int64} (h : x.toInt64? = some i) :
    (real x).equal (.integer i) = true := by
  have hplace := ((Binary64.toInt64?_eq_some_iff x i).mp h).2
  refine equal_iff.mpr ⟨nofun, ?_⟩
  simp only [mark?, place?, hplace]

end Cell

end RowGraph
