import RowGraph.Proofs.Decimal.Integers
import RowGraph.Value

/-!
Numbers in columns of integers. A floating-point number becomes an integer
exactly if its value is an integer that 64 bits hold, and otherwise stays as it
is, so two different numbers never become one key. An integer that a column of
reals has turned into a floating-point number comes back as itself exactly if it
has a number of its own, else as the closest one.
-/

namespace RowGraph.Value

open Binary64

theorem coerce_integer_float (x : Binary64) :
    (Value.float x).coerce .integer = (x.toInt64?.map Value.int).getD (.float x) := rfl

theorem coerce_float_eq_int_iff (x : Binary64) (i : Int64) :
    (Value.float x).coerce .integer = .int i ↔ x.isFinite = true ∧ x.value = i.toInt := by
  rw [coerce_integer_float, value_eq_int_iff, ← toInt64?_eq_some_iff]
  cases x.toInt64? <;> simp

theorem coerce_float_eq_self_iff (x : Binary64) :
    (Value.float x).coerce .integer = .float x ↔
      ¬∃ i : Int64, x.isFinite = true ∧ x.value = i.toInt := by
  simp only [← coerce_float_eq_int_iff]
  rw [coerce_integer_float]
  cases x.toInt64? <;> simp

theorem natAbs_toInt_le (i : Int64) : i.toInt.natAbs ≤ 0x8000000000000000 := by
  have hlower : -0x8000000000000000 ≤ i.toInt := i.le_toInt
  have hupper : i.toInt < 0x8000000000000000 := i.toInt_lt
  omega

/-- An integer that became a number comes back as the integer that is closest
to it, or stays the number 2^63 where this is closest. -/
theorem coerce_integer_ofInt (i : Int64) :
    (∃ j : Int64, (ofInt i.toInt).value = j.toInt ∧
        (Value.float (.ofInt i.toInt)).coerce .integer = .int j) ∨
      (ofInt i.toInt).value = 2 ^ 63 ∧
        (Value.float (.ofInt i.toInt)).coerce .integer = .float (.ofInt i.toInt) := by
  have hfinite : (ofInt i.toInt).isFinite = true := (isNearest_ofInt (natAbs_toInt_le i)).finite
  obtain ⟨j, hplace, hbound⟩ := exists_place_ofInt (natAbs_toInt_le i)
  rw [← value_eq_int_iff] at hplace
  by_cases hlimit : j = 0x8000000000000000
  · right
    have hvalue : (ofInt i.toInt).value = 2 ^ 63 := by
      rw [hplace, hlimit]
      norm_num
    refine ⟨hvalue, (coerce_float_eq_self_iff _).mpr ?_⟩
    rintro ⟨k, -, hk⟩
    have hsame : j = k.toInt := by exact_mod_cast hplace.symm.trans hk
    have hupper : k.toInt < 0x8000000000000000 := k.toInt_lt
    omega
  · left
    have hword : (Int64.ofInt j).toInt = j :=
      Int64.toInt_ofInt_of_le (by omega) (by omega)
    refine ⟨.ofInt j, by rw [hplace, hword], ?_⟩
    exact (coerce_float_eq_int_iff _ _).mpr ⟨hfinite, by rw [hplace, hword]⟩

/-- A column of integers reads a floating-point number as the integer that it is
equal to, and leaves it alone if there is none among 64 bits: NaN, the
infinities, fractions and everything from 2^63 on and below -2^63. So an integer
survives a column of reals exactly if a floating-point number is equal to it.
Any other one becomes the closest number, the even one of two, and comes back as
that integer, or as the number 2^63 where it was rounded up to it. -/
theorem integers_read_exactly :
    (∀ (x : Binary64) (i : Int64),
      (Value.float x).coerce .integer = .int i ↔ x.isFinite = true ∧ x.value = i.toInt) ∧
    (∀ x : Binary64, (Value.float x).coerce .integer = .float x ↔
      ¬∃ i : Int64, x.isFinite = true ∧ x.value = i.toInt) ∧
    (∀ i : Int64, ((Value.int i).coerce .real).coerce .integer = .int i ↔
      ∃ x : Binary64, x.isFinite = true ∧ x.value = i.toInt) ∧
    ∀ i : Int64, ∃ x : Binary64, x.IsNearest i.toInt ∧
      ((∃ j : Int64, x.value = j.toInt ∧
          ((Value.int i).coerce .real).coerce .integer = .int j) ∨
        x.value = 2 ^ 63 ∧ ((Value.int i).coerce .real).coerce .integer = .float x) := by
  refine ⟨coerce_float_eq_int_iff, coerce_float_eq_self_iff, ?_, ?_⟩
  · intro i
    have hreal : (Value.int i).coerce .real = .float (.ofInt i.toInt) := rfl
    have hnearest := isNearest_ofInt (natAbs_toInt_le i)
    rw [hreal, coerce_float_eq_int_iff]
    constructor
    · intro hexact
      exact ⟨_, hexact⟩
    · rintro ⟨x, hfinite, hvalue⟩
      -- Where a number is equal to the integer, the closest one is.
      have hclosest := hnearest.closest x hfinite
      rw [hvalue, sub_self, abs_zero] at hclosest
      exact ⟨hnearest.finite, sub_eq_zero.mp (abs_nonpos_iff.mp hclosest)⟩
  · intro i
    exact ⟨.ofInt i.toInt, isNearest_ofInt (natAbs_toInt_le i), coerce_integer_ofInt i⟩

end RowGraph.Value
