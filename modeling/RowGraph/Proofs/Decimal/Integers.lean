import Mathlib.Algebra.Order.Field.Rat
import Mathlib.Algebra.Order.Group.Unbundled.Abs
import Mathlib.Algebra.Order.Field.Basic
import Mathlib.Tactic.FieldSimp
import Mathlib.Tactic.NormNum
import RowGraph.Proofs.Decimal.Rounding

/-!
Floating-point numbers and integers of 64 bits. A number is an integer of 64
bits exactly if its value is one; the bounds that this is tested with are
themselves rounded, but the rounding falls between the integers. In the other
direction every integer becomes the closest number, an even one if two are
equally close, and this number has no part behind the point.
-/

namespace RowGraph.Binary64

/-- The rational number that a finite number stands for: without the leading bit
if the exponent is the lowest, else with it. -/
def value (x : Binary64) : ℚ :=
  let exponent := x.magnitude / step
  let fraction := x.magnitude % step
  let size : ℚ :=
    if exponent = 0 then fraction * 2 ^ (-1074 : ℤ)
    else (step + fraction : Nat) * 2 ^ ((exponent : ℤ) - 1075)
  if x.negative then -size else size

/-- That no finite number is closer to `q` than `x`, and that `x` is even if
another one is as close. -/
structure IsNearest (x : Binary64) (q : ℚ) : Prop where
  finite : x.isFinite = true
  closest : ∀ y : Binary64, y.isFinite = true → |x.value - q| ≤ |y.value - q|
  even : ∀ y : Binary64, y.isFinite = true → |x.value - q| = |y.value - q| →
    x.value = y.value ∨ x.magnitude % 2 = 0

theorem cast_unitsOfOne : (unitsOfOne : ℚ) = 2 ^ (1074 : ℤ) := by
  rw [unitsOfOne_eq, Nat.cast_pow, ← zpow_natCast]
  rfl

theorem cast_unitsOfOne_pos : (0 : ℚ) < unitsOfOne :=
  Nat.cast_pos.mpr unitsOfOne_pos

/-- The value of a number is its place, counted in ones. -/
theorem value_eq (x : Binary64) : x.value = x.place / unitsOfOne := by
  have hsize : (if x.magnitude / step = 0 then ((x.magnitude % step : Nat) : ℚ) * 2 ^ (-1074 : ℤ)
      else (step + x.magnitude % step : Nat) * 2 ^ (((x.magnitude / step : Nat) : ℤ) - 1075)) =
      units x.magnitude / unitsOfOne := by
    rw [cast_unitsOfOne]
    unfold units
    by_cases hsmall : x.magnitude < step
    · rw [if_pos hsmall, if_pos (Nat.div_eq_of_lt hsmall), Nat.mod_eq_of_lt hsmall, zpow_neg,
        div_eq_mul_inv]
    · have hexponent : x.magnitude / step ≠ 0 := by
        simp only [step] at *
        omega
      have hpower : ((x.magnitude / step : Nat) : ℤ) - 1075 =
          ((x.magnitude / step - 1 : Nat) : ℤ) - 1074 := by
        have hpos : 0 < x.magnitude / step := Nat.pos_of_ne_zero hexponent
        omega
      rw [if_neg hsmall, if_neg hexponent, hpower, zpow_sub₀ (by norm_num), Nat.cast_mul,
        zpow_natCast, mul_div_assoc]
      congr 2
      exact (Nat.cast_pow 2 _).symm
  unfold value place
  dsimp only
  rw [hsize]
  cases x.negative with
  | false => rw [if_neg Bool.false_ne_true, if_neg Bool.false_ne_true, Int.cast_natCast]
  | true => rw [if_pos rfl, if_pos rfl, Int.cast_neg, Int.cast_natCast, neg_div]

theorem value_eq_int_iff (x : Binary64) (i : Int) : x.value = i ↔ x.place = i * unitsOfOne := by
  rw [value_eq, div_eq_iff cast_unitsOfOne_pos.ne']
  exact_mod_cast Iff.rfl

theorem value_eq_value_iff (x y : Binary64) : x.value = y.value ↔ x.place = y.place := by
  rw [value_eq, value_eq, div_left_inj' cast_unitsOfOne_pos.ne']
  exact_mod_cast Iff.rfl

theorem abs_value_sub (x : Binary64) (i : Int) :
    |x.value - i| = ((x.place - i * unitsOfOne).natAbs : ℚ) / unitsOfOne := by
  have hsub : x.value - i = ((x.place - i * unitsOfOne : Int) : ℚ) / unitsOfOne := by
    rw [value_eq, Int.cast_sub, Int.cast_mul, Int.cast_natCast, sub_div,
      mul_div_cancel_right₀ _ cast_unitsOfOne_pos.ne']
  rw [hsub, abs_div, abs_of_pos cast_unitsOfOne_pos, Nat.cast_natAbs, Int.cast_abs]

theorem nearest_limit : nearest 0x8000000000000000 1 = 1086 * step := by
  decide +kernel

theorem units_limit : units (1086 * step) = 0x8000000000000000 * unitsOfOne := by
  decide +kernel

theorem nearest_le_limit {n : Nat} (h : n ≤ 0x8000000000000000) : nearest n 1 ≤ 1086 * step := by
  rw [← nearest_limit]
  exact nearest_mono Nat.one_pos Nat.one_pos (by omega)

/-- Naturals up to 2^53 have numbers of their own. -/
theorem exists_units_eq {n : Nat} (h : n < 2 * step) : ∃ m, units m = n * unitsOfOne := by
  by_cases hzero : n = 0
  · exact ⟨0, by rw [hzero, Nat.zero_mul, units_zero]⟩
  · have hlog : n.log2 < 53 := (Nat.log2_lt hzero).mpr h
    obtain ⟨up, hup⟩ : ∃ up, up = 52 - n.log2 := ⟨_, rfl⟩
    have hlower : step ≤ n * 2 ^ up := by
      calc step = 2 ^ n.log2 * 2 ^ up := by
            rw [← pow_add, show n.log2 + up = 52 by omega]
            rfl
        _ ≤ n * 2 ^ up := Nat.mul_le_mul_right _ (Nat.log2_self_le hzero)
    have hupper : n * 2 ^ up < 2 * step := by
      calc n * 2 ^ up < 2 ^ (n.log2 + 1) * 2 ^ up :=
            Nat.mul_lt_mul_of_pos_right Nat.lt_log2_self (Nat.two_pow_pos up)
        _ = 2 * step := by
            rw [← pow_add, show n.log2 + 1 + up = 53 by omega]
            rfl
    refine ⟨(1074 - up) * step + n * 2 ^ up, ?_⟩
    rw [units_of_splits ⟨rfl, hupper, .inr hlower⟩, Nat.mul_assoc, ← pow_add, unitsOfOne_eq,
      show up + (1074 - up) = 1074 by omega]

/-- From 2^52 on there is nothing behind the point. -/
theorem dvd_units {m : Nat} (h : 1075 * step ≤ m) : unitsOfOne ∣ units m := by
  obtain ⟨shift, significand, hsplits⟩ := exists_splits m
  have hshift : 1074 ≤ shift := by
    obtain ⟨heq, hlt, -⟩ := hsplits
    simp only [step] at *
    omega
  rw [units_of_splits hsplits, unitsOfOne_eq]
  exact Dvd.dvd.mul_left (pow_dvd_pow 2 hshift) significand

theorem dvd_units_nearest (n : Nat) : unitsOfOne ∣ units (nearest n 1) := by
  by_cases hsmall : n < 2 * step
  · obtain ⟨exact, hexact⟩ := exists_units_eq hsmall
    rw [nearest_of_exact Nat.one_pos (by rw [hexact, Nat.mul_one])]
    rcases le_total infinity exact with hle | hle
    · rw [Nat.min_eq_left hle]
      exact dvd_units (by decide)
    · rw [Nat.min_eq_right hle, hexact]
      exact Nat.dvd_mul_left _ _
  · have hfirst : nearest (2 * step) 1 = 1076 * step := by
      decide +kernel
    have hle : nearest (2 * step) 1 ≤ nearest n 1 :=
      nearest_mono Nat.one_pos Nat.one_pos (by omega)
    apply dvd_units
    simp only [step] at *
    omega

theorem place_ofInt (i : Int) :
    (ofInt i).place =
      if i < 0 then -(units (nearest i.natAbs 1) : Int) else units (nearest i.natAbs 1) := by
  simp only [place, ofInt, ofQuotient, decide_eq_true_eq]

/-- An integer of 64 bits becomes an integer that is at most 2^63 away from
zero. -/
theorem exists_place_ofInt {i : Int} (h : i.natAbs ≤ 0x8000000000000000) :
    ∃ j : Int, (ofInt i).place = j * unitsOfOne ∧ j.natAbs ≤ 0x8000000000000000 := by
  obtain ⟨k, hk⟩ := dvd_units_nearest i.natAbs
  have hbound : k ≤ 0x8000000000000000 := by
    have hle : units (nearest i.natAbs 1) ≤ units (1086 * step) :=
      units_strictMono.monotone (nearest_le_limit h)
    rw [hk, units_limit, Nat.mul_comm] at hle
    exact Nat.le_of_mul_le_mul_right hle unitsOfOne_pos
  rw [place_ofInt, hk]
  by_cases hneg : i < 0
  · refine ⟨-k, ?_, by omega⟩
    rw [if_pos hneg]
    push_cast
    ring
  · refine ⟨k, ?_, by omega⟩
    rw [if_neg hneg]
    push_cast
    ring

/-- Among numbers with a sign, `near` is as close to `target` as `other` is if
it is so without signs and zero is no closer. -/
theorem natAbs_sub_le_of_sign {near other target : Nat} (negative otherNegative : Bool)
    (hother : ((near : Int) - target).natAbs ≤ ((other : Int) - target).natAbs)
    (hzero : ((near : Int) - target).natAbs ≤ target) :
    let signed (negative : Bool) (size : Nat) : Int := if negative then -(size : Int) else size
    (signed negative near - signed negative target).natAbs ≤
        (signed otherNegative other - signed negative target).natAbs ∧
      ((signed negative near - signed negative target).natAbs =
          (signed otherNegative other - signed negative target).natAbs →
        ((near : Int) - target).natAbs = ((other : Int) - target).natAbs ∧
            otherNegative = negative ∨
          other = 0 ∧ ((near : Int) - target).natAbs = target) := by
  cases negative <;> cases otherNegative <;>
    simp only [Bool.false_eq_true, ↓reduceIte, and_true, and_false, false_or, reduceCtorEq] <;>
    omega

/-- The magnitude closest to a natural, by the distances of all magnitudes. -/
theorem closest_of_nearest {n near : Nat} (hnear : near = nearest n 1) (hfinite : near < infinity)
    (other : Nat) :
    ((units near : Int) - (n * unitsOfOne : Nat)).natAbs ≤
        ((units other : Int) - (n * unitsOfOne : Nat)).natAbs ∧
      (((units near : Int) - (n * unitsOfOne : Nat)).natAbs =
          ((units other : Int) - (n * unitsOfOne : Nat)).natAbs →
        near = other ∨ near % 2 = 0) := by
  obtain ⟨below, magnitude, hrounding, hnearest⟩ := exists_rounding n Nat.one_pos
  obtain rfl : near = magnitude := by
    rw [← hnear] at hnearest
    rcases le_total infinity magnitude with hle | hle
    · rw [Nat.min_eq_left hle] at hnearest
      exact absurd hnearest hfinite.ne
    · rwa [Nat.min_eq_right hle] at hnearest
  simpa only [Nat.mul_one] using hrounding.closest Nat.one_pos other

/-- The number that an integer becomes, by the distances of all numbers. -/
theorem closest_ofInt {i : Int} {near : Nat} (hnear : near = nearest i.natAbs 1)
    (hfinite : near < infinity) (y : Binary64) :
    ((ofInt i).place - i * unitsOfOne).natAbs ≤ (y.place - i * unitsOfOne).natAbs ∧
      (((ofInt i).place - i * unitsOfOne).natAbs = (y.place - i * unitsOfOne).natAbs →
        (ofInt i).place = y.place ∨ near % 2 = 0) := by
  have hclosest := closest_of_nearest hnear hfinite
  obtain ⟨target, htarget⟩ : ∃ target, target = i.natAbs * unitsOfOne := ⟨_, rfl⟩
  have hplace : (ofInt i).place =
      if decide (i < 0) = true then -(units near : Int) else units near := by
    rw [hnear]
    rfl
  have hi : i * unitsOfOne = if decide (i < 0) = true then -(target : Int) else target := by
    rw [htarget, Nat.cast_mul]
    by_cases hneg : i < 0
    · rw [if_pos (decide_eq_true hneg), show ((i.natAbs : Nat) : Int) = -i by omega]
      ring
    · rw [if_neg (by simpa using hneg), show ((i.natAbs : Nat) : Int) = i by omega]
  rw [← htarget] at hclosest
  have hzero : ((units near : Int) - target).natAbs ≤ target := by
    simpa using (hclosest 0).1
  obtain ⟨hle, htie⟩ :=
    natAbs_sub_le_of_sign (decide (i < 0)) y.negative (hclosest y.magnitude).1 hzero
  rw [hplace, hi]
  refine ⟨hle, fun heq => ?_⟩
  -- A tie with a number of the other sign means that both are zero.
  rcases htie heq with ⟨hsame, hsign⟩ | ⟨hother, hnone⟩
  · refine ((hclosest y.magnitude).2 hsame).imp_left fun hmagnitude => ?_
    rw [place, hsign, hmagnitude]
  · refine ((hclosest 0).2 (by simpa using hnone)).imp_left fun hmagnitude => ?_
    simp [place, hother, hmagnitude]

/-- An integer becomes the number closest to it. -/
theorem isNearest_ofInt {i : Int} (h : i.natAbs ≤ 0x8000000000000000) :
    (ofInt i).IsNearest i := by
  obtain ⟨near, hnear⟩ : ∃ near, near = nearest i.natAbs 1 := ⟨_, rfl⟩
  have hsmall : near < infinity := by
    calc near ≤ 1086 * step := hnear ▸ nearest_le_limit h
      _ < infinity := by decide
  have hclosest := closest_ofInt hnear hsmall
  constructor
  · rw [hnear] at hsmall
    exact decide_eq_true hsmall
  · intro y _
    rw [abs_value_sub, abs_value_sub, div_le_div_iff_of_pos_right cast_unitsOfOne_pos]
    exact_mod_cast (hclosest y).1
  · intro y _ heq
    rw [abs_value_sub, abs_value_sub, div_left_inj' cast_unitsOfOne_pos.ne'] at heq
    rw [value_eq_value_iff]
    refine ((hclosest y).2 (by exact_mod_cast heq)).imp_right fun heven => ?_
    rwa [hnear] at heven

theorem place_ofInt_minValue :
    (ofInt Int64.minValue.toInt).place = -0x8000000000000000 * unitsOfOne := by
  decide +kernel

theorem place_ofInt_maxValue :
    (ofInt Int64.maxValue.toInt).place = 0x8000000000000000 * unitsOfOne := by
  decide +kernel

theorem isNaN_of_isFinite {x : Binary64} (h : x.isFinite = true) : x.isNaN = false := by
  simp only [isFinite, isNaN, decide_eq_true_eq, decide_eq_false_iff_not] at *
  omega

theorem isIntegral_iff (x : Binary64) :
    x.isIntegral = true ↔ x.isFinite = true ∧ ∃ i : Int, x.place = i * unitsOfOne ∧
      -0x8000000000000000 ≤ i ∧ i < 0x8000000000000000 := by
  have hpos : (0 : Int) < unitsOfOne := Int.natCast_pos.mpr unitsOfOne_pos
  have hlowest : (ofInt Int64.minValue.toInt).isNaN = false := by
    decide +kernel
  have hgreatest : (ofInt Int64.maxValue.toInt).isNaN = false := by
    decide +kernel
  simp only [isIntegral, isWhole, atMost, less, hlowest, hgreatest, place_ofInt_minValue,
    place_ofInt_maxValue, Bool.and_eq_true, beq_iff_eq, decide_eq_true_eq, Bool.not_eq_true',
    true_and, and_assoc]
  constructor
  · rintro ⟨hfinite, hwhole, -, hlower, -, hupper⟩
    obtain ⟨i, hi⟩ := Int.dvd_of_emod_eq_zero hwhole
    rw [Int.mul_comm] at hi
    rw [hi] at hlower hupper
    exact ⟨hfinite, i, hi, Int.le_of_mul_le_mul_right hlower hpos,
      Int.lt_of_mul_lt_mul_right hupper hpos.le⟩
  · rintro ⟨hfinite, i, hi, hlower, hupper⟩
    rw [hi]
    exact ⟨hfinite, Int.mul_emod_left _ _, isNaN_of_isFinite hfinite,
      Int.mul_le_mul_of_nonneg_right hlower hpos.le, isNaN_of_isFinite hfinite,
      Int.mul_lt_mul_of_pos_right hupper hpos⟩

/-- In the range of 64-bit integers nothing is cut off. -/
theorem clamped_of_place {x : Binary64} {i : Int} (finite : x.isFinite = true)
    (h : x.place = i * unitsOfOne) (hlower : -0x8000000000000000 ≤ i)
    (hupper : i < 0x8000000000000000) : x.clamped = .ofInt i := by
  have hcut : x.place.tdiv unitsOfOne = i := by
    rw [h]
    exact Int.mul_tdiv_cancel _ (Int.natCast_pos.mpr unitsOfOne_pos).ne'
  have hmin : Int64.minValue.toInt = -0x8000000000000000 := by decide
  have hmax : Int64.maxValue.toInt = 0x7fffffffffffffff := by decide
  have hbounds : max (-0x8000000000000000) (min i 0x7fffffffffffffff) = i := by omega
  rw [clamped, if_neg (by simp [isNaN_of_isFinite finite])]
  dsimp only
  rw [hcut, hmin, hmax, hbounds]

theorem toInt64?_eq_some_iff (x : Binary64) (i : Int64) :
    x.toInt64? = some i ↔ x.isFinite = true ∧ x.place = i.toInt * unitsOfOne := by
  unfold toInt64?
  constructor
  · intro h
    split at h
    · rename_i hintegral
      obtain ⟨hfinite, j, hj, hlower, hupper⟩ := (isIntegral_iff x).mp hintegral
      rw [clamped_of_place hfinite hj hlower hupper] at h
      obtain rfl := Option.some.inj h
      rw [Int64.toInt_ofInt_of_le hlower hupper]
      exact ⟨hfinite, hj⟩
    · cases h
  · rintro ⟨hfinite, hi⟩
    have hlower : -0x8000000000000000 ≤ i.toInt := i.le_toInt
    have hupper : i.toInt < 0x8000000000000000 := i.toInt_lt
    rw [if_pos ((isIntegral_iff x).mpr ⟨hfinite, _, hi, hlower, hupper⟩),
      clamped_of_place hfinite hi hlower hupper, Int64.ofInt_toInt]

end RowGraph.Binary64
