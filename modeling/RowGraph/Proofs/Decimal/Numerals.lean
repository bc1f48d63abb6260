import RowGraph.Decimal.Shortest
import RowGraph.Proofs.Decimal.Rounding
import RowGraph.Proofs.Text.Digits

/-!
Numerals by their value. The magnitude closest to a numeral depends on digits
times power of ten alone, so zeros at the end of the digits may be traded for
the scale; and the shortcut for numerals that are far too large or too small
gives what rounding would give. The shortest digits of a finite magnitude are
digits that read back as it.
-/

namespace RowGraph

namespace Numeral

theorem width_pos (n : Nat) : 0 < width n :=
  Nat.length_toDigits_pos

theorem lt_pow_width (n : Nat) : n < 10 ^ width n :=
  (Nat.length_toDigits_le_iff (by decide) (width_pos n)).mp (Nat.le_refl _)

theorem pow_width_le {n : Nat} (h : n ≠ 0) : 10 ^ (width n - 1) ≤ n := by
  by_cases hone : width n = 1
  · rw [hone]
    exact Nat.one_le_iff_ne_zero.mpr h
  · have hpos : 0 < width n - 1 := by
      have hwidth := width_pos n
      omega
    by_contra hlt
    have hle : width n ≤ width n - 1 :=
      (Nat.length_toDigits_le_iff (by decide) hpos).mpr (Nat.not_le.mp hlt)
    omega

/-- A numeral as a quotient by any power of ten that is large enough. -/
theorem nearest_eq (n : Numeral) {places : Nat} (h : 0 ≤ places + n.scale) :
    n.nearest = Binary64.nearest (n.digits * 10 ^ (places + n.scale).toNat) (10 ^ places) := by
  have hpow (exponent : Nat) : 0 < 10 ^ exponent := Nat.pow_pos (by decide)
  unfold nearest
  by_cases hscale : 0 ≤ n.scale
  · have hplaces : (places + n.scale).toNat = n.scale.toNat + places := by omega
    rw [if_pos hscale, hplaces]
    apply Binary64.nearest_congr Nat.one_pos (hpow places)
    rw [Nat.mul_one, Nat.pow_add, ← Nat.mul_assoc]
    rfl
  · obtain ⟨places', hplaces'⟩ : ∃ p, p = (places + n.scale).toNat := ⟨_, rfl⟩
    have hplaces : places = places' + (-n.scale).toNat := by omega
    rw [if_neg hscale, ← hplaces', hplaces]
    apply Binary64.nearest_congr (hpow _) (hpow _)
    rw [Nat.pow_add, ← Nat.mul_assoc]

/-- Zeros at the end of the digits count as scale. -/
theorem nearest_shift (negative : Bool) (digits count : Nat) (scale : Int) :
    nearest ⟨negative, digits * 10 ^ count, scale - count⟩ = nearest ⟨negative, digits, scale⟩ := by
  obtain ⟨places, hplaces⟩ : ∃ places, places = scale.natAbs + count := ⟨_, rfl⟩
  have hpower : (places + scale).toNat = count + (places + (scale - count)).toNat := by omega
  have hfirst : 0 ≤ (places : Int) + (scale - count) := by omega
  have hlast : 0 ≤ (places : Int) + scale := by omega
  rw [nearest_eq ⟨negative, digits * 10 ^ count, scale - count⟩ hfirst,
    nearest_eq ⟨negative, digits, scale⟩ hlast]
  dsimp only
  rw [hpower, Nat.pow_add, Nat.mul_assoc]

theorem nearest_sign (negative other : Bool) (digits : Nat) (scale : Int) :
    nearest ⟨negative, digits, scale⟩ = nearest ⟨other, digits, scale⟩ := rfl

theorem nearest_zero (negative : Bool) (scale : Int) : nearest ⟨negative, 0, scale⟩ = 0 := by
  have hzero (den : Nat) (hden : 0 < den) : Binary64.nearest 0 den = 0 :=
    Binary64.nearest_of_exact hden (by rw [Binary64.units_zero, Nat.zero_mul, Nat.zero_mul])
  rw [nearest_eq ⟨negative, 0, scale⟩ (show 0 ≤ (scale.natAbs : Int) + scale by omega),
    Nat.zero_mul]
  exact hzero _ (Nat.pow_pos (by decide))

/-- Below 10^-331 nothing but zero is close. -/
theorem nearest_of_tiny {n : Numeral} (h : n.scale + width n.digits < -330) : n.nearest = 0 := by
  have hlimit : Binary64.nearest 1 (10 ^ 331) = 0 := by
    decide +kernel
  obtain ⟨places, hplaces⟩ : ∃ places, places = n.scale.natAbs := ⟨_, rfl⟩
  rw [nearest_eq n (show 0 ≤ (places : Int) + n.scale by omega)]
  apply Nat.le_zero.mp
  apply le_trans _ hlimit.le
  apply Binary64.nearest_mono (Nat.pow_pos (by decide)) (Nat.pow_pos (by decide))
  calc n.digits * 10 ^ (places + n.scale).toNat * 10 ^ 331
      ≤ 10 ^ width n.digits * 10 ^ (places + n.scale).toNat * 10 ^ 331 := by
        gcongr
        exact (lt_pow_width n.digits).le
    _ = 10 ^ (width n.digits + (places + n.scale).toNat + 331) := by rw [Nat.pow_add, Nat.pow_add]
    _ ≤ 10 ^ places := Nat.pow_le_pow_right (by decide) (by omega)
    _ = 1 * 10 ^ places := (Nat.one_mul _).symm

/-- From 10^310 on everything is closer to 2^1024 than to a finite number. -/
theorem nearest_of_huge {n : Numeral} (hdigits : n.digits ≠ 0)
    (h : 310 < n.scale + width n.digits) : n.nearest = Binary64.infinity := by
  have hlimit : Binary64.nearest (10 ^ 310) 1 = Binary64.infinity := by
    decide +kernel
  obtain ⟨places, hplaces⟩ : ∃ places, places = n.scale.natAbs := ⟨_, rfl⟩
  have hwidth := width_pos n.digits
  rw [nearest_eq n (show 0 ≤ (places : Int) + n.scale by omega)]
  apply Nat.le_antisymm (Binary64.nearest_le_infinity _ _)
  have hle : 10 ^ 310 * 10 ^ places ≤ n.digits * 10 ^ (places + n.scale).toNat * 1 := by
    calc 10 ^ 310 * 10 ^ places = 10 ^ (310 + places) := by rw [Nat.pow_add]
      _ ≤ 10 ^ (width n.digits - 1 + (places + n.scale).toNat) :=
          Nat.pow_le_pow_right (by decide) (by omega)
      _ = 10 ^ (width n.digits - 1) * 10 ^ (places + n.scale).toNat := Nat.pow_add _ _ _
      _ ≤ n.digits * 10 ^ (places + n.scale).toNat := by
          gcongr
          exact pow_width_le hdigits
      _ = n.digits * 10 ^ (places + n.scale).toNat * 1 := (Nat.mul_one _).symm
  calc Binary64.infinity = Binary64.nearest (10 ^ 310) 1 := hlimit.symm
    _ ≤ Binary64.nearest (n.digits * 10 ^ (places + n.scale).toNat) (10 ^ places) :=
        Binary64.nearest_mono Nat.one_pos (Nat.pow_pos (by decide)) hle

theorem magnitude_toBinary64 (n : Numeral) : n.toBinary64.magnitude = n.nearest := by
  unfold toBinary64
  dsimp only
  split
  · rename_i htiny
    rcases htiny with hzero | htiny
    · obtain ⟨negative, digits, scale⟩ := n
      obtain rfl : digits = 0 := hzero
      rw [nearest_zero negative scale, Binary64.zero]
    · rw [nearest_of_tiny htiny, Binary64.zero]
  · rename_i hnot
    rw [not_or] at hnot
    split
    · rename_i hhuge
      rw [nearest_of_huge hnot.1 hhuge, Binary64.infinite]
    · split
      · rename_i hscale
        rw [nearest, if_pos hscale, Binary64.ofQuotient]
      · rename_i hscale
        rw [nearest, if_neg hscale, Binary64.ofQuotient]

theorem negative_toBinary64 (n : Numeral) : n.toBinary64.negative = n.negative := by
  unfold toBinary64
  dsimp only
  split
  · rfl
  · split
    · rfl
    · split <;> rfl

/-- A numeral is read as a number if its sign is the number's, and its closest
magnitude too. -/
theorem toBinary64_eq {n : Numeral} {x : Binary64} (hnegative : n.negative = x.negative)
    (hnearest : n.nearest = x.magnitude) : n.toBinary64 = x :=
  Binary64.ext (n.negative_toBinary64.trans hnegative) (n.magnitude_toBinary64.trans hnearest)

end Numeral

namespace Shortest

/-- Cutting zeros off the digits keeps the value. -/
theorem nearest_strip (negative : Bool) (digits : Nat) (scale : Int) :
    Numeral.nearest ⟨negative, (strip digits scale).1, (strip digits scale).2⟩ =
      Numeral.nearest ⟨negative, digits, scale⟩ := by
  fun_induction strip digits scale with
  | case1 digits scale hends ih =>
      rw [ih, ← Numeral.nearest_shift negative (digits / 10) 1 (scale + 1)]
      congr 2
      · omega
      · omega
  | case2 digits scale hends => rfl

theorem readsBack_of_closest? {readsBack : Nat → Bool} {below found : Nat} {lowerCloser : Bool}
    (h : closest? readsBack below lowerCloser = some found) : readsBack found = true := by
  unfold closest? at h
  cases hbelow : readsBack below <;> cases habove : readsBack (below + 1) <;>
    rw [hbelow, habove] at h
  · cases h
  · obtain rfl := Option.some.inj h
    exact habove
  · obtain rfl := Option.some.inj h
    exact hbelow
  · obtain rfl := Option.some.inj h
    split
    · exact hbelow
    · exact habove

theorem nearest_of_onGrid {magnitude count : Nat} {found : Nat × Int}
    (h : onGrid magnitude count = some found) :
    Numeral.nearest ⟨false, found.1, found.2⟩ = magnitude := by
  unfold onGrid at h
  extract_lets value place unit scale readsBack at h
  obtain ⟨digits, hclosest, rfl⟩ := Option.map_eq_some_iff.mp h
  have hread : readsBack digits = true := readsBack_of_closest? hclosest
  exact beq_iff_eq.mp hread

/-- The exact decimal of a finite magnitude reads back as it. -/
theorem nearest_exact {magnitude : Nat} (h : magnitude ≤ Binary64.infinity) :
    Numeral.nearest ⟨false, exact magnitude, -1074⟩ = magnitude := by
  have hden : 0 < 10 ^ 1074 := by
    decide +kernel
  have hten : Nat.pow 5 1074 * Binary64.unitsOfOne = 10 ^ 1074 := by
    decide +kernel
  have hexact : exact magnitude * Binary64.unitsOfOne =
      Binary64.units magnitude * 10 ^ 1074 := by
    rw [exact, Nat.mul_assoc, hten]
  have hscale : ((1074 : Nat) : Int) + (-1074 : Int) = 0 := by decide
  rw [Numeral.nearest_eq ⟨false, exact magnitude, -1074⟩ hscale.ge]
  dsimp only
  rw [hscale, Int.toNat_zero, Nat.pow_zero, Nat.mul_one,
    Binary64.nearest_of_exact hden hexact, Nat.min_eq_right h]

/-- The shortest digits of a finite magnitude read back as it. -/
theorem nearest_digits (negative : Bool) {magnitude : Nat} (h : magnitude < Binary64.infinity) :
    Numeral.nearest ⟨negative, (digits magnitude).1, (digits magnitude).2⟩ = magnitude := by
  by_cases hzero : magnitude = 0
  · have hdigits : digits magnitude = (0, 0) := by
      unfold digits
      rw [if_pos hzero]
    rw [hdigits, Numeral.nearest_zero, hzero]
  · obtain ⟨found, hfound⟩ : ∃ found, found =
        ((List.range' 1 17).findSome? (onGrid magnitude)).getD (exact magnitude, -1074) := ⟨_, rfl⟩
    have hdigits : digits magnitude = strip found.1 found.2 := by
      unfold digits
      rw [if_neg hzero, hfound]
    have hreads : Numeral.nearest ⟨false, found.1, found.2⟩ = magnitude := by
      cases hgrids : (List.range' 1 17).findSome? (onGrid magnitude) with
      | none =>
          rw [hgrids, Option.getD_none] at hfound
          rw [hfound, nearest_exact h.le]
      | some grid =>
          obtain ⟨count, -, hgrid⟩ := List.exists_of_findSome?_eq_some hgrids
          rw [hgrids, Option.getD_some] at hfound
          rw [hfound, nearest_of_onGrid hgrid]
    rw [hdigits, nearest_strip, Numeral.nearest_sign negative false, hreads]

end Shortest

end RowGraph
