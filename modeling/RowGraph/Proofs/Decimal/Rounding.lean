import Mathlib.Order.Monotone.Basic
import Mathlib.Tactic.Ring
import RowGraph.Decimal.Binary64

/-!
Rounding a quotient of two naturals to a magnitude. The magnitudes stand for
growing numbers, so every quotient lies from one magnitude on and before the
next; it is rounded to the closer of the two, and from the middle to the even
one. Everything else follows: rounding keeps the order of quotients, depends on
the quotient alone, and gives back a magnitude that stands for it exactly.
-/

namespace RowGraph.Binary64

/-- A magnitude by its significand and the power of two that it is shifted by.
Only the lowest shift has significands without the leading bit. -/
structure Splits (magnitude shift significand : Nat) : Prop where
  eq : magnitude = shift * step + significand
  lt : significand < 2 * step
  normal : shift = 0 ∨ step ≤ significand

theorem units_of_splits {magnitude shift significand : Nat}
    (h : Splits magnitude shift significand) : units magnitude = significand * 2 ^ shift := by
  obtain ⟨heq, hlt, hnormal⟩ := h
  unfold units
  by_cases hsmall : magnitude < step
  · rw [if_pos hsmall]
    obtain rfl : shift = 0 := by
      simp only [step] at *
      omega
    rw [pow_zero]
    omega
  · rw [if_neg hsmall]
    have hshift : magnitude / step - 1 = shift := by
      simp only [step] at *
      omega
    have hsignificand : step + magnitude % step = significand := by
      simp only [step] at *
      omega
    rw [hshift, hsignificand]
    rfl

theorem exists_splits (magnitude : Nat) :
    ∃ shift significand, Splits magnitude shift significand := by
  by_cases hsmall : magnitude < step
  · exact ⟨0, magnitude, by omega, by omega, .inl rfl⟩
  · refine ⟨magnitude / step - 1, step + magnitude % step, ?_, ?_, .inr (Nat.le_add_right _ _)⟩
    · simp only [step] at *
      omega
    · simp only [step]
      omega

/-- The next magnitude has the next significand, shifted by as much. -/
theorem units_succ {magnitude shift significand : Nat} (h : Splits magnitude shift significand) :
    units (magnitude + 1) = (significand + 1) * 2 ^ shift := by
  obtain ⟨heq, hlt, hnormal⟩ := h
  by_cases hcarry : significand + 1 = 2 * step
  · have hnext : Splits (magnitude + 1) (shift + 1) step := by
      constructor
      · rw [heq, Nat.succ_mul]
        omega
      · simp only [step]
        omega
      · exact .inr le_rfl
    rw [units_of_splits hnext, hcarry, pow_succ]
    ring
  · exact units_of_splits ⟨by omega, by omega, hnormal.imp_right fun hle => by omega⟩

theorem units_strictMono : StrictMono units := by
  apply strictMono_nat_of_lt_succ
  intro magnitude
  obtain ⟨shift, significand, hsplits⟩ := exists_splits magnitude
  rw [units_of_splits hsplits, units_succ hsplits]
  exact Nat.mul_lt_mul_of_pos_right (Nat.lt_succ_self significand) (Nat.two_pow_pos shift)

@[simp] theorem units_zero : units 0 = 0 := rfl

theorem unitsOfOne_eq : unitsOfOne = 2 ^ 1074 := by
  decide +kernel

theorem unitsOfOne_pos : 0 < unitsOfOne := by
  decide +kernel

/-- That `num / den` lies from the magnitude `below` on and before the next, and
is rounded to `magnitude`. -/
structure Rounding (num den below magnitude : Nat) : Prop where
  lower : units below * den ≤ num * unitsOfOne
  upper : num * unitsOfOne < units (below + 1) * den
  choice :
    let middle := (units below + units (below + 1)) * den
    let twice := 2 * (num * unitsOfOne)
    (magnitude = below ∧ (twice < middle ∨ twice = middle ∧ below % 2 = 0)) ∨
      magnitude = below + 1 ∧ (middle < twice ∨ twice = middle ∧ below % 2 = 1)

/-- The significand that a quotient is cut off to has 53 bits, or fewer if it is
not shifted. -/
theorem splits_scaled {scaled den shift unit : Nat} (hshift : shift = (scaled / den).log2 - 52)
    (hunit : unit = den * 2 ^ shift) :
    Splits (shift * step + scaled / unit) shift (scaled / unit) := by
  have hquotient : scaled / unit = scaled / den / 2 ^ shift := by
    rw [hunit, Nat.div_div_eq_div_mul]
  refine ⟨rfl, ?_, ?_⟩
  · rw [hquotient, Nat.div_lt_iff_lt_mul (Nat.two_pow_pos shift)]
    calc scaled / den < 2 ^ ((scaled / den).log2 + 1) := Nat.lt_log2_self
      _ ≤ 2 ^ (53 + shift) := Nat.pow_le_pow_right (by decide) (by omega)
      _ = 2 * step * 2 ^ shift := by rw [pow_add]; rfl
  · by_cases hnone : shift = 0
    · exact .inl hnone
    · right
      have hlog : (scaled / den).log2 = 52 + shift := by omega
      have hne : scaled / den ≠ 0 := by
        intro hzero
        rw [hzero, Nat.log2_zero] at hlog
        omega
      rw [hquotient, Nat.le_div_iff_mul_le (Nat.two_pow_pos shift)]
      calc step * 2 ^ shift = 2 ^ (52 + shift) := by rw [pow_add]; rfl
        _ ≤ scaled / den := hlog ▸ Nat.log2_self_le hne

/-- What is cut off decides: less than half a unit is dropped, more counts as
one, and a half makes an odd significand even. -/
theorem rounding_of_splits {num den below shift significand rest unit : Nat} {up : Bool}
    (hsplits : Splits below shift significand) (hunit : unit = den * 2 ^ shift)
    (hdivision : significand * unit + rest = num * unitsOfOne) (hrest : rest < unit)
    (hup : up = true ↔ unit < 2 * rest ∨ 2 * rest = unit ∧ significand % 2 = 1) :
    Rounding num den below (below + up.toNat) := by
  have hbelow : units below * den = significand * unit := by
    rw [units_of_splits hsplits, hunit]
    ring
  have habove : units (below + 1) * den = significand * unit + unit := by
    rw [units_succ hsplits, hunit]
    ring
  have hparity : below % 2 = significand % 2 := by
    have hsum := hsplits.eq
    simp only [step] at hsum
    omega
  constructor
  · rw [hbelow, ← hdivision]
    exact Nat.le_add_right _ _
  · rw [habove, ← hdivision]
    exact Nat.add_lt_add_left hrest _
  · dsimp only
    rw [Nat.add_mul, hbelow, habove, ← hdivision, hparity]
    cases up with
    | true =>
        have hover := hup.mp rfl
        right
        refine ⟨rfl, ?_⟩
        omega
    | false =>
        have hunder := hup.not.mp Bool.false_ne_true
        left
        refine ⟨Nat.add_zero _, ?_⟩
        omega

theorem exists_rounding (num : Nat) {den : Nat} (hden : 0 < den) :
    ∃ below magnitude, Rounding num den below magnitude ∧
      nearest num den = min infinity magnitude := by
  obtain ⟨scaled, hscaled⟩ : ∃ scaled, scaled = num * unitsOfOne := ⟨_, rfl⟩
  obtain ⟨shift, hshift⟩ : ∃ shift, shift = (scaled / den).log2 - 52 := ⟨_, rfl⟩
  obtain ⟨unit, hpow⟩ : ∃ unit, unit = den * Nat.pow 2 shift := ⟨_, rfl⟩
  have hunit : unit = den * 2 ^ shift := hpow
  have hpos : 0 < unit := hunit ▸ Nat.mul_pos hden (Nat.two_pow_pos shift)
  have hdivision : scaled / unit * unit + scaled % unit = num * unitsOfOne := by
    rw [Nat.div_add_mod', hscaled]
  have hnearest : nearest num den = min infinity (shift * step + scaled / unit +
      (decide (unit < 2 * (scaled % unit)) ||
        (decide (2 * (scaled % unit) = unit) && scaled / unit % 2 == 1)).toNat) := by
    simp only [nearest, ← hscaled, ← hshift, ← hpow]
  refine ⟨_, _, rounding_of_splits (splits_scaled hshift hunit) hunit hdivision
    (Nat.mod_lt scaled hpos) ?_, hnearest⟩
  simp only [Bool.or_eq_true, Bool.and_eq_true, decide_eq_true_eq, beq_iff_eq]

variable {num den below magnitude num' den' below' magnitude' : Nat}

/-- Rounding keeps the order of quotients. -/
theorem Rounding.mono (h : Rounding num den below magnitude)
    (h' : Rounding num' den' below' magnitude') (hden : 0 < den) (hden' : 0 < den')
    (hle : num * den' ≤ num' * den) : magnitude ≤ magnitude' := by
  obtain ⟨lower, upper, choice⟩ := h
  obtain ⟨lower', upper', choice'⟩ := h'
  dsimp only at choice choice'
  have hscaled : num * unitsOfOne * den' ≤ num' * unitsOfOne * den := by
    calc num * unitsOfOne * den' = num * den' * unitsOfOne := by ring
      _ ≤ num' * den * unitsOfOne := Nat.mul_le_mul_right _ hle
      _ = num' * unitsOfOne * den := by ring
  generalize num * unitsOfOne = scaled at *
  generalize num' * unitsOfOne = scaled' at *
  have hbelow : below ≤ below' := by
    by_contra hlt
    have hunits : units (below' + 1) ≤ units below :=
      units_strictMono.monotone (by omega)
    have hcross : scaled' * den < scaled' * den := by
      calc scaled' * den
        _ < units (below' + 1) * den' * den := Nat.mul_lt_mul_of_pos_right upper' hden
        _ ≤ units below * den' * den := by gcongr
        _ = units below * den * den' := by ring
        _ ≤ scaled * den' := Nat.mul_le_mul_right _ lower
        _ ≤ scaled' * den := hscaled
    omega
  rcases hbelow.lt_or_eq with hlt | rfl
  · omega
  · -- Both lie before the same middle, and only one of them goes up from it.
    by_contra hgt
    have hup : (units below + units (below + 1)) * den ≤ 2 * scaled := by omega
    have hdown : 2 * scaled' ≤ (units below + units (below + 1)) * den' := by omega
    have hfirst : (units below + units (below + 1)) * den * den' ≤ 2 * scaled * den' :=
      Nat.mul_le_mul_right _ hup
    have hlast : 2 * scaled' * den ≤ (units below + units (below + 1)) * den' * den :=
      Nat.mul_le_mul_right _ hdown
    have hturn : (units below + units (below + 1)) * den' * den =
        (units below + units (below + 1)) * den * den' := by ring
    have htwice : 2 * scaled * den' ≤ 2 * scaled' * den := by
      rw [Nat.mul_assoc, Nat.mul_assoc]
      exact Nat.mul_le_mul_left 2 hscaled
    have hmiddle : 2 * scaled = (units below + units (below + 1)) * den :=
      Nat.eq_of_mul_eq_mul_right hden' (by omega)
    have hmiddle' : 2 * scaled' = (units below + units (below + 1)) * den' :=
      Nat.eq_of_mul_eq_mul_right hden (by omega)
    omega

/-- A magnitude that stands for the quotient exactly is the one that it is
rounded to. -/
theorem Rounding.eq_of_exact {exact : Nat} (h : Rounding num den below magnitude)
    (hden : 0 < den) (hexact : num * unitsOfOne = units exact * den) : magnitude = exact := by
  obtain ⟨lower, upper, choice⟩ := h
  dsimp only at choice
  rw [hexact] at lower upper choice
  have hle : below ≤ exact :=
    units_strictMono.le_iff_le.mp (Nat.le_of_mul_le_mul_right lower hden)
  have hlt : exact < below + 1 :=
    units_strictMono.lt_iff_lt.mp (Nat.lt_of_mul_lt_mul_right upper)
  obtain rfl : below = exact := by omega
  rw [Nat.add_mul] at choice
  omega

/-- No magnitude is closer to the quotient than the one that it is rounded to,
and of two that are equally close an even one is taken. -/
theorem Rounding.closest (h : Rounding num den below magnitude) (hden : 0 < den) (other : Nat) :
    let distance (m : Nat) : Nat := ((units m * den : Nat) - (num * unitsOfOne : Nat) : Int).natAbs
    distance magnitude ≤ distance other ∧
      (distance magnitude = distance other → magnitude = other ∨ magnitude % 2 = 0) := by
  obtain ⟨lower, upper, choice⟩ := h
  dsimp only at choice ⊢
  rw [Nat.add_mul] at choice
  have hside : other = below ∨ units other * den < units below * den ∨
      other = below + 1 ∨ units (below + 1) * den < units other * den := by
    have hmul {a b : Nat} (hlt : a < b) : units a * den < units b * den :=
      Nat.mul_lt_mul_of_pos_right (units_strictMono hlt) hden
    rcases Nat.lt_trichotomy other below with hlt | heq | hgt
    · exact .inr (.inl (hmul hlt))
    · exact .inl heq
    · rcases (Nat.succ_le_of_lt hgt).eq_or_lt with heq | hlt
      · exact .inr (.inr (.inl heq.symm))
      · exact .inr (.inr (.inr (hmul hlt)))
  rcases choice with ⟨rfl, hchoice⟩ | ⟨rfl, hchoice⟩
  · rcases hside with rfl | hlt | rfl | hgt <;> omega
  · rcases hside with rfl | hlt | rfl | hgt <;> omega

theorem nearest_le_infinity (num den : Nat) : nearest num den ≤ infinity :=
  Nat.min_le_left _ _

theorem nearest_mono (hden : 0 < den) (hden' : 0 < den') (hle : num * den' ≤ num' * den) :
    nearest num den ≤ nearest num' den' := by
  obtain ⟨_, magnitude, hrounding, hnearest⟩ := exists_rounding num hden
  obtain ⟨_, magnitude', hrounding', hnearest'⟩ := exists_rounding num' hden'
  have hmono := hrounding.mono hrounding' hden hden' hle
  rw [hnearest, hnearest']
  omega

/-- Equal quotients have the same closest magnitude. -/
theorem nearest_congr (hden : 0 < den) (hden' : 0 < den') (heq : num * den' = num' * den) :
    nearest num den = nearest num' den' :=
  Nat.le_antisymm (nearest_mono hden hden' heq.le) (nearest_mono hden' hden heq.ge)

theorem nearest_of_exact {exact : Nat} (hden : 0 < den)
    (hexact : num * unitsOfOne = units exact * den) : nearest num den = min infinity exact := by
  obtain ⟨_, magnitude, hrounding, hnearest⟩ := exists_rounding num hden
  rw [hnearest, hrounding.eq_of_exact hden hexact]

end RowGraph.Binary64
