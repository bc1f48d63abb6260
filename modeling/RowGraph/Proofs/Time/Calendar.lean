import Mathlib.Tactic.IntervalCases
import RowGraph.Time.Calendar

/-!
Days and dates. An era of 400 years is four centuries of 25 groups of four
years, the last day of a group, a century or the era being there or not as the
calendar has its leap days. Every day has one place in this, from which its date
is a valid one and counts to the same day.
-/

namespace RowGraph.Date

/-- The place of a day in its era: the day `day` of the year `year` in the group
of four years `group` of the century `century`, all counted from zero and years
from March. Only the last year of a group can have a 366th day, and the last
group of a century only in the last century. -/
structure Place (dayOfEra century group year day : Int) : Prop where
  eq_sum : dayOfEra = 36524 * century + 1461 * group + 365 * year + day
  century_le : 0 ≤ century ∧ century ≤ 3
  group_le : 0 ≤ group ∧ group ≤ 24
  year_le : 0 ≤ year ∧ year ≤ 3
  day_le : 0 ≤ day ∧ (day ≤ 364 ∨ day = 365 ∧ year = 3 ∧ (group = 24 → century = 3))

variable {dayOfEra century group year day : Int}

theorem exists_place (hfirst : 0 ≤ dayOfEra) (hlast : dayOfEra < 146097) :
    ∃ century group year day, Place dayOfEra century group year day := by
  obtain ⟨century, hcentury⟩ : ∃ century, century = min (dayOfEra / 36524) 3 := ⟨_, rfl⟩
  obtain ⟨inCentury, hinCentury⟩ : ∃ rest, rest = dayOfEra - 36524 * century := ⟨_, rfl⟩
  obtain ⟨group, hgroup⟩ : ∃ group, group = inCentury / 1461 := ⟨_, rfl⟩
  obtain ⟨inGroup, hinGroup⟩ : ∃ rest, rest = inCentury - 1461 * group := ⟨_, rfl⟩
  obtain ⟨year, hyear⟩ : ∃ year, year = min (inGroup / 365) 3 := ⟨_, rfl⟩
  refine ⟨century, group, year, inGroup - 365 * year, ?_, ?_, ?_, ?_, ?_⟩
  · omega
  · omega
  · omega
  · omega
  · omega

/-- The years of an era before a day, as they are counted from the day. -/
theorem Place.year_eq (h : Place dayOfEra century group year day) :
    (dayOfEra - dayOfEra / 1460 + dayOfEra / 36524 - dayOfEra / 146096) / 365 =
      100 * century + 4 * group + year := by
  obtain ⟨hsum, hcentury, hgroup, hyear, hday⟩ := h
  by_cases hlast : dayOfEra = 146096
  · subst hlast
    omega
  · have hcenturies : dayOfEra / 36524 = century := by omega
    have heras : dayOfEra / 146096 = 0 := by omega
    -- A group has one day more than is divided by, so the last of its days may go over.
    have hgroups : dayOfEra / 1460 = 25 * century + group ∨
        dayOfEra / 1460 = 25 * century + group + 1 ∧ year = 3 ∧ 1 ≤ day := by omega
    have hleap : day = 365 → dayOfEra / 1460 = 25 * century + group + 1 := by omega
    rw [hcenturies, heras]
    omega

/-- The days of an era before a year. -/
theorem Place.day_eq (h : Place dayOfEra century group year day) {years : Int}
    (hyears : years = 100 * century + 4 * group + year) :
    dayOfEra - (365 * years + years / 4 - years / 100) = day := by
  obtain ⟨rfl, hcentury, hgroup, hyear, hday⟩ := h
  omega

theorem Place.isLeap (h : Place dayOfEra century group year 365) (era : Int) :
    Date.isLeap (100 * century + 4 * group + year + era * 400 + 1) = true := by
  obtain ⟨-, hcentury, hgroup, hyear, hday⟩ := h
  simp only [Date.isLeap, Bool.and_eq_true, Bool.or_eq_true, beq_iff_eq, bne_iff_ne]
  omega

/-- The parts that a date is put together from: the era, the years in it, the
month from March and the days since the first of March. -/
structure Parts (days era years month dayOfYear : Int) : Prop where
  days_eq : days + 719468 = era * 146097 + (365 * years + years / 4 - years / 100 + dayOfYear)
  years_le : 0 ≤ years ∧ years ≤ 399
  day_le : 0 ≤ dayOfYear ∧ dayOfYear ≤ 365
  month_eq : (5 * dayOfYear + 2) / 153 = month
  leap : dayOfYear = 365 → Date.isLeap (years + era * 400 + 1) = true

theorem exists_parts (days : Int) :
    ∃ era years month dayOfYear, Parts days era years month dayOfYear ∧
      ofDays days =
        ⟨if (if month < 10 then month + 3 else month - 9) ≤ 2 then years + era * 400 + 1
          else years + era * 400,
        (if month < 10 then month + 3 else month - 9).toNat,
        (dayOfYear - (153 * month + 2) / 5 + 1).toNat⟩ := by
  obtain ⟨century, group, year, day, hplace⟩ :=
    exists_place (Int.emod_nonneg (days + 719468) (by decide : (146097 : Int) ≠ 0))
      (Int.emod_lt_of_pos (days + 719468) (by decide : (0 : Int) < 146097))
  have hday := hplace.day_eq rfl
  refine ⟨(days + 719468) / 146097, 100 * century + 4 * group + year, (5 * day + 2) / 153, day,
    ?_, ?_⟩
  · obtain ⟨hsum, hcentury, hgroup, hyear, hlength⟩ := id hplace
    refine ⟨by omega, by omega, by omega, rfl, ?_⟩
    rintro rfl
    exact hplace.isLeap _
  · unfold ofDays
    dsimp only
    rw [hplace.year_eq, hday]

/-- The year begins in March: ten months of a year that is counted from March
belong to the calendar's year, and two to the next. -/
theorem ofDays_cases (days : Int) :
    ∃ era years month dayOfYear, Parts days era years month dayOfYear ∧
      (month < 10 ∧ ofDays days = ⟨years + era * 400, (month + 3).toNat,
          (dayOfYear - (153 * month + 2) / 5 + 1).toNat⟩ ∨
        10 ≤ month ∧ ofDays days = ⟨years + era * 400 + 1, (month - 9).toNat,
          (dayOfYear - (153 * month + 2) / 5 + 1).toNat⟩) := by
  obtain ⟨era, years, month, dayOfYear, hparts, hdate⟩ := exists_parts days
  refine ⟨era, years, month, dayOfYear, hparts, ?_⟩
  have hday := hparts.day_le
  have hmonth := hparts.month_eq
  by_cases hbefore : month < 10
  · left
    rw [if_pos hbefore, if_neg (by omega)] at hdate
    exact ⟨hbefore, hdate⟩
  · right
    rw [if_neg hbefore, if_pos (by omega)] at hdate
    exact ⟨by omega, hdate⟩

/-- A date is found again by its days. -/
theorem toDays_ofDays (days : Int) : (ofDays days).toDays = days := by
  obtain ⟨era, years, month, dayOfYear, ⟨hdays, hyears, hday, hmonth, -⟩, hdate⟩ :=
    ofDays_cases days
  rcases hdate with ⟨hbefore, hdate⟩ | ⟨hafter, hdate⟩
  · have hback : (((month + 3).toNat + 9) % 12 : Nat) = month := by omega
    rw [hdate]
    unfold toDays
    dsimp only
    rw [if_neg (by omega), hback]
    omega
  · have hback : (((month - 9).toNat + 9) % 12 : Nat) = month := by omega
    rw [hdate]
    unfold toDays
    dsimp only
    rw [if_pos (by omega), hback]
    omega

example : ofDays (-719529) = ⟨-1, 12, 31⟩ ∧ toDays ⟨-1, 12, 31⟩ = -719529 := by decide

theorem february_le_monthLength (year : Int) : 28 ≤ monthLength year 2 := by
  change 28 ≤ if isLeap year = true then 29 else 28
  split <;> omega

/-- The date of every day is one of the calendar's. -/
theorem isValid_ofDays (days : Int) : (ofDays days).isValid = true := by
  obtain ⟨era, years, month, dayOfYear, ⟨-, -, hday, hmonth, hleap⟩, hdate⟩ := ofDays_cases days
  rcases hdate with ⟨hbefore, hdate⟩ | ⟨hafter, hdate⟩
  · have hfirst : 0 ≤ month := by omega
    rw [hdate]
    simp only [isValid, Bool.and_eq_true, decide_eq_true_eq]
    interval_cases month <;> simp [monthLength] <;> omega
  · have hlast : month = 10 ∨ month = 11 := by omega
    rw [hdate]
    simp only [isValid, Bool.and_eq_true, decide_eq_true_eq]
    rcases hlast with rfl | rfl
    · have hlength : monthLength (years + era * 400 + 1) (10 - 9 : Int).toNat = 31 := rfl
      rw [hlength]
      omega
    · -- Only a leap year has a 366th day, which is its 29th of February.
      by_cases hlong : dayOfYear = 365
      · have hlength : monthLength (years + era * 400 + 1) (11 - 9 : Int).toNat = 29 :=
          if_pos (hleap hlong)
        rw [hlength]
        omega
      · have hlength : 28 ≤ monthLength (years + era * 400 + 1) (11 - 9 : Int).toNat :=
          february_le_monthLength _
        omega

end RowGraph.Date
