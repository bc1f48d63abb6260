import RowGraph.Proofs.Text.Digits
import RowGraph.Proofs.Text.Trimming
import RowGraph.Proofs.Time.Calendar
import RowGraph.Time.Reader

/-!
The RFC 3339 text of an instant. Its fields determine the instant, the leap
second included, and every one of them is read back from the text: so two
instants never share a text, and in the years that RFC 3339 has the text is read
as the instant.
-/

namespace RowGraph.Instant

open Text Reading

def hour (t : Instant) : Nat :=
  t.secondOfDay / 3600

def minute (t : Instant) : Nat :=
  t.secondOfDay / 60 % 60

def second (t : Instant) : Nat :=
  t.secondOfDay % 60 + (if 1000000000 ≤ t.nanos then 1 else 0)

/-- The digits behind the point of the second, as nanoseconds. -/
def subsecond (t : Instant) : Nat :=
  t.nanos % 1000000000

variable (t : Instant)

theorem secondOfDay_lt : t.secondOfDay < 86400 := by
  unfold secondOfDay
  omega

theorem date_lt : t.date.month < 100 ∧ t.date.day < 100 := by
  have hvalid := Date.isValid_ofDays (t.seconds / 86400)
  have hlength : Date.monthLength t.date.year t.date.month ≤ 31 := by
    unfold Date.monthLength
    split
    · split <;> omega
    · split <;> omega
  simp only [Date.isValid, Bool.and_eq_true, decide_eq_true_eq] at hvalid
  rw [← date] at hvalid
  omega

theorem hour_lt : t.hour < 24 := by
  have hday := t.secondOfDay_lt
  unfold hour
  omega

theorem minute_lt : t.minute < 60 :=
  Nat.mod_lt _ (by decide)

theorem second_le : t.second ≤ 60 := by
  unfold second
  split <;> omega

theorem subsecond_lt : t.subsecond < 1000000000 :=
  Nat.mod_lt _ (by decide)

/-- A leap second is written as second 60, no other one is. -/
theorem second_eq_sixty_iff : t.second = 60 ↔ 1000000000 ≤ t.nanos := by
  have hleap := t.leap
  unfold second secondOfDay
  constructor
  · intro hsixty
    by_contra hnot
    rw [if_neg hnot] at hsixty
    omega
  · intro hlong
    have hlast := hleap hlong
    rw [if_pos hlong]
    omega

theorem min_second : min t.second 59 = t.secondOfDay % 60 := by
  by_cases hleap : 1000000000 ≤ t.nanos
  · have hsixty := t.second_eq_sixty_iff.mpr hleap
    have hsecond : t.second = t.secondOfDay % 60 + 1 := by rw [second, if_pos hleap]
    omega
  · have hsecond : t.second = t.secondOfDay % 60 := by rw [second, if_neg hleap, Nat.add_zero]
    omega

theorem seconds_eq :
    t.seconds =
      t.date.toDays * 86400 + (t.hour * 3600 + t.minute * 60 + min t.second 59 : Nat) := by
  have hclock : t.hour * 3600 + t.minute * 60 + min t.second 59 = t.secondOfDay := by
    rw [t.min_second, hour, minute]
    omega
  rw [hclock, date, Date.toDays_ofDays, secondOfDay]
  omega

theorem nanos_eq : t.nanos = t.subsecond + (if t.second = 60 then 1000000000 else 0) := by
  have hbound := t.nanos_lt
  rw [subsecond]
  by_cases hleap : 1000000000 ≤ t.nanos
  · rw [if_pos (t.second_eq_sixty_iff.mpr hleap)]
    omega
  · rw [if_neg (t.second_eq_sixty_iff.not.mpr hleap)]
    omega

/-- Instants with the same fields are the same. -/
theorem eq_of_fields {t u : Instant} (hdate : t.date = u.date) (hhour : t.hour = u.hour)
    (hminute : t.minute = u.minute) (hsecond : t.second = u.second)
    (hsubsecond : t.subsecond = u.subsecond) : t = u := by
  have hseconds : t.seconds = u.seconds := by
    rw [t.seconds_eq, u.seconds_eq, hdate, hhour, hminute, hsecond]
  have hnanos : t.nanos = u.nanos := by
    rw [t.nanos_eq, u.nanos_eq, hsecond, hsubsecond]
  exact Instant.ext hseconds hnanos

/-- The fields of an instant name it, in all years that are read. -/
theorem ofFields?_fields (hfirst : firstYear ≤ t.date.year) (hlast : t.date.year ≤ lastYear) :
    ofFields? t.date t.hour t.minute t.second t.subsecond 0 = some t := by
  have hfields : (t.date.isValid && firstYear ≤ t.date.year && t.date.year ≤ lastYear &&
      t.hour < 24 && t.minute < 60 && t.second ≤ 60) = true := by
    simp only [Bool.and_eq_true, decide_eq_true_eq]
    exact ⟨⟨⟨⟨⟨Date.isValid_ofDays _, hfirst⟩, hlast⟩, t.hour_lt⟩, t.minute_lt⟩, t.second_le⟩
  unfold ofFields?
  rw [if_pos hfields]
  dsimp only
  rw [Int.sub_zero, ← t.seconds_eq, ← t.nanos_eq, of?, dif_pos ⟨t.nanos_lt, t.leap⟩]

def clock (zone : List Char) : List Char :=
  paddedDigits 2 t.hour ++ ':' :: (paddedDigits 2 t.minute ++ ':' :: (paddedDigits 2 t.second ++
    ((fractionText t.subsecond).toList ++ zone)))

def afterYear (zone : List Char) : List Char :=
  '-' :: (paddedDigits 2 t.date.month ++ '-' :: (paddedDigits 2 t.date.day ++
    'T' :: t.clock zone))

theorem toList_text (zone : String) :
    (t.text zone).toList = (yearText t.date.year).toList ++ t.afterYear zone.toList := by
  simp [text, timeText, afterYear, clock, toList_zeroPadded, hour, minute, second, subsecond]

theorem fraction_digits {width n : Nat} (hwidth : 0 < width ∧ width ≤ 9) (hbound : n < 10 ^ width)
    {rest : List Char} (hstops : Stops Char.isDigit rest) :
    fraction ('.' :: (paddedDigits width n ++ rest)) = some (n * 10 ^ (9 - width), rest) := by
  have hall : ∀ c ∈ paddedDigits width n, c.isDigit = true :=
    fun c hc => isDigit_of_mem_paddedDigits hc
  have hlength := length_paddedDigits hwidth.1 hbound
  have hcounted : (paddedDigits width n).take 9 = paddedDigits width n :=
    List.take_of_length_le (by omega)
  have hempty : (paddedDigits width n).isEmpty = false := by
    simpa using paddedDigits_ne_nil width n
  unfold fraction
  simp only [splitDigits_append_of_stops hall hstops, hcounted, hempty, Bool.false_eq_true,
    ↓reduceIte, ofDigits_paddedDigits, hlength]
  rfl

theorem fraction_none {rest : List Char} (hpoint : rest.head? ≠ some '.') :
    fraction rest = some (0, rest) := by
  unfold fraction
  split
  · exact absurd rfl hpoint
  · rfl

/-- The digits behind the point are read back, however many groups of them were
written. -/
theorem fraction_fractionText {nanos : Nat} (hbound : nanos < 1000000000) {rest : List Char}
    (hstops : Stops Char.isDigit rest) (hpoint : rest.head? ≠ some '.') :
    fraction ((fractionText nanos).toList ++ rest) = some (nanos, rest) := by
  have hread {width n : Nat} (hwidth : 0 < width ∧ width ≤ 9) (hn : n < 10 ^ width)
      (hvalue : n * 10 ^ (9 - width) = nanos) :
      fraction (("." ++ zeroPadded width n).toList ++ rest) = some (nanos, rest) := by
    rw [String.toList_append, toList_zeroPadded, List.append_assoc, ← hvalue]
    exact fraction_digits hwidth hn hstops
  unfold fractionText
  split
  · rename_i hzero
    rw [hzero]
    exact fraction_none hpoint
  · split
    · exact hread (by decide) (by omega) (by omega)
    · split
      · exact hread (by decide) (by omega) (by omega)
      · exact hread (by decide) (by omega) (by omega)

/-- The fields after the year are read back, and what comes next reads the
rest. -/
theorem afterYear_read {α : Type} (next : Nat → Nat → Nat → Nat → Nat → Nat → Reading α)
    {zone : List Char} (hstops : Stops Char.isDigit zone) (hpoint : zone.head? ≠ some '.') :
    (do
      mark '-'
      let month ← number 2 2
      mark '-'
      let day ← number 2 2
      let _ ← oneOf fun c => c == 'T' || c == 't' || c == ' '
      let hour ← number 2 2
      mark ':'
      let minute ← number 2 2
      mark ':'
      let second ← number 2 2
      let nanos ← fraction
      next month day hour minute second nanos : Reading α) (t.afterYear zone) =
    next t.date.month t.date.day t.hour t.minute t.second t.subsecond zone := by
  obtain ⟨hmonth, hday⟩ := t.date_lt
  have hhour := t.hour_lt
  have hminute := t.minute_lt
  have hsecond := t.second_le
  have hread {n : Nat} (h : n < 100) (rest : List Char) :
      number 2 2 (paddedDigits 2 n ++ rest) = some (n, rest) :=
    number_paddedDigits (by decide) (by decide) h rest
  have hbetween (rest : List Char) :
      oneOf (fun c => c == 'T' || c == 't' || c == ' ') ('T' :: rest) = some ('T', rest) := rfl
  rw [afterYear, bind_of_found (mark_cons _ _), bind_of_found (hread hmonth _),
    bind_of_found (mark_cons _ _), bind_of_found (hread hday _), bind_of_found (hbetween _),
    clock, bind_of_found (hread (by omega) _), bind_of_found (mark_cons _ _),
    bind_of_found (hread (by omega) _), bind_of_found (mark_cons _ _),
    bind_of_found (hread (by omega) _),
    bind_of_found (fraction_fractionText t.subsecond_lt hstops hpoint)]

/-- Behind a sign a year has as many digits as there are. -/
theorem number_signed (n : Nat) (rest : List Char) :
    number 1 (paddedDigits 4 n ++ '-' :: rest).length (paddedDigits 4 n ++ '-' :: rest) =
      some (n, '-' :: rest) := by
  have hpos : 0 < (paddedDigits 4 n).length :=
    List.length_pos_iff.mpr (paddedDigits_ne_nil 4 n)
  have hstops : Stops Char.isDigit (('-' :: rest).take
      ((paddedDigits 4 n ++ '-' :: rest).length - (paddedDigits 4 n).length)) := by
    rw [List.length_append, Nat.add_sub_cancel_left, List.take_length]
    exact stops_cons (by decide)
  rw [number_append (fun c hc => isDigit_of_mem_paddedDigits hc) hpos (by simp) hstops,
    ofDigits_paddedDigits]

theorem year_of_isDigit {c : Char} {cs : List Char} (h : c.isDigit = true) :
    year (c :: cs) = (number 1 4 (c :: cs)).bind fun found => some ((found.1 : Int), found.2) := by
  unfold year
  split
  · rename_i heq
    rw [(List.cons.inj heq).1] at h
    exact absurd h (by decide)
  · rename_i heq
    rw [(List.cons.inj heq).1] at h
    exact absurd h (by decide)
  · rfl

theorem yearText_cases (y : Int) :
    y < 0 ∧ (yearText y).toList = '-' :: paddedDigits 4 y.natAbs ∨
      (0 ≤ y ∧ y ≤ 9999) ∧ (yearText y).toList = paddedDigits 4 y.natAbs ∨
      9999 < y ∧ (yearText y).toList = '+' :: paddedDigits 4 y.natAbs := by
  have hdigits : (zeroPadded 4 y.natAbs).toList = paddedDigits 4 y.natAbs := toList_zeroPadded _ _
  unfold yearText
  dsimp only
  split
  · rename_i hnegative
    exact .inl ⟨hnegative, by simp [hdigits]⟩
  · rename_i hnegative
    split
    · rename_i hfour
      exact .inr (.inl ⟨⟨Int.not_lt.mp hnegative, hfour⟩, hdigits⟩)
    · rename_i hfour
      exact .inr (.inr ⟨Int.not_le.mp hfour, by simp [hdigits]⟩)

/-- A year is read back, whether it has a sign or not. -/
theorem year_yearText (y : Int) (rest : List Char) :
    year ((yearText y).toList ++ '-' :: rest) = some (y, '-' :: rest) := by
  rcases yearText_cases y with ⟨hnegative, htext⟩ | ⟨⟨hfirst, hlast⟩, htext⟩ | ⟨hlarge, htext⟩
  · have hvalue : -(y.natAbs : Int) = y := by omega
    rw [htext, List.cons_append, year, number_signed]
    exact congrArg (fun y => some (y, '-' :: rest)) hvalue
  · have hvalue : (y.natAbs : Int) = y := by omega
    have hread : number 1 4 (paddedDigits 4 y.natAbs ++ '-' :: rest) =
        some (y.natAbs, '-' :: rest) :=
      number_paddedDigits (by decide) (by decide) (by omega) _
    obtain ⟨c, more, hcons, hdigit⟩ := exists_cons_paddedDigits 4 y.natAbs
    rw [hcons] at hread
    rw [htext, hcons, List.cons_append, year_of_isDigit hdigit, ← List.cons_append, hread,
      Option.bind_some, hvalue]
  · have hvalue : (y.natAbs : Int) = y := by omega
    rw [htext, List.cons_append, year, number_signed]
    exact congrArg (fun y => some (y, '-' :: rest)) hvalue

theorem stops_zone : Stops Char.isDigit ['Z'] :=
  stops_cons (by decide)

/-- Two instants never have the same text. -/
theorem utcText_injective : Function.Injective utcText := by
  intro t u htext
  have hchars := congrArg String.toList htext
  rw [utcText, utcText, toList_text, toList_text] at hchars
  -- The year ends at the first hyphen behind its sign, and the rest is the same.
  have hyear := congrArg year hchars
  rw [afterYear, afterYear, year_yearText, year_yearText, ← afterYear, ← afterYear] at hyear
  obtain ⟨hyear, hafter⟩ := Prod.mk.inj (Option.some.inj hyear)
  let next (month day hour minute second nanos : Nat) :
      Reading (Nat × Nat × Nat × Nat × Nat × Nat) :=
    pure (month, day, hour, minute, second, nanos)
  have hfields := (afterYear_read t next stops_zone (by decide)).symm.trans
    ((congrArg _ hafter).trans (afterYear_read u next stops_zone (by decide)))
  obtain ⟨hmonth, hday, hhour, hminute, hsecond, hsubsecond⟩ :
      t.date.month = u.date.month ∧ t.date.day = u.date.day ∧ t.hour = u.hour ∧
        t.minute = u.minute ∧ t.second = u.second ∧ t.subsecond = u.subsecond := by
    simpa [next] using hfields
  exact eq_of_fields (Date.ext hyear hmonth hday) hhour hminute hsecond hsubsecond

theorem stops_year (y : Int) (rest : List Char) :
    Stops isBlank ((yearText y).toList ++ rest) := by
  obtain ⟨c, more, hcons, hdigit⟩ := exists_cons_paddedDigits 4 y.natAbs
  rcases yearText_cases y with ⟨-, htext⟩ | ⟨-, htext⟩ | ⟨-, htext⟩
  · rw [htext]
    exact stops_cons (by decide)
  · rw [htext, hcons]
    exact stops_cons (isBlank_of_isDigit hdigit)
  · rw [htext]
    exact stops_cons (by decide)

theorem trimChars_utcText : trimChars t.utcText.toList = t.utcText.toList := by
  have hzone : t.afterYear ['Z'] = t.afterYear [] ++ ['Z'] := by simp [afterYear, clock]
  have htext : t.utcText.toList =
      (yearText t.date.year).toList ++ (t.afterYear [] ++ ['Z']) := by
    rw [utcText, toList_text, ← hzone]
    rfl
  apply trimChars_of_stops
  · rw [htext]
    exact stops_year _ _
  · rw [htext, ← List.append_assoc, List.reverse_append]
    exact stops_cons (by decide)

/-- In the years from 0 to 9999 the text of an instant is read as the
instant. -/
theorem read?_utcText (hfirst : 0 ≤ t.date.year) (hlast : t.date.year ≤ 9999) :
    read? t.utcText = some t := by
  have hfour : (yearText t.date.year).toList = paddedDigits 4 t.date.year.natAbs := by
    rcases yearText_cases t.date.year with ⟨hnegative, -⟩ | ⟨-, htext⟩ | ⟨hlarge, -⟩
    · omega
    · exact htext
    · omega
  have hread : number 4 4 (paddedDigits 4 t.date.year.natAbs ++ t.afterYear ['Z']) =
      some (t.date.year.natAbs, t.afterYear ['Z']) :=
    number_paddedDigits (by decide) (by decide) (by omega) _
  have hdate : (⟨t.date.year.natAbs, t.date.month, t.date.day⟩ : Date) = t.date :=
    Date.ext (Int.natAbs_of_nonneg hfirst) rfl rfl
  have hzone : offset ['Z'] = some (0, []) := rfl
  have hfields := t.ofFields?_fields (Int.le_trans (by decide) hfirst)
    (Int.le_trans hlast (by decide))
  have hstandard : readStandard t.utcText.toList = some (t, []) := by
    rw [utcText, toList_text, hfour, readStandard]
    refine (bind_of_found hread).trans ((afterYear_read t _ stops_zone (by decide)).trans ?_)
    rw [hdate, bind_of_found hzone, bind_of_found finish_nil, hfields]
    rfl
  rw [read?, trimChars_utcText, List.findSome?_cons, hstandard]
  rfl

theorem field_digits {n : Nat} (h : n < 100) (rest : List Char) :
    field (paddedDigits 2 n ++ rest) = some (n, rest) := by
  obtain ⟨c, more, hcons, hdigit⟩ := exists_cons_paddedDigits 2 n
  have hstops : Stops isBlank (paddedDigits 2 n ++ rest) := by
    rw [hcons]
    exact stops_cons (isBlank_of_isDigit hdigit)
  rw [field, bind_of_found (blanks_of_stops hstops)]
  exact number_paddedDigits (by decide) (by decide) h rest

theorem field_of_not_isDigit {c : Char} (hblank : isBlank c = false) (hdigit : c.isDigit = false)
    (rest : List Char) : field (c :: rest) = none := by
  rw [field, bind_of_found (blanks_of_stops (stops_cons hblank))]
  exact number_of_not_isDigit Nat.one_pos hdigit

/-- A date of any year is read back, up to the time of day. -/
theorem readDate_text (zone : List Char) :
    readDate ((yearText t.date.year).toList ++ t.afterYear zone) =
      some (t.date, 'T' :: t.clock zone) := by
  obtain ⟨hmonth, hday⟩ := t.date_lt
  rw [readDate, bind_of_found (blanks_of_stops (stops_year _ _)), afterYear,
    bind_of_found (year_yearText _ _), bind_of_found (mark_cons _ _),
    bind_of_found (field_digits hmonth _), bind_of_found (mark_cons _ _),
    bind_of_found (field_digits hday _)]
  rfl

/-- Forms without an offset do not read a text that has one. -/
theorem readLocal_text (between : Reading Unit)
    (hbetween : between = blanks ∨ between = mark 'T') :
    readLocal between ((yearText t.date.year).toList ++ t.afterYear ['Z']) = none := by
  rw [readLocal, bind_of_found (t.readDate_text _)]
  rcases hbetween with rfl | rfl
  · rw [bind_of_found (blanks_of_stops (stops_cons (by decide))),
      bind_of_none (field_of_not_isDigit (by decide) (by decide) _)]
  · have hhour := t.hour_lt
    have hminute := t.minute_lt
    have hsecond := t.second_le
    have hfinish : finish ['Z'] = none := rfl
    rw [bind_of_found (mark_cons _ _), clock, bind_of_found (field_digits (by omega) _),
      bind_of_found (mark_cons _ _), bind_of_found (field_digits (by omega) _),
      bind_of_found (mark_cons _ _), bind_of_found (field_digits (by omega) _),
      bind_of_found (fraction_fractionText t.subsecond_lt stops_zone (by decide)),
      bind_of_none hfinish]

theorem readMidnight_text :
    readMidnight ((yearText t.date.year).toList ++ t.afterYear ['Z']) = none := by
  have hfinish : finish ('T' :: t.clock ['Z']) = none := rfl
  rw [readMidnight, bind_of_found (t.readDate_text _), bind_of_none hfinish]

/-- In no other year is the text read at all: RFC 3339 has no signs, and the
forms that have them have no offset. -/
theorem read?_utcText_of_not (h : ¬(0 ≤ t.date.year ∧ t.date.year ≤ 9999)) :
    read? t.utcText = none := by
  have hsign : ∃ c, c.isDigit = false ∧
      (yearText t.date.year).toList = c :: paddedDigits 4 t.date.year.natAbs := by
    rcases yearText_cases t.date.year with ⟨-, htext⟩ | ⟨hfour, -⟩ | ⟨-, htext⟩
    · exact ⟨'-', by decide, htext⟩
    · exact absurd hfour h
    · exact ⟨'+', by decide, htext⟩
  obtain ⟨c, hdigit, htext⟩ := hsign
  have hstandard : readStandard ((yearText t.date.year).toList ++ t.afterYear ['Z']) = none := by
    rw [htext, readStandard]
    exact bind_of_none (number_of_not_isDigit (by decide) hdigit)
  rw [read?, trimChars_utcText, List.findSome?_eq_none_iff, utcText, toList_text]
  intro form hform
  simp only [List.mem_cons, List.not_mem_nil, or_false] at hform
  rw [Option.map_eq_none_iff]
  rcases hform with rfl | rfl | rfl | rfl
  · exact hstandard
  · exact t.readLocal_text _ (.inl rfl)
  · exact t.readLocal_text _ (.inr rfl)
  · exact t.readMidnight_text

/-- The text of an instant is read as the instant exactly in the years that RFC
3339 has. -/
theorem read?_utcText_eq_some_iff :
    read? t.utcText = some t ↔ 0 ≤ t.date.year ∧ t.date.year ≤ 9999 := by
  constructor
  · intro hread
    by_contra hother
    rw [t.read?_utcText_of_not hother] at hread
    cases hread
  · rintro ⟨hfirst, hlast⟩
    exact t.read?_utcText hfirst hlast

end RowGraph.Instant
