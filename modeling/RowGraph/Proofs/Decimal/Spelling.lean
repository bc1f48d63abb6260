import RowGraph.Decimal.Style
import RowGraph.Proofs.Decimal.Numerals

/-!
Decimals are read back. Whatever a style decides about points, zeros and
exponents, its text spells the digits and the scale that it was given, up to
zeros at the end of the digits; so the shortest text of a finite number reads
back as this very number, the sign of zero included.
-/

namespace RowGraph

/-- That the marks of a style are ones that decimals are read with. -/
structure NumberStyle.Readable (style : NumberStyle) : Prop where
  wholeMark : style.wholeMark = "" ∨ style.wholeMark = ".0"
  mantissaMark : style.mantissaMark = "" ∨ style.mantissaMark = ".0"
  exponentPlus : style.exponentPlus = "" ∨ style.exponentPlus = "+"

namespace Numeral

open Text

/-- That characters are digits, perhaps with a point and an exponent, of the
value `digits` times ten to the `scale`. -/
inductive Spells (digits : Nat) (scale : Int) : List Char → Prop where
  | parts (zeros : Nat) {whole rest fraction tail : List Char} {exponent : Int}
      (nonempty : whole ≠ []) (all : ∀ c ∈ whole, c.isDigit = true)
      (stops : Reading.Stops Char.isDigit rest)
      (split : splitFraction rest = (fraction, tail))
      (power : readExponent? tail = some exponent)
      (value : ofDigits (whole ++ fraction) = digits * 10 ^ zeros)
      (place : exponent - fraction.length = scale - zeros) :
      Spells digits scale (whole ++ rest)

variable {digits : Nat} {scale : Int} {cs : List Char}

/-- What is spelled is read, with a sign in front or none. -/
theorem Spells.read? (h : Spells digits scale cs) (negative : Bool) :
    ∃ zeros : Nat, Numeral.read? (sign negative ++ cs) =
      some ⟨negative, digits * 10 ^ zeros, scale - zeros⟩ := by
  obtain @⟨zeros, whole, rest, fraction, tail, exponent, hne, hall, hstops, hsplit, hpower, hvalue,
    hplace⟩ := h
  refine ⟨zeros, ?_⟩
  have hempty : whole.isEmpty = false := by simpa using hne
  unfold Numeral.read?
  simp only [splitSign_sign negative hne hall, splitDigits_append_of_stops hall hstops, hsplit,
    hempty, Bool.false_and, Bool.false_eq_true, ↓reduceIte, hpower, Option.map_some, hvalue, hplace]

theorem Spells.nearest (h : Spells digits scale cs) (negative : Bool) :
    ∃ n : Numeral, Numeral.read? (sign negative ++ cs) = some n ∧ n.negative = negative ∧
      n.nearest = Numeral.nearest ⟨negative, digits, scale⟩ := by
  obtain ⟨zeros, hread⟩ := h.read? negative
  exact ⟨_, hread, rfl, nearest_shift negative digits zeros scale⟩

theorem splitFraction_point {fraction tail : List Char}
    (hfraction : ∀ c ∈ fraction, c.isDigit = true) (htail : Reading.Stops Char.isDigit tail) :
    splitFraction ('.' :: (fraction ++ tail)) = (fraction, tail) :=
  splitDigits_append_of_stops hfraction htail

/-- A mark after whole digits is no point, or a point and a zero. -/
theorem splitFraction_mark {mark : String} (hmark : mark = "" ∨ mark = ".0") {tail : List Char}
    (hstops : Reading.Stops Char.isDigit tail) (hpoint : tail.head? ≠ some '.') :
    ∃ zeros : Nat, splitFraction (mark.toList ++ tail) = (List.replicate zeros '0', tail) := by
  rcases hmark with rfl | rfl
  · refine ⟨0, ?_⟩
    cases tail with
    | nil => rfl
    | cons c rest =>
        have hc : c ≠ '.' := by
          rintro rfl
          exact hpoint rfl
        change splitFraction (c :: rest) = _
        unfold splitFraction
        split
        · rename_i heq
          exact absurd (List.cons.inj heq).1 hc
        · rfl
  · refine ⟨1, ?_⟩
    have hzero : ∀ c ∈ ['0'], c.isDigit = true := by
      intro c hc
      rw [List.mem_singleton.mp hc]
      decide
    exact splitFraction_point hzero hstops

/-- An exponent is read back. -/
theorem readExponent?_renderExponent {style : NumberStyle}
    (hplus : style.exponentPlus = "" ∨ style.exponentPlus = "+") (exponent : Int) :
    readExponent? ('e' :: (style.renderExponent exponent).toList) = some exponent := by
  obtain ⟨size, hsize⟩ :
      ∃ size, size = paddedDigits style.exponentWidth exponent.natAbs := ⟨_, rfl⟩
  have hall : ∀ c ∈ size, c.isDigit = true := by
    intro c hc
    rw [hsize] at hc
    exact isDigit_of_mem_paddedDigits hc
  have hne : size ≠ [] := hsize ▸ paddedDigits_ne_nil _ _
  have hdigits : isDigits size = true := isDigits_of_forall hne hall
  have hvalue : ofDigits size = exponent.natAbs := by rw [hsize, ofDigits_paddedDigits]
  have htext : (style.renderExponent exponent).toList =
      (if exponent < 0 then "-" else style.exponentPlus).toList ++ size := by
    rw [hsize]
    simp only [NumberStyle.renderExponent, String.toList_append, String.toList_ofList, paddedDigits]
  have hsign : splitSign (style.renderExponent exponent).toList =
      (decide (exponent < 0), size) := by
    rw [htext]
    by_cases hneg : exponent < 0
    · simp [hneg, splitSign]
    · rw [if_neg hneg, decide_eq_false hneg]
      rcases hplus with hplus | hplus
      · rw [hplus]
        have hunsigned := @splitSign_sign size [] false hne hall
        simpa [sign] using hunsigned
      · rw [hplus]
        rfl
  simp only [readExponent?, beq_self_eq_true, Bool.true_or, ↓reduceIte, hsign, hdigits, hvalue,
    decide_eq_true_eq, Option.some.injEq]
  split <;> omega

variable {style : NumberStyle}

theorem stops_point (rest : List Char) : Reading.Stops Char.isDigit ('.' :: rest) :=
  Reading.stops_cons (by decide)

theorem stops_exponent (rest : List Char) : Reading.Stops Char.isDigit ('e' :: rest) :=
  Reading.stops_cons (by decide)

theorem stops_mark {mark : String} (hmark : mark = "" ∨ mark = ".0") {tail : List Char}
    (hstops : Reading.Stops Char.isDigit tail) :
    Reading.Stops Char.isDigit (mark.toList ++ tail) := by
  rcases hmark with rfl | rfl
  · exact hstops
  · exact stops_point _

structure IsWritten (digits : Nat) (ds : List Char) : Prop where
  nonempty : ds ≠ []
  all : ∀ c ∈ ds, c.isDigit = true
  value : ofDigits ds = digits

theorem isWritten_toDigits (digits : Nat) : IsWritten digits (Nat.toDigits 10 digits) where
  nonempty := Nat.toDigits_ne_nil
  all _ hc := isDigit_of_mem_toDigits hc
  value := ofDigits_toDigits digits

theorem all_append {front back : List Char} (hfront : ∀ c ∈ front, c.isDigit = true)
    (hback : ∀ c ∈ back, c.isDigit = true) : ∀ c ∈ front ++ back, c.isDigit = true := by
  intro c hc
  rcases List.mem_append.mp hc with hc | hc
  · exact hfront c hc
  · exact hback c hc

theorem all_zeros (count : Nat) : ∀ c ∈ List.replicate count '0', c.isDigit = true :=
  fun _ hc => isDigit_of_mem_zeros hc

/-- Whole digits with a mark behind them, and what follows. -/
theorem IsWritten.spells_whole {ds : List Char} (h : IsWritten digits ds) (count : Nat)
    {mark : String} (hmark : mark = "" ∨ mark = ".0") {tail : List Char}
    (hstops : Reading.Stops Char.isDigit tail) (hpoint : tail.head? ≠ some '.') {exponent : Int}
    (hpower : readExponent? tail = some exponent) (hscale : exponent + count = scale) :
    Spells digits scale (ds ++ List.replicate count '0' ++ (mark.toList ++ tail)) := by
  obtain ⟨zeros, hsplit⟩ := splitFraction_mark hmark hstops hpoint
  refine .parts (count + zeros) ?_ (all_append h.all (all_zeros count)) (stops_mark hmark hstops)
    hsplit hpower ?_ ?_
  · simp [h.nonempty]
  · rw [ofDigits_append, ofDigits_append, ofDigits_zeros, ofDigits_zeros, h.value,
      List.length_replicate, List.length_replicate, Nat.add_zero, Nat.add_zero, Nat.mul_assoc,
      Nat.pow_add]
  · rw [List.length_replicate]
    omega

/-- Digits with a point among them, and what follows. -/
theorem IsWritten.spells_point {whole fraction : List Char}
    (h : IsWritten digits (whole ++ fraction)) (hne : whole ≠ []) {tail : List Char}
    (hstops : Reading.Stops Char.isDigit tail) {exponent : Int}
    (hpower : readExponent? tail = some exponent) (hscale : exponent - fraction.length = scale) :
    Spells digits scale (whole ++ '.' :: (fraction ++ tail)) := by
  have hwhole : ∀ c ∈ whole, c.isDigit = true :=
    fun c hc => h.all c (List.mem_append_left _ hc)
  have hfraction : ∀ c ∈ fraction, c.isDigit = true :=
    fun c hc => h.all c (List.mem_append_right _ hc)
  refine .parts 0 hne hwhole (stops_point _) (splitFraction_point hfraction hstops) hpower ?_ ?_
  · rw [h.value, Nat.pow_zero, Nat.mul_one]
  · omega

/-- Digits without an exponent spell what they were given as. -/
theorem IsWritten.spells_renderPlain {ds : List Char} (h : IsWritten digits ds)
    (hreadable : style.Readable) {lead : Int} (hlead : lead = scale + ds.length - 1) :
    Spells digits scale (style.renderPlain ds lead).toList := by
  have hpos : 0 < ds.length := List.length_pos_iff.mpr h.nonempty
  unfold NumberStyle.renderPlain
  split
  · -- All digits stand behind the point, after zeros.
    obtain ⟨count, hcount⟩ : ∃ count, count = (-lead).toNat - 1 := ⟨_, rfl⟩
    have hzero : IsWritten digits (['0'] ++ (List.replicate count '0' ++ ds)) := by
      refine ⟨by simp, all_append (all_zeros 1) (all_append (all_zeros count) h.all), ?_⟩
      rw [ofDigits_append, ofDigits_append, ofDigits_zeros, h.value, Nat.zero_mul, Nat.zero_add]
      exact Nat.add_eq_right.mpr (Nat.zero_mul _)
    have htext : ("0." ++ String.ofList (List.replicate count '0' ++ ds)).toList =
        ['0'] ++ '.' :: ((List.replicate count '0' ++ ds) ++ []) := by
      simp
    rw [← hcount, htext]
    apply hzero.spells_point (by simp) Reading.stops_nil rfl
    rw [List.length_append, List.length_replicate]
    omega
  · dsimp only
    split
    · obtain ⟨count, hcount⟩ : ∃ count, count = lead.toNat + 1 - ds.length := ⟨_, rfl⟩
      have htext : (String.ofList (ds ++ List.replicate count '0') ++ style.wholeMark).toList =
          ds ++ List.replicate count '0' ++ (style.wholeMark.toList ++ []) := by
        simp
      rw [← hcount, htext]
      apply h.spells_whole count hreadable.wholeMark Reading.stops_nil (by simp) rfl
      omega
    · have hsplit : ds = ds.take (lead.toNat + 1) ++ ds.drop (lead.toNat + 1) :=
        (List.take_append_drop _ _).symm
      have htext :
          (String.ofList (ds.take (lead.toNat + 1) ++ '.' :: ds.drop (lead.toNat + 1))).toList =
            ds.take (lead.toNat + 1) ++ '.' :: (ds.drop (lead.toNat + 1) ++ []) := by
        simp
      rw [htext]
      rw [hsplit] at h
      apply h.spells_point ?_ Reading.stops_nil rfl
      · rw [List.length_drop]
        omega
      · intro hnil
        have hlength := congrArg List.length hnil
        rw [List.length_take, List.length_nil] at hlength
        omega

/-- Digits with an exponent spell what they were given as. -/
theorem IsWritten.spells_renderScientific {ds : List Char} (h : IsWritten digits ds)
    (hreadable : style.Readable) {lead : Int} (hlead : lead = scale + ds.length - 1) :
    Spells digits scale (style.renderScientific ds lead).toList := by
  obtain ⟨tail, htail⟩ : ∃ tail, tail = 'e' :: (style.renderExponent lead).toList := ⟨_, rfl⟩
  have hstops : Reading.Stops Char.isDigit tail := htail ▸ stops_exponent _
  have hpower : readExponent? tail = some lead :=
    htail ▸ readExponent?_renderExponent hreadable.exponentPlus lead
  unfold NumberStyle.renderScientific
  split
  · rename_i first second rest
    have htext : (String.ofList (first :: '.' :: second :: rest) ++ "e" ++
        style.renderExponent lead).toList = [first] ++ '.' :: ((second :: rest) ++ tail) := by
      simp [htail]
    rw [htext]
    apply h.spells_point (by simp) hstops hpower
    simp only [List.length_cons] at hlead ⊢
    omega
  · rename_i hfew
    have hlength : ds.length = 1 := by
      obtain ⟨c, more, rfl⟩ := List.exists_cons_of_ne_nil h.nonempty
      cases more with
      | nil => rfl
      | cons d rest => exact absurd rfl (hfew c d rest)
    have htext : (String.ofList ds ++ style.mantissaMark ++ "e" ++
        style.renderExponent lead).toList =
        ds ++ List.replicate 0 '0' ++ (style.mantissaMark.toList ++ tail) := by
      simp [htail]
    rw [htext]
    apply h.spells_whole 0 hreadable.mantissaMark hstops ?_ hpower
    · omega
    · simp [htail]

/-- Every decimal is the sign and a spelling of the digits and the scale that it
was given. -/
theorem exists_spells_render (hreadable : style.Readable) (negative : Bool)
    (decimal : Nat × Int) : ∃ cs, Spells decimal.1 decimal.2 cs ∧
      (style.render negative decimal).toList = sign negative ++ cs := by
  have hwritten := isWritten_toDigits decimal.1
  unfold NumberStyle.render
  extract_lets ds lead text
  refine ⟨text.toList, ?_, ?_⟩
  · by_cases hplain : style.isPlain lead = true
    · have htext : text = style.renderPlain ds lead := if_pos hplain
      rw [htext]
      exact hwritten.spells_renderPlain hreadable rfl
    · have htext : text = style.renderScientific ds lead := if_neg hplain
      rw [htext]
      exact hwritten.spells_renderScientific hreadable rfl
  · cases negative with
    | false => rfl
    | true => simp [sign]

/-- A spelling begins with a digit. -/
theorem Spells.exists_cons (h : Spells digits scale cs) :
    ∃ c rest, cs = c :: rest ∧ c.isDigit = true := by
  obtain @⟨zeros, whole, rest, fraction, tail, exponent, hne, hall⟩ := h
  obtain ⟨c, more, rfl⟩ := List.exists_cons_of_ne_nil hne
  exact ⟨c, more ++ rest, rfl, hall c (by simp)⟩

end Numeral

namespace Binary64

theorem eq_infinite {x : Binary64} (h : x.isInfinite = true) : x = .infinite x.negative :=
  Binary64.ext rfl (beq_iff_eq.mp h)

theorem isFinite_of_not {x : Binary64} (hnan : ¬x.isNaN = true) (hinfinite : ¬x.isInfinite = true) :
    x.isFinite = true := by
  have hle : ¬infinity < x.magnitude := by simpa [isNaN] using hnan
  have hne : x.magnitude ≠ infinity := by simpa [isInfinite] using hinfinite
  exact decide_eq_true (Nat.lt_of_le_of_ne (Nat.le_of_not_lt hle) hne)

theorem toLower_of_isDigit {c : Char} (h : c.isDigit = true) : c.toLower = c := by
  have hrange : 0x30 ≤ c.toNat ∧ c.toNat ≤ 0x39 := Char.isDigit_iff_toNat.mp h
  have hupper : ¬(c.val ≥ 'A'.val ∧ c.val ≤ 'Z'.val) := by
    rintro ⟨hletter, -⟩
    have hbound : 0x41 ≤ c.toNat := hletter
    omega
  unfold Char.toLower
  exact dif_neg hupper

/-- Digits are none of the names of numbers. -/
theorem read?_of_isDigit {cs rest : List Char} {negative : Bool} {c : Char}
    (hsign : Text.splitSign cs = (negative, c :: rest)) (hdigit : c.isDigit = true) :
    Binary64.read? cs = (Numeral.read? cs).map Numeral.toBinary64 := by
  have hname {name : String} (hfirst : ∃ d, name.toList.head? = some d ∧ d.isDigit = false) :
      String.ofList ((c :: rest).map Char.toLower) ≠ name := by
    rintro rfl
    obtain ⟨d, hd, hfalse⟩ := hfirst
    rw [String.toList_ofList, List.map_cons, List.head?_cons, toLower_of_isDigit hdigit] at hd
    rw [← Option.some.inj hd, hdigit] at hfalse
    cases hfalse
  unfold Binary64.read?
  rw [hsign]
  dsimp only
  split
  · rename_i heq
    exact absurd heq (hname ⟨'i', rfl, rfl⟩)
  · rename_i heq
    exact absurd heq (hname ⟨'i', rfl, rfl⟩)
  · rename_i heq
    exact absurd heq (hname ⟨'n', rfl, rfl⟩)
  · rfl

/-- The shortest decimal of a finite number reads back as the number. -/
theorem read?_renderShortest {style : NumberStyle} (hreadable : style.Readable) {x : Binary64}
    (hfinite : x.isFinite = true) :
    Binary64.read? (style.renderShortest x).toList = some x := by
  obtain ⟨cs, hspells, htext⟩ :=
    Numeral.exists_spells_render hreadable x.negative (Shortest.digits x.magnitude)
  obtain ⟨n, hread, hnegative, hnearest⟩ := hspells.nearest x.negative
  have hmagnitude : n.nearest = x.magnitude := by
    rw [hnearest, Shortest.nearest_digits x.negative (by simpa [isFinite] using hfinite)]
  obtain ⟨c, rest, rfl, hdigit⟩ := hspells.exists_cons
  have hsign : Text.splitSign (Text.sign x.negative ++ c :: rest) = (x.negative, c :: rest) :=
    @Text.splitSign_sign [c] rest x.negative (by simp) (by simpa using hdigit)
  rw [NumberStyle.renderShortest, htext, read?_of_isDigit hsign hdigit, hread, Option.map_some,
    Numeral.toBinary64_eq hnegative hmagnitude]

end Binary64

end RowGraph
