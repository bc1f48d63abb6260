import Mathlib.Algebra.Ring.Nat
import Mathlib.Data.List.TakeWhile
import RowGraph.Proofs.Text.Reading
import RowGraph.Text.Column

/-!
Written numbers are read back: the digits of a natural number, with zeros in
front of them or behind, and the signs that stand before digits.
-/

namespace RowGraph.Text

theorem ofDigits_eq (cs : List Char) : ofDigits cs = Nat.ofDigitChars 10 cs 0 := by
  simp only [ofDigits, Nat.ofDigitChars, Nat.mul_comm]

@[simp] theorem ofDigits_toDigits (n : Nat) : ofDigits (Nat.toDigits 10 n) = n := by
  rw [ofDigits_eq, Nat.ofDigitChars_ten_toDigits]

theorem ofDigits_append (front back : List Char) :
    ofDigits (front ++ back) = ofDigits front * 10 ^ back.length + ofDigits back := by
  rw [ofDigits_eq, ofDigits_eq, ofDigits_eq, Nat.ofDigitChars_append,
    Nat.ofDigitChars_eq_ofDigitChars_zero, Nat.mul_comm]

@[simp] theorem ofDigits_zeros (count : Nat) : ofDigits (List.replicate count '0') = 0 := by
  rw [ofDigits_eq, Nat.ofDigitChars_replicate_zero, Nat.mul_zero]

theorem isDigit_of_mem_toDigits {n : Nat} {c : Char} (h : c ∈ Nat.toDigits 10 n) :
    c.isDigit = true :=
  Nat.isDigit_of_mem_toDigits (by decide) (by decide) h

theorem isDigit_of_mem_zeros {n : Nat} {c : Char} (h : c ∈ List.replicate n '0') :
    c.isDigit = true := by
  rw [List.eq_of_mem_replicate h]
  decide

variable {digits rest : List Char}

theorem splitDigits_append_of_stops (hdigits : ∀ c ∈ digits, c.isDigit = true)
    (hrest : Reading.Stops Char.isDigit rest) :
    splitDigits (digits ++ rest) = (digits, rest) := by
  rw [splitDigits, Reading.takeWhile_append_of_stops hdigits hrest,
    Reading.dropWhile_append_of_stops hdigits hrest]

theorem splitSign_of_isDigit {c : Char} (h : c.isDigit = true) :
    splitSign (c :: rest) = (false, c :: rest) := by
  unfold splitSign
  split
  · rename_i heq
    rw [(List.cons.inj heq).1] at h
    exact absurd h (by decide)
  · rename_i heq
    rw [(List.cons.inj heq).1] at h
    exact absurd h (by decide)
  · rfl

def sign (negative : Bool) : List Char :=
  if negative then ['-'] else []

/-- The sign in front of digits is read back. -/
theorem splitSign_sign (negative : Bool) (hne : digits ≠ [])
    (hdigits : ∀ c ∈ digits, c.isDigit = true) :
    splitSign (sign negative ++ (digits ++ rest)) = (negative, digits ++ rest) := by
  cases negative with
  | true => rfl
  | false =>
      obtain ⟨c, tail, rfl⟩ := List.exists_cons_of_ne_nil hne
      exact splitSign_of_isDigit (hdigits c (by simp))

theorem isDigits_of_forall (hne : digits ≠ []) (hdigits : ∀ c ∈ digits, c.isDigit = true) :
    isDigits digits = true := by
  rw [isDigits, Bool.and_eq_true]
  exact ⟨by simpa using hne, List.all_eq_true.mpr hdigits⟩

def paddedDigits (width n : Nat) : List Char :=
  List.replicate (width - (Nat.toDigits 10 n).length) '0' ++ Nat.toDigits 10 n

theorem toList_zeroPadded (width n : Nat) : (zeroPadded width n).toList = paddedDigits width n :=
  String.toList_ofList

theorem isDigit_of_mem_paddedDigits {width n : Nat} {c : Char} (h : c ∈ paddedDigits width n) :
    c.isDigit = true := by
  rcases List.mem_append.mp h with hzero | hdigit
  · exact isDigit_of_mem_zeros hzero
  · exact isDigit_of_mem_toDigits hdigit

@[simp] theorem ofDigits_paddedDigits (width n : Nat) : ofDigits (paddedDigits width n) = n := by
  rw [paddedDigits, ofDigits_append, ofDigits_zeros, ofDigits_toDigits, Nat.zero_mul, Nat.zero_add]

theorem paddedDigits_ne_nil (width n : Nat) : paddedDigits width n ≠ [] := by
  simp [paddedDigits, Nat.toDigits_ne_nil]

theorem exists_cons_paddedDigits (width n : Nat) :
    ∃ c more, paddedDigits width n = c :: more ∧ c.isDigit = true := by
  obtain ⟨c, more, hcons⟩ := List.exists_cons_of_ne_nil (paddedDigits_ne_nil width n)
  exact ⟨c, more, hcons, isDigit_of_mem_paddedDigits (hcons ▸ List.mem_cons_self)⟩

/-- A number that fits into its width has as many digits. -/
theorem length_paddedDigits {width n : Nat} (hwidth : 0 < width) (h : n < 10 ^ width) :
    (paddedDigits width n).length = width := by
  have hlength : (Nat.toDigits 10 n).length ≤ width :=
    (Nat.length_toDigits_le_iff (by decide) hwidth).mpr h
  rw [paddedDigits, List.length_append, List.length_replicate]
  omega

/-- Digits are read as their number, up to the first character that is none, or
as many as there may be. -/
theorem number_append {least most : Nat} (hdigits : ∀ c ∈ digits, c.isDigit = true)
    (hleast : least ≤ digits.length) (hmost : digits.length ≤ most)
    (hstops : Reading.Stops Char.isDigit (rest.take (most - digits.length))) :
    Reading.number least most (digits ++ rest) = some (ofDigits digits, rest) := by
  have htaken : ((digits ++ rest).take most).takeWhile Char.isDigit = digits := by
    rw [List.take_append, List.take_of_length_le hmost]
    exact Reading.takeWhile_append_of_stops hdigits hstops
  unfold Reading.number
  dsimp only
  rw [htaken, if_neg (Nat.not_lt.mpr hleast), List.drop_left]

/-- A number begins with a digit. -/
theorem number_of_not_isDigit {least most : Nat} (hleast : 0 < least) {c : Char}
    (h : c.isDigit = false) : Reading.number least most (c :: rest) = none := by
  have hnone : ((c :: rest).take most).takeWhile Char.isDigit = [] := by
    cases most with
    | zero => rfl
    | succ most => simp [h]
  unfold Reading.number
  dsimp only
  rw [hnone]
  exact if_pos hleast

/-- A number of fixed width is read back, whatever follows. -/
theorem number_paddedDigits {least width n : Nat} (hleast : least ≤ width) (hwidth : 0 < width)
    (h : n < 10 ^ width) (rest : List Char) :
    Reading.number least width (paddedDigits width n ++ rest) = some (n, rest) := by
  have hlength := length_paddedDigits hwidth h
  have hstops : Reading.Stops Char.isDigit (rest.take (width - (paddedDigits width n).length)) := by
    rw [hlength, Nat.sub_self, List.take_zero]
    exact Reading.stops_nil
  rw [number_append (fun c hc => isDigit_of_mem_paddedDigits hc) (by omega) (by omega) hstops,
    ofDigits_paddedDigits]

end RowGraph.Text
