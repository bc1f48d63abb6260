import Mathlib.Data.List.TakeWhile
import RowGraph.Proofs.Text.Reading
import RowGraph.Text.Blank

/-!
Cutting blanks from both ends of a text. What is left is determined by two
things: with blanks in front and behind it is the text again, and it neither
begins nor ends with a blank.
-/

namespace RowGraph.Text

/-- That a text has blanks in front of a core and behind it, and that the core
neither begins nor ends with one. -/
structure Trims (text core : String) : Prop where
  around : ∃ before after, text.toList = before ++ (core.toList ++ after) ∧
    (∀ c ∈ before, isBlank c = true) ∧ ∀ c ∈ after, isBlank c = true
  first : ∀ c ∈ core.toList.head?, isBlank c = false
  last : ∀ c ∈ core.toList.getLast?, isBlank c = false

theorem skipBlanks_append {before rest : List Char} (h : ∀ c ∈ before, isBlank c = true) :
    skipBlanks (before ++ rest) = skipBlanks rest :=
  List.dropWhile_append_of_pos h

theorem skipBlanks_of_stops {cs : List Char} (h : Reading.Stops isBlank cs) :
    skipBlanks cs = cs := by
  cases cs with
  | nil => rfl
  | cons c rest => simp [skipBlanks, h c (by simp)]

/-- Printed characters of ASCII are no blanks. -/
theorem isBlank_of_printed {c : Char} (h : 0x21 ≤ c.toNat ∧ c.toNat ≤ 0x7E) :
    isBlank c = false := by
  simp only [isBlank, Bool.or_eq_false_iff, Bool.and_eq_false_iff, decide_eq_false_iff_not,
    beq_eq_false_iff_ne]
  omega

theorem isBlank_of_isDigit {c : Char} (h : c.isDigit = true) : isBlank c = false := by
  have hrange : 0x30 ≤ c.toNat ∧ c.toNat ≤ 0x39 := Char.isDigit_iff_toNat.mp h
  apply isBlank_of_printed
  omega

theorem blanks_of_stops {cs : List Char} (h : Reading.Stops isBlank cs) :
    Reading.blanks cs = some ((), cs) := by
  rw [Reading.blanks, skipBlanks_of_stops h]

/-- A text that no blank begins or ends is left alone. -/
theorem trimChars_of_stops {cs : List Char} (hfirst : Reading.Stops isBlank cs)
    (hlast : Reading.Stops isBlank cs.reverse) : trimChars cs = cs := by
  rw [trimChars, skipBlanks_of_stops hfirst, skipBlanks_of_stops hlast, List.reverse_reverse]

theorem skipBlanks_of_all {cs : List Char} (h : ∀ c ∈ cs, isBlank c = true) :
    skipBlanks cs = [] := by
  rw [← List.append_nil cs, skipBlanks_append h]
  rfl

theorem trims_trim (text : String) : Trims text (trim text) := by
  obtain ⟨left, hleft⟩ : ∃ left, left = skipBlanks text.toList := ⟨_, rfl⟩
  obtain ⟨back, hback⟩ : ∃ back, back = skipBlanks left.reverse := ⟨_, rfl⟩
  have hcore : (trim text).toList = back.reverse := by
    rw [trim, trimChars, String.toList_ofList, ← hleft, ← hback]
  have htext : text.toList = text.toList.takeWhile isBlank ++ left := by
    rw [hleft, skipBlanks, List.takeWhile_append_dropWhile]
  have hends : left = back.reverse ++ (left.reverse.takeWhile isBlank).reverse := by
    rw [hback, skipBlanks, ← List.reverse_append, List.takeWhile_append_dropWhile,
      List.reverse_reverse]
  constructor
  · refine ⟨text.toList.takeWhile isBlank, (left.reverse.takeWhile isBlank).reverse, ?_, ?_, ?_⟩
    · rw [hcore, ← hends]
      exact htext
    · intro c member
      exact List.mem_takeWhile_imp member
    · intro c member
      exact List.mem_takeWhile_imp (List.mem_reverse.mp member)
  · -- The core begins as the text without its first blanks does.
    intro c hc
    rw [hcore] at hc
    apply skipBlanks_head text.toList
    rw [← hleft, hends, List.head?_append, Option.mem_def.mp hc]
    rfl
  · intro c hc
    rw [hcore, List.getLast?_reverse, hback] at hc
    exact skipBlanks_head left.reverse c hc

/-- There is only one such core. -/
theorem Trims.trim_eq {text core : String} (h : Trims text core) : trim text = core := by
  obtain ⟨before, after, htext, hbefore, hafter⟩ := h.around
  have hback : ∀ c ∈ after.reverse, isBlank c = true :=
    fun c member => hafter c (List.mem_reverse.mp member)
  have hlast : Reading.Stops isBlank core.toList.reverse := by
    intro c hc
    rw [List.head?_reverse] at hc
    exact h.last c hc
  have hleft : skipBlanks (skipBlanks (core.toList ++ after)).reverse = core.toList.reverse := by
    cases hcore : core.toList with
    | nil => rw [List.nil_append, skipBlanks_of_all hafter]; rfl
    | cons c rest =>
        have hfirst : Reading.Stops isBlank (core.toList ++ after) := by
          intro d hd
          apply h.first d
          simpa [hcore] using hd
        rw [← hcore, skipBlanks_of_stops hfirst, List.reverse_append, skipBlanks_append hback,
          skipBlanks_of_stops hlast]
  rw [trim, trimChars, htext, skipBlanks_append hbefore, hleft, List.reverse_reverse,
    String.ofList_toList]

end RowGraph.Text
