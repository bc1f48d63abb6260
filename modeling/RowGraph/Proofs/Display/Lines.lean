import Mathlib.Data.List.Basic
import RowGraph.Display.Grid
import RowGraph.Proofs.Cypher.BareWord

/-!
Printed lines. A text without line breaks is one line, and lines that are
printed one after another are told apart by the breaks between them. Nothing
that is laid out in a table breaks a line unless a name or a text does: the
literals of all other values are digits, letters and marks.
-/

namespace RowGraph.Display

/-- That a text has no line break. -/
def IsLine (text : String) : Prop :=
  '\n' ∉ text.toList

instance (text : String) : Decidable (IsLine text) :=
  inferInstanceAs (Decidable ('\n' ∉ text.toList))

variable {a b text : String} {lines parts : List String}

theorem isLine_append : IsLine (a ++ b) ↔ IsLine a ∧ IsLine b := by
  simp [IsLine, String.toList_append, not_or]

theorem isLine_of_digits {cs : List Char} (h : ∀ c ∈ cs, c.isDigit = true) :
    IsLine (String.ofList cs) := by
  intro member
  rw [String.toList_ofList] at member
  exact absurd (h '\n' member) (by decide)

theorem isLine_of_isBare (h : Cypher.IsBare text) : IsLine text := by
  intro member
  exact absurd (h '\n' member) (by decide)

theorem isLine_intercalate (ha : IsLine a) (h : ∀ part ∈ parts, IsLine part) :
    IsLine (String.intercalate a parts) := by
  rw [IsLine, String.toList_intercalate]
  induction parts with
  | nil => simp
  | cons first rest ih =>
      obtain ⟨hfirst, hrest⟩ := List.forall_mem_cons.mp h
      cases rest with
      | nil =>
          rw [List.map_singleton, List.intercalate_singleton]
          exact hfirst
      | cons second rest =>
          rw [List.map_cons, List.map_cons, List.intercalate_cons_cons, List.mem_append,
            List.mem_append, ← List.map_cons]
          rintro ((inFirst | inGap) | inRest)
          · exact hfirst inFirst
          · exact ha inGap
          · exact ih hrest inRest

theorem isLine_laidOut {layOut : Nat → String → String} {widths : List Nat}
    (hlay : ∀ width text, IsLine text → IsLine (layOut width text))
    (h : ∀ part ∈ parts, IsLine part) :
    ∀ part ∈ List.zipWith layOut widths parts, IsLine part := by
  induction parts generalizing widths with
  | nil => simp
  | cons first rest ih =>
      obtain ⟨hfirst, hrest⟩ := List.forall_mem_cons.mp h
      cases widths with
      | nil => simp
      | cons width widths =>
          rw [List.zipWith_cons_cons, List.forall_mem_cons]
          exact ⟨hlay width first hfirst, ih hrest⟩

theorem isLine_padRight {width : Nat} (h : IsLine text) : IsLine (Text.padRight width text) := by
  rw [IsLine, Text.padRight, String.toList_ofList, List.mem_append, List.mem_replicate]
  rintro (inText | ⟨-, hblank⟩)
  · exact h inText
  · cases hblank

theorem isLine_shorten {limit : Nat} (h : IsLine text) : IsLine (Text.shorten limit text) := by
  rw [Text.shorten]
  split
  · exact h
  · rw [IsLine, String.toList_ofList, List.mem_append, List.mem_singleton]
    rintro (inText | hdots)
    · exact h (List.mem_of_mem_take inText)
    · cases hdots

theorem isLine_fitted {width : Nat} (h : IsLine text) : IsLine (Grid.fitted width text) :=
  isLine_padRight (isLine_shorten h)

theorem isLine_rule (width : Nat) : IsLine (rule width) := by
  rw [IsLine, rule, Text.line, String.toList_ofList, List.mem_replicate]
  rintro ⟨-, hbreak⟩
  cases hbreak

theorem isLine_toString (n : Nat) : IsLine (toString n) := by
  rw [Nat.toString_eq_repr, Nat.repr_eq_ofList_toDigits]
  exact isLine_of_digits fun c hc => Text.isDigit_of_mem_toDigits hc

theorem isLine_zeroPadded (width n : Nat) : IsLine (Text.zeroPadded width n) := by
  apply isLine_of_digits
  intro c hc
  rcases List.mem_append.mp hc with hzero | hdigit
  · exact Text.isDigit_of_mem_zeros hzero
  · exact Text.isDigit_of_mem_toDigits hdigit

theorem isLine_yearText (year : Int) : IsLine (Instant.yearText year) := by
  have hdigits : IsLine (Text.zeroPadded 4 year.natAbs) := isLine_zeroPadded _ _
  unfold Instant.yearText
  dsimp only
  split
  · exact isLine_append.mpr ⟨by decide, hdigits⟩
  · split
    · exact hdigits
    · exact isLine_append.mpr ⟨by decide, hdigits⟩

theorem isLine_fractionText (nanos : Nat) : IsLine (Instant.fractionText nanos) := by
  have hpoint (width n : Nat) : IsLine ("." ++ Text.zeroPadded width n) :=
    isLine_append.mpr ⟨by decide, isLine_zeroPadded width n⟩
  unfold Instant.fractionText
  split
  · decide
  · split
    · exact hpoint _ _
    · split
      · exact hpoint _ _
      · exact hpoint _ _

theorem isLine_utcText (t : Instant) : IsLine t.utcText := by
  have hmark : IsLine "-" ∧ IsLine ":" ∧ IsLine "T" ∧ IsLine "Z" := by decide
  simp only [Instant.utcText, Instant.text, Instant.timeText, isLine_append, isLine_yearText,
    isLine_zeroPadded, isLine_fractionText, hmark, and_self]

theorem isLine_quote (h : IsLine text) : IsLine (Cypher.quote text) := by
  have hescaped : '\n' ∉ text.toList.flatMap Cypher.escapeChar := by
    intro member
    obtain ⟨c, hc, hbreak⟩ := List.mem_flatMap.mp member
    obtain rfl : '\n' = c := by
      unfold Cypher.escapeChar at hbreak
      split at hbreak
      · simpa using hbreak
      · simpa using hbreak
    exact h hc
  rw [IsLine, Cypher.quote, String.toList_ofList, Cypher.quoteChars, List.mem_cons,
    List.mem_append, List.mem_singleton]
  rintro (hopen | inside | hclose)
  · cases hopen
  · exact hescaped inside
  · cases hclose

/-- Only a text can break the line of its cell. -/
theorem isLine_cellText {v : Value} (h : ∀ text, v = .text text → IsLine text) :
    IsLine (cellText v) := by
  cases v with
  | text s => exact h s rfl
  | null => exact isLine_of_isBare (Cypher.isBare_of_all (by decide))
  | timestamp t => exact isLine_quote (isLine_utcText t)
  | _ => exact isLine_of_isBare (Cypher.isBare_literal rfl)

theorem toList_printed (lines : List String) :
    (printed lines).toList = ['\n'].intercalate (lines.map String.toList ++ [[]]) := by
  induction lines with
  | nil => rfl
  | cons line rest ih =>
      have hprinted : printed (line :: rest) = line ++ "\n" ++ printed rest := by
        simp [printed]
      rw [hprinted, String.toList_append, String.toList_append, ih, List.map_cons,
        List.cons_append, List.intercalate_cons_of_ne_nil (by simp)]
      rfl

/-- The printed text has the lines that are printed, each ended by a break. -/
theorem splitOn_printed (h : ∀ line ∈ lines, IsLine line) :
    ((printed lines).toList.splitOn '\n').map String.ofList = lines ++ [""] := by
  have hparts : ∀ part ∈ lines.map String.toList ++ [[]], '\n' ∉ part := by
    intro part member
    rcases List.mem_append.mp member with hline | hend
    · obtain ⟨line, inLines, rfl⟩ := List.mem_map.mp hline
      exact h line inLines
    · rw [List.mem_singleton.mp hend]
      exact List.not_mem_nil
  rw [toList_printed, List.splitOn_intercalate '\n' hparts (by simp), List.map_append,
    List.map_map]
  congr 1
  refine (List.map_congr_left ?_).trans (List.map_id lines)
  intro line _
  exact String.ofList_toList

end RowGraph.Display
