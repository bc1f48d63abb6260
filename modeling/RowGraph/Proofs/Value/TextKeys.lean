import RowGraph.Proofs.Cypher.BareWord
import RowGraph.Proofs.Decimal.Spelling
import RowGraph.Proofs.Text.Trimming
import RowGraph.Proofs.Value.Coerce

/-!
Keys in columns of text. What a column of texts makes of an integer, a truth
value or a number is a word without blanks, which the class of the key reads as
the very same value, with or without blanks around it. A reference that is kept
as text therefore still finds its row.
-/

namespace RowGraph

open Cypher (IsBare isBareChar isBare_of_all isBare_boolText isBare_intText isBare_render)

theorem isBlank_of_isBareChar {c : Char} (h : isBareChar c = true) : Text.isBlank c = false := by
  have hupper (h : c.isUpper = true) : 0x41 ≤ c.toNat ∧ c.toNat ≤ 0x5A := of_decide_eq_true h
  have hlower (h : c.isLower = true) : 0x61 ≤ c.toNat ∧ c.toNat ≤ 0x7A := by
    have hrange : (decide ('a'.val ≤ c.val) && decide (c.val ≤ 'z'.val)) = true := h
    rw [Bool.and_eq_true] at hrange
    exact ⟨of_decide_eq_true hrange.1, of_decide_eq_true hrange.2⟩
  rw [isBareChar, Bool.or_eq_true, Bool.or_eq_true, Bool.or_eq_true] at h
  rcases h with ((hword | hpoint) | hdash) | hslash
  · have hword : (c.isUpper || c.isLower || c.isDigit) = true := hword
    rw [Bool.or_eq_true, Bool.or_eq_true] at hword
    rcases hword with (hletter | hletter) | hdigit
    · apply Text.isBlank_of_printed
      have hrange := hupper hletter
      omega
    · apply Text.isBlank_of_printed
      have hrange := hlower hletter
      omega
    · exact Text.isBlank_of_isDigit hdigit
  · rw [beq_iff_eq.mp hpoint]
    rfl
  · rw [beq_iff_eq.mp hdash]
    rfl
  · rw [beq_iff_eq.mp hslash]
    rfl

/-- Blanks around a bare word are cut off. -/
theorem trim_around {before word after : String} (hword : IsBare word)
    (hbefore : ∀ c ∈ before.toList, Text.isBlank c = true)
    (hafter : ∀ c ∈ after.toList, Text.isBlank c = true) :
    Text.trim (before ++ word ++ after) = word := by
  apply Text.Trims.trim_eq
  constructor
  · exact ⟨before.toList, after.toList, by simp, hbefore, hafter⟩
  · intro c hc
    exact isBlank_of_isBareChar (hword c (List.mem_of_mem_head? hc))
  · intro c hc
    exact isBlank_of_isBareChar (hword c (List.mem_of_getLast? hc))

/-- The digits of an integer are read back, at both ends of the range too. -/
theorem readInt64?_intText (i : Int64) : readInt64? (intText i).toList = some i := by
  obtain ⟨digits, hdigits⟩ : ∃ digits, digits = Nat.toDigits 10 i.toInt.natAbs := ⟨_, rfl⟩
  have hne : digits ≠ [] := hdigits ▸ Nat.toDigits_ne_nil
  have hall : ∀ c ∈ digits, c.isDigit = true := by
    intro c hc
    rw [hdigits] at hc
    exact Text.isDigit_of_mem_toDigits hc
  have hvalue : Text.ofDigits digits = i.toInt.natAbs := by rw [hdigits, Text.ofDigits_toDigits]
  have htext : (intText i).toList = Text.sign (decide (i.toInt < 0)) ++ (digits ++ []) := by
    rw [hdigits, intText]
    by_cases hneg : i.toInt < 0
    · simp [hneg, Text.sign]
    · simp [hneg, Text.sign]
  have hsize : (if decide (i.toInt < 0) = true then -(Text.ofDigits digits : Int)
      else Text.ofDigits digits) = i.toInt := by
    rw [hvalue]
    split
    · rename_i hneg
      have hneg : i.toInt < 0 := of_decide_eq_true hneg
      omega
    · rename_i hpos
      have hpos : ¬i.toInt < 0 := by simpa using hpos
      omega
  have hfits : -0x8000000000000000 ≤ i.toInt ∧ i.toInt < 0x8000000000000000 :=
    ⟨i.le_toInt, i.toInt_lt⟩
  unfold readInt64?
  rw [htext, Text.splitSign_sign _ hne hall]
  dsimp only
  rw [List.append_nil, if_pos (Text.isDigits_of_forall hne hall), hsize, int64?, if_pos hfits,
    Int64.ofInt_toInt]

theorem readable_plainDecimals : plainDecimals.Readable where
  wholeMark := .inl rfl
  mantissaMark := .inl rfl
  exponentPlus := .inl rfl

namespace Binary64

variable {x : Binary64}

theorem isBare_plainText (x : Binary64) : IsBare x.plainText := by
  have hempty : IsBare "" := isBare_of_all (by decide)
  unfold plainText
  split
  · exact isBare_of_all (by decide)
  · split
    · split <;> exact isBare_of_all (by decide)
    · exact isBare_render hempty hempty hempty _ _

/-- A number in a column of texts is read back bit for bit, zeros with their
sign and the infinities by their names. -/
theorem read?_plainText (h : x.isNaN = false) :
    Binary64.read? x.plainText.toList = some x := by
  rw [plainText, h, if_neg (by decide)]
  split
  · rename_i hinfinite
    rw [eq_infinite hinfinite]
    cases x.negative <;> rfl
  · rename_i hinfinite
    apply read?_renderShortest readable_plainDecimals
    exact isFinite_of_not (by rw [h]; decide) hinfinite

end Binary64

namespace Value

/-- That a column of texts keeps a value: the class of the value reads the text
as the value, whatever blanks stand around it. -/
def KeptAsText (type : ColumnType) (v : Value) : Prop :=
  (v.coerce .text).coerce type = v ∧
    ∃ word, v.coerce .text = .text word ∧ ∀ before after : String,
      (∀ c ∈ before.toList, Text.isBlank c = true) →
      (∀ c ∈ after.toList, Text.isBlank c = true) →
      (Value.text (before ++ word ++ after)).coerce type = v

/-- A bare word that a class reads as the value keeps it, given that the class
reads texts by what is left between their blanks. -/
theorem keptAsText_of_word {type : ColumnType} {v : Value} {word : String}
    (hword : v.coerce .text = .text word) (hbare : IsBare word)
    (hread : ∀ s, Text.trim s = word → (Value.text s).coerce type = v) : KeptAsText type v := by
  refine ⟨?_, word, hword, ?_⟩
  · rw [hword]
    have hnone : ∀ c ∈ "".toList, Text.isBlank c = true := by simp
    have htrim := trim_around hbare hnone hnone
    simp only [String.append_empty, String.empty_append] at htrim
    exact hread word htrim
  · intro before after hbefore hafter
    exact hread _ (trim_around hbare hbefore hafter)

theorem trimChars_eq {s word : String} (h : Text.trim s = word) :
    Text.trimChars s.toList = word.toList := by
  rw [← h, Text.trim, String.toList_ofList]

/-- Integers, truth values and numbers come back from a column of texts as they
were, whatever blanks were put around them there: every integer of 64 bits, and
every number but NaN with all of its bits. -/
theorem keys_keptAsText :
    (∀ i : Int64, KeptAsText .integer (.int i)) ∧
    (∀ b : Bool, KeptAsText .boolean (.bool b)) ∧
    ∀ x : Binary64, x.isNaN = false → KeptAsText .real (.float x) := by
  refine ⟨?_, ?_, ?_⟩
  · intro i
    apply keptAsText_of_word rfl (isBare_intText i)
    intro s hs
    apply coerce_of_read?
    rw [read?, toInteger, trimChars_eq hs, readInt64?_intText, Option.map_some]
  · intro b
    apply keptAsText_of_word rfl (isBare_boolText b)
    intro s hs
    have hread : readBool? s = some b := by
      rw [readBool?, hs]
      cases b <;> rfl
    apply coerce_of_read?
    rw [read?, toBool, hread, Option.map_some]
  · intro x hx
    apply keptAsText_of_word rfl (Binary64.isBare_plainText x)
    intro s hs
    apply coerce_of_read?
    rw [read?, toReal, trimChars_eq hs, Binary64.read?_plainText hx, Option.map_some]

/-- The negative zero between a no-break space and an ideographic one. -/
theorem negativeZero_keptAsText :
    (Binary64.zero true).isNaN = false ∧ ∃ word,
      (Value.float (.zero true)).coerce .text = .text word ∧
      (Value.text ("\u00a0" ++ word ++ "\u3000\n")).coerce .real = .float (.zero true) := by
  have hnumber : (Binary64.zero true).isNaN = false := by decide
  obtain ⟨-, word, hword, hread⟩ := keys_keptAsText.2.2 (.zero true) hnumber
  exact ⟨hnumber, word, hword,
    hread "\u00a0" "\u3000\n" (List.all_eq_true.mp rfl) (List.all_eq_true.mp rfl)⟩

end Value

end RowGraph
