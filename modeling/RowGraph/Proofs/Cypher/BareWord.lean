import RowGraph.Cypher.Literal
import RowGraph.Proofs.Text.Digits

/-!
Which literals are in quotes, and what the others look like: words of letters,
digits, points, dashes and slashes that are never empty. No character of such a
word can end a property list, a predicate or a statement.
-/

namespace RowGraph.Cypher

/-- The text that the literal of a value quotes, if it quotes one. -/
def quotedText? : Value → Option String
  | .text s => some s
  | .timestamp t => some t.utcText
  | _ => none

def isBareChar (c : Char) : Bool :=
  c.isAlphanum || c == '.' || c == '-' || c == '/'

def IsBare (text : String) : Prop :=
  ∀ c ∈ text.toList, isBareChar c = true

theorem isBare_of_all {text : String} (h : text.toList.all isBareChar = true) : IsBare text :=
  List.all_eq_true.mp h

theorem IsBare.append {a b : String} (ha : IsBare a) (hb : IsBare b) : IsBare (a ++ b) := by
  intro c hc
  rw [String.toList_append, List.mem_append] at hc
  rcases hc with hc | hc
  · exact ha c hc
  · exact hb c hc

theorem isBareChar_of_isDigit {c : Char} (h : c.isDigit = true) : isBareChar c = true := by
  simp [isBareChar, Char.isAlphanum, h]

theorem isBare_digits {cs : List Char} (h : ∀ c ∈ cs, c.isDigit = true) :
    IsBare (String.ofList cs) := by
  intro c hc
  rw [String.toList_ofList] at hc
  exact isBareChar_of_isDigit (h c hc)

theorem isBare_boolText (b : Bool) : IsBare (boolText b) := by
  cases b <;> exact isBare_of_all (by decide)

theorem isBare_intText (i : Int64) : IsBare (intText i) := by
  have hdigits : IsBare (String.ofList (Nat.toDigits 10 i.toInt.natAbs)) :=
    isBare_digits fun c hc => Text.isDigit_of_mem_toDigits hc
  unfold intText
  split
  · exact IsBare.append (isBare_of_all (by decide)) hdigits
  · exact hdigits

/-- Digits without an exponent make a bare word, whatever marks them as whole. -/
theorem isBare_renderPlain {style : NumberStyle} (hmark : IsBare style.wholeMark)
    {digits : List Char} (hdigits : ∀ c ∈ digits, c.isDigit = true) (lead : Int) :
    IsBare (style.renderPlain digits lead) := by
  unfold NumberStyle.renderPlain
  split
  · refine IsBare.append (isBare_of_all (by decide)) (isBare_digits fun c hc => ?_)
    rcases List.mem_append.mp hc with hzero | hdigit
    · exact Text.isDigit_of_mem_zeros hzero
    · exact hdigits c hdigit
  · dsimp only
    split
    · refine IsBare.append (isBare_digits fun c hc => ?_) hmark
      rcases List.mem_append.mp hc with hdigit | hzero
      · exact hdigits c hdigit
      · exact Text.isDigit_of_mem_zeros hzero
    · intro c hc
      rw [String.toList_ofList, List.mem_append, List.mem_cons] at hc
      rcases hc with hbefore | rfl | hafter
      · exact isBareChar_of_isDigit (hdigits c (List.mem_of_mem_take hbefore))
      · decide
      · exact isBareChar_of_isDigit (hdigits c (List.mem_of_mem_drop hafter))

/-- An exponent makes a bare word, whatever stands for its plus sign. -/
theorem isBare_renderExponent {style : NumberStyle} (hplus : IsBare style.exponentPlus)
    (exponent : Int) : IsBare (style.renderExponent exponent) := by
  unfold NumberStyle.renderExponent
  have hdigits : IsBare (String.ofList
      (List.replicate (style.exponentWidth - (Nat.toDigits 10 exponent.natAbs).length) '0' ++
        Nat.toDigits 10 exponent.natAbs)) := by
    refine isBare_digits fun c hc => ?_
    rcases List.mem_append.mp hc with hzero | hdigit
    · exact Text.isDigit_of_mem_zeros hzero
    · exact Text.isDigit_of_mem_toDigits hdigit
  refine IsBare.append ?_ hdigits
  split
  · exact isBare_of_all (by decide)
  · exact hplus

theorem isBare_renderScientific {style : NumberStyle} (hmark : IsBare style.mantissaMark)
    (hplus : IsBare style.exponentPlus) {digits : List Char}
    (hdigits : ∀ c ∈ digits, c.isDigit = true) (lead : Int) :
    IsBare (style.renderScientific digits lead) := by
  unfold NumberStyle.renderScientific
  refine IsBare.append (IsBare.append ?_ (isBare_of_all (by decide)))
    (isBare_renderExponent hplus lead)
  split
  · rename_i first second rest
    intro c hc
    rw [String.toList_ofList] at hc
    simp only [List.mem_cons] at hc
    rcases hc with rfl | rfl | rfl | hrest
    · exact isBareChar_of_isDigit (hdigits c (by simp))
    · decide
    · exact isBareChar_of_isDigit (hdigits c (by simp))
    · exact isBareChar_of_isDigit (hdigits c (by simp [hrest]))
  · exact IsBare.append (isBare_digits hdigits) hmark

/-- A decimal makes a bare word if the marks of its style do. -/
theorem isBare_render {style : NumberStyle} (hwhole : IsBare style.wholeMark)
    (hmantissa : IsBare style.mantissaMark) (hplus : IsBare style.exponentPlus)
    (negative : Bool) (decimal : Nat × Int) : IsBare (style.render negative decimal) := by
  have hdigits : ∀ c ∈ Nat.toDigits 10 decimal.1, c.isDigit = true :=
    fun c hc => Text.isDigit_of_mem_toDigits hc
  have htext (lead : Int) : IsBare (if style.isPlain lead
      then style.renderPlain (Nat.toDigits 10 decimal.1) lead
      else style.renderScientific (Nat.toDigits 10 decimal.1) lead) := by
    split
    · exact isBare_renderPlain hwhole hdigits lead
    · exact isBare_renderScientific hmantissa hplus hdigits lead
  unfold NumberStyle.render
  cases negative with
  | false => exact htext _
  | true => exact IsBare.append (isBare_of_all (by decide)) (htext _)

theorem isBare_floatLiteral (x : Binary64) : IsBare (floatLiteral x) := by
  have hempty : IsBare "" := isBare_of_all (by decide)
  unfold floatLiteral
  split
  · exact isBare_of_all (by decide)
  · split
    · split <;> exact isBare_of_all (by decide)
    · exact isBare_render (isBare_of_all (by decide)) hempty hempty _ _

/-- The literal of a value that is not quoted is a bare word. -/
theorem isBare_literal {v : Value} (h : quotedText? v = none) : IsBare (literal v) := by
  cases v with
  | null => exact isBare_of_all (by decide)
  | bool b => exact isBare_boolText b
  | int i => exact isBare_intText i
  | float x => exact isBare_floatLiteral x
  | text s => simp [quotedText?] at h
  | timestamp t => simp [quotedText?] at h

theorem append_ne_empty {a b : String} (h : a ≠ "" ∨ b ≠ "") : a ++ b ≠ "" := by
  intro hempty
  rw [String.append_eq_empty_iff] at hempty
  exact h.elim (fun ha => ha hempty.1) (fun hb => hb hempty.2)

theorem ofList_ne_empty {cs : List Char} (h : cs ≠ []) : String.ofList cs ≠ "" := by
  intro hempty
  exact h (by simpa using congrArg String.toList hempty)

theorem render_ne_empty (style : NumberStyle) (negative : Bool) (decimal : Nat × Int) :
    style.render negative decimal ≠ "" := by
  have hdigits : Nat.toDigits 10 decimal.1 ≠ [] := Nat.toDigits_ne_nil
  have hplain (lead : Int) : style.renderPlain (Nat.toDigits 10 decimal.1) lead ≠ "" := by
    unfold NumberStyle.renderPlain
    split
    · exact append_ne_empty (.inl (by decide))
    · dsimp only
      split
      · exact append_ne_empty (.inl (ofList_ne_empty (by simp [hdigits])))
      · exact ofList_ne_empty (by simp)
  have hscientific (lead : Int) :
      style.renderScientific (Nat.toDigits 10 decimal.1) lead ≠ "" :=
    append_ne_empty (.inl (append_ne_empty (.inr (by decide))))
  have htext (lead : Int) : (if style.isPlain lead
      then style.renderPlain (Nat.toDigits 10 decimal.1) lead
      else style.renderScientific (Nat.toDigits 10 decimal.1) lead) ≠ "" := by
    split
    · exact hplain lead
    · exact hscientific lead
  unfold NumberStyle.render
  cases negative with
  | false => exact htext _
  | true => exact append_ne_empty (.inl (by decide))

theorem literal_ne_empty (v : Value) : literal v ≠ "" := by
  have hquote (s : String) : quote s ≠ "" := ofList_ne_empty (by simp [quoteChars])
  cases v with
  | null => decide
  | bool b => cases b <;> decide
  | int i =>
      have hdigits : String.ofList (Nat.toDigits 10 i.toInt.natAbs) ≠ "" :=
        ofList_ne_empty Nat.toDigits_ne_nil
      rw [literal, intText]
      split
      · exact append_ne_empty (.inl (by decide))
      · exact hdigits
  | float x =>
      rw [literal, floatLiteral]
      split
      · decide
      · split
        · split <;> decide
        · exact render_ne_empty _ _ _
  | text s => exact hquote s
  | timestamp t => exact hquote t.utcText

end RowGraph.Cypher
