import RowGraph.Proofs.Cypher.Reader
import RowGraph.Proofs.Time.Instant
import RowGraph.Proofs.Value.TextKeys

/-!
Literals tell values apart. A reader that knows the language reads every literal
as the value that it was written for, but for two kinds of values: instants,
which are written as the text that they have, and what is not a number, which
has one literal. So two values with one literal are the same, or they are of
those kinds.
-/

namespace RowGraph.Cypher

def readNumber? (cs : List Char) : Option Value :=
  match readInt64? cs with
  | some i => some (.int i)
  | none => (Binary64.read? cs).map .float

/-- The value that a literal says: a word, a division, digits, digits with a
point or an exponent, or text in quotes. -/
def readValue? (cs : List Char) : Option Value :=
  match readQuoted cs with
  | some (said, []) => some (.text (String.ofList said))
  | some _ => none
  | none =>
    match String.ofList cs with
    | "null" => some .null
    | "true" => some (.bool true)
    | "false" => some (.bool false)
    | "0.0/0.0" => some (.float .notANumber)
    | "1.0/0.0" => some (.float (.infinite false))
    | "-1.0/0.0" => some (.float (.infinite true))
    | _ => readNumber? cs

def said : Value → Value
  | .float x => .float (if x.isNaN then .notANumber else x)
  | .timestamp t => .text t.utcText
  | v => v

theorem mem_splitSign {cs : List Char} {c : Char} (hmem : c ∈ cs) (hminus : c ≠ '-')
    (hplus : c ≠ '+') : c ∈ (Text.splitSign cs).2 := by
  unfold Text.splitSign
  split
  · exact (List.mem_cons.mp hmem).resolve_left hminus
  · exact (List.mem_cons.mp hmem).resolve_left hplus
  · exact hmem

/-- A point or an exponent is no part of an integer. -/
theorem readInt64?_of_mem {cs : List Char} (h : '.' ∈ cs ∨ 'e' ∈ cs) : readInt64? cs = none := by
  have hdigits : Text.isDigits (Text.splitSign cs).2 = false := by
    by_contra hdigits
    rw [Bool.not_eq_false, Text.isDigits, Bool.and_eq_true, List.all_eq_true] at hdigits
    rcases h with h | h
    · exact absurd (hdigits.2 _ (mem_splitSign h (by decide) (by decide))) (by decide)
    · exact absurd (hdigits.2 _ (mem_splitSign h (by decide) (by decide))) (by decide)
  unfold readInt64?
  dsimp only
  rw [hdigits]
  rfl

theorem readable_decimals : decimals.Readable where
  wholeMark := .inr rfl
  mantissaMark := .inl rfl
  exponentPlus := .inl rfl

/-- Every number with digits has a point or an exponent. -/
theorem mem_render (negative : Bool) (decimal : Nat × Int) :
    '.' ∈ (decimals.render negative decimal).toList ∨
      'e' ∈ (decimals.render negative decimal).toList := by
  have hplain (ds : List Char) (lead : Int) : '.' ∈ (decimals.renderPlain ds lead).toList := by
    unfold NumberStyle.renderPlain
    split
    · simp
    · dsimp only
      split
      · simp [decimals]
      · simp
  have hscientific (ds : List Char) (lead : Int) :
      'e' ∈ (decimals.renderScientific ds lead).toList := by
    simp [NumberStyle.renderScientific]
  unfold NumberStyle.render
  extract_lets ds lead text
  have htext : '.' ∈ text.toList ∨ 'e' ∈ text.toList := by
    by_cases hform : decimals.isPlain lead = true
    · have heq : text = decimals.renderPlain ds lead := if_pos hform
      exact .inl (heq ▸ hplain ds lead)
    · have heq : text = decimals.renderScientific ds lead := if_neg hform
      exact .inr (heq ▸ hscientific ds lead)
  cases negative with
  | false => exact htext
  | true => simpa using htext

/-- What reads as a number is none of the words and divisions. -/
theorem readValue?_of_readNumber? {text : String} {v : Value} (hbare : IsBare text)
    (hread : readNumber? text.toList = some v) : readValue? text.toList = some v := by
  have hother {word : String} (hword : readNumber? word.toList = none) : text ≠ word := by
    rintro rfl
    rw [hword] at hread
    cases hread
  have hquoted : readQuoted text.toList = none := by
    have hempty : text ≠ "" := hother rfl
    simpa using readQuoted_of_isBare hbare hempty []
  unfold readValue?
  rw [hquoted, String.ofList_toList]
  dsimp only
  split
  · exact absurd rfl (hother rfl)
  · exact absurd rfl (hother rfl)
  · exact absurd rfl (hother rfl)
  · exact absurd rfl (hother rfl)
  · exact absurd rfl (hother rfl)
  · exact absurd rfl (hother rfl)
  · exact hread

theorem readValue?_quote (text : String) : readValue? (quote text).toList = some (.text text) := by
  have hquoted : readQuoted (quote text).toList = some (text.toList, []) := by
    rw [quote, String.toList_ofList]
    simpa using readQuoted_quoteChars text.toList []
  rw [readValue?, hquoted]
  exact congrArg (fun said => some (Value.text said)) String.ofList_toList

theorem readValue?_floatLiteral (x : Binary64) :
    readValue? (floatLiteral x).toList = some (said (.float x)) := by
  by_cases hnan : x.isNaN = true
  · rw [floatLiteral, said, if_pos hnan, if_pos hnan]
    rfl
  · rw [said, if_neg hnan]
    by_cases hinfinite : x.isInfinite = true
    · rw [Binary64.eq_infinite hinfinite]
      cases x.negative <;> rfl
    · have htext : floatLiteral x = decimals.renderShortest x := by
        rw [floatLiteral, if_neg hnan, if_neg hinfinite]
      apply readValue?_of_readNumber? (isBare_floatLiteral x)
      have hmark := mem_render x.negative (Shortest.digits x.magnitude)
      rw [← NumberStyle.renderShortest] at hmark
      rw [htext, readNumber?, readInt64?_of_mem hmark,
        Binary64.read?_renderShortest readable_decimals (Binary64.isFinite_of_not hnan hinfinite)]
      rfl

/-- Every literal is read as the value that it says. -/
theorem readValue?_literal (v : Value) : readValue? (literal v).toList = some (said v) := by
  cases v with
  | null => rfl
  | bool b => cases b <;> rfl
  | int i =>
      apply readValue?_of_readNumber? (isBare_intText i)
      rw [readNumber?, readInt64?_intText]
      rfl
  | float x => exact readValue?_floatLiteral x
  | text s => exact readValue?_quote s
  | timestamp t => exact readValue?_quote t.utcText

/-- What a literal says has the same literal. -/
theorem literal_said (v : Value) : literal (said v) = literal v := by
  cases v with
  | float x =>
      by_cases hnan : x.isNaN = true
      · have hsame : Binary64.notANumber.isNaN = true := by decide
        change floatLiteral (if x.isNaN = true then .notANumber else x) = floatLiteral x
        rw [if_pos hnan, floatLiteral, floatLiteral, if_pos hnan, if_pos hsame]
      · rw [said, if_neg hnan]
  | _ => rfl

/-- Two values have one literal exactly if it says the same for both. -/
theorem literal_eq_iff_said (v w : Value) : literal v = literal w ↔ said v = said w := by
  constructor
  · intro h
    have hread := readValue?_literal v
    rw [h, readValue?_literal w] at hread
    exact (Option.some.inj hread).symm
  · intro h
    rw [← literal_said v, ← literal_said w, h]

theorem eq_of_said_float {x y : Binary64} (h : said (.float x) = said (.float y)) :
    x = y ∨ x.isNaN = true ∧ y.isNaN = true := by
  have hsame : Binary64.notANumber.isNaN = true := by decide
  have h := Value.float.inj h
  by_cases hx : x.isNaN = true
  · right
    refine ⟨hx, ?_⟩
    by_contra hy
    rw [if_pos hx, if_neg hy] at h
    rw [h] at hsame
    exact hy hsame
  · by_cases hy : y.isNaN = true
    · rw [if_neg hx, if_pos hy] at h
      rw [← h] at hsame
      exact absurd hsame hx
    · rw [if_neg hx, if_neg hy] at h
      exact .inl h

/-- Values that say the same are the same, but for instants and for what is not
a number. -/
theorem eq_of_said {v w : Value} (h : said v = said w) :
    v = w ∨ (∃ x y, v = .float x ∧ w = .float y ∧ x.isNaN = true ∧ y.isNaN = true) ∨
      (∃ t, v = .timestamp t ∧ w = .text t.utcText) ∨
      ∃ t, v = .text t.utcText ∧ w = .timestamp t := by
  cases v with
  | float x =>
      cases w with
      | float y =>
          rcases eq_of_said_float h with rfl | ⟨hx, hy⟩
          · exact .inl rfl
          · exact .inr (.inl ⟨x, y, rfl, rfl, hx, hy⟩)
      | _ => exact absurd h nofun
  | text s =>
      cases w with
      | text s' => exact .inl h
      | timestamp u =>
          obtain rfl : s = u.utcText := Value.text.inj h
          exact .inr (.inr (.inr ⟨u, rfl, rfl⟩))
      | _ => exact absurd h nofun
  | timestamp t =>
      cases w with
      | text s =>
          obtain rfl : t.utcText = s := Value.text.inj h
          exact .inr (.inr (.inl ⟨t, rfl, rfl⟩))
      | timestamp u =>
          obtain rfl : t = u := Instant.utcText_injective (Value.text.inj h)
          exact .inl rfl
      | _ => exact absurd h nofun
  | null => cases w <;> first | exact .inl rfl | exact absurd h nofun
  | bool b => cases w <;> first | exact .inl h | exact absurd h nofun
  | int i => cases w <;> first | exact .inl h | exact absurd h nofun

/-- Two values have one literal exactly if they are the same value, or neither
is a number, or one is an instant and the other the text that the instant is
written as. An integer never shares a literal with a floating-point number, the
zeros differ, and so do the literals of any two instants. -/
theorem literals_tell_values_apart :
    (∀ v w : Value, literal v = literal w ↔ v = w ∨
      (∃ x y, v = .float x ∧ w = .float y ∧ x.isNaN = true ∧ y.isNaN = true) ∨
      (∃ t, v = .timestamp t ∧ w = .text t.utcText) ∨
      ∃ t, v = .text t.utcText ∧ w = .timestamp t) ∧
    (∀ (i : Int64) (x : Binary64), literal (.int i) ≠ literal (.float x)) ∧
    literal (.float (.zero false)) ≠ literal (.float (.zero true)) ∧
    ∀ t u : Instant, literal (.timestamp t) = literal (.timestamp u) ↔ t = u := by
  refine ⟨?_, ?_, ?_, ?_⟩
  · intro v w
    rw [literal_eq_iff_said]
    constructor
    · exact eq_of_said
    · rintro (rfl | ⟨x, y, rfl, rfl, hx, hy⟩ | ⟨t, rfl, rfl⟩ | ⟨t, rfl, rfl⟩)
      · rfl
      · rw [said, said, if_pos hx, if_pos hy]
      · rfl
      · rfl
  · intro i x
    rw [Ne, literal_eq_iff_said]
    exact nofun
  · rw [Ne, literal_eq_iff_said]
    decide
  · intro t u
    rw [literal_eq_iff_said]
    constructor
    · intro h
      exact Instant.utcText_injective (Value.text.inj h)
    · rintro rfl
      rfl

end RowGraph.Cypher
