import RowGraph.Proofs.Cypher.BareWord
import RowGraph.Proofs.Text.Reading

/-!
A reader of the names and literals of graph statements. It knows the language
and not the program that writes it: a plain name goes as far as its characters
do, in a back-ticked name a doubled back-tick stands for one, in quoted text a
backslash makes the backslash or quote after it stand for itself, and any other
literal is a bare word of letters, digits, points, dashes and slashes.

Every name and every literal is read back as what was written, whatever
follows, so long as what follows cannot lengthen a plain name, double a closing
back-tick or lengthen a bare word.
-/

namespace RowGraph.Cypher

def readPlainName : Reading String
  | [] => none
  | c :: rest =>
    if Text.isNameStart c then
      some (String.ofList (c :: rest.takeWhile Text.isNameChar), rest.dropWhile Text.isNameChar)
    else none

/-- A name, plain or in back-ticks. -/
def readName : Reading String := fun cs =>
  match Text.readDoubled '\x60' cs with
  | some (name, rest) => some (String.ofList name, rest)
  | none => readPlainName cs

/-- The text up to the quote that closes it, and what comes after. A backslash
has to stand before a backslash or a quote. -/
def untilClosed : List Char → Option (List Char × List Char)
  | [] => none
  | [c] => if c = '\x27' then some ([], []) else none
  | c :: d :: rest =>
    if c = '\x27' then some ([], d :: rest)
    else if c = '\x5c' then
      if d = '\x27' ∨ d = '\x5c' then
        (untilClosed rest).map fun (text, after) => (d :: text, after)
      else none
    else (untilClosed (d :: rest)).map fun (text, after) => (c :: text, after)

def readQuoted : Reading (List Char)
  | [] => none
  | c :: rest => if c = '\x27' then untilClosed rest else none

/-- A literal as it is found in a statement: its text, and what it says if it
is text in quotes. -/
structure FoundLiteral where
  text : String
  quoted : Option String
deriving DecidableEq

def readLiteral : Reading FoundLiteral := fun cs =>
  match readQuoted cs with
  | some (said, rest) =>
    let text := cs.take (cs.length - rest.length)
    some (⟨String.ofList text, some (String.ofList said)⟩, rest)
  | none =>
    let word := cs.takeWhile isBareChar
    if word.isEmpty then none
    else some (⟨String.ofList word, none⟩, cs.dropWhile isBareChar)

def foundLiteral (v : Value) : FoundLiteral :=
  ⟨literal v, quotedText? v⟩

/-- What may follow a name: nothing that makes a plain name longer, and no
second back-tick. -/
def EndsName (rest : List Char) : Prop :=
  ∀ c ∈ rest.head?, Text.isNameChar c = false ∧ c ≠ '\x60'

theorem endsName_cons {c : Char} {rest : List Char}
    (h : Text.isNameChar c = false ∧ c ≠ '\x60') : EndsName (c :: rest) := by
  intro d hd
  obtain rfl : c = d := by simpa using hd
  exact h

theorem EndsName.stops {rest : List Char} (h : EndsName rest) :
    Reading.Stops Text.isNameChar rest :=
  fun c hc => (h c hc).1

theorem EndsName.head_ne {rest : List Char} (h : EndsName rest) :
    rest.head? ≠ some '\x60' :=
  fun hhead => (h '\x60' hhead).2 rfl

theorem readPlainName_append {cs rest : List Char} (hname : Text.isNameChars cs = true)
    (hrest : Reading.Stops Text.isNameChar rest) :
    readPlainName (cs ++ rest) = some (String.ofList cs, rest) := by
  cases cs with
  | nil => simp [Text.isNameChars] at hname
  | cons c tail =>
      obtain ⟨hstart, htail⟩ :
          Text.isNameStart c = true ∧ ∀ d ∈ tail, Text.isNameChar d = true := by
        simpa [Text.isNameChars] using hname
      rw [List.cons_append, readPlainName, if_pos hstart,
        Reading.takeWhile_append_of_stops htail hrest,
        Reading.dropWhile_append_of_stops htail hrest]

/-- No plain name begins with a back-tick. -/
theorem readDoubled_of_isNameChars {cs rest : List Char} (h : Text.isNameChars cs = true) :
    Text.readDoubled '\x60' (cs ++ rest) = none := by
  cases cs with
  | nil => simp [Text.isNameChars] at h
  | cons c tail =>
      have hstart : Text.isNameStart c = true := by
        have := h
        simp only [Text.isNameChars, Bool.and_eq_true] at this
        exact this.1
      have hc : c ≠ '\x60' := by
        rintro rfl
        exact absurd hstart (by decide)
      rw [List.cons_append, Text.readDoubled, if_neg hc]

/-- A name is read back, with back-ticks or without. -/
theorem readName_nameChars (name : String) {rest : List Char} (hrest : EndsName rest) :
    readName (nameChars name.toList ++ rest) = some (name, rest) := by
  unfold readName nameChars
  by_cases hplain : Text.isNameChars name.toList = true
  · rw [if_pos hplain, readDoubled_of_isNameChars hplain,
      readPlainName_append hplain hrest.stops, String.ofList_toList]
  · rw [if_neg hplain, Text.readDoubled_doubled hrest.head_ne]
    exact congrArg (fun read => some (read, rest)) String.ofList_toList

/-- A character as it stands in quotes is read back. -/
theorem untilClosed_escapeChar (c : Char) {cs : List Char} (h : cs ≠ []) :
    untilClosed (escapeChar c ++ cs) =
      (untilClosed cs).map fun (text, after) => (c :: text, after) := by
  obtain ⟨d, rest, rfl⟩ := List.exists_cons_of_ne_nil h
  by_cases hc : c = '\x27' ∨ c = '\x5c'
  · simp [escapeChar, hc, untilClosed]
  · have hquote : c ≠ '\x27' := fun heq => hc (.inl heq)
    have hslash : c ≠ '\x5c' := fun heq => hc (.inr heq)
    simp [escapeChar, hquote, hslash, untilClosed]

theorem untilClosed_flatMap (cs rest : List Char) :
    untilClosed (cs.flatMap escapeChar ++ '\x27' :: rest) = some (cs, rest) := by
  induction cs with
  | nil => cases rest <;> simp [untilClosed]
  | cons c cs ih =>
      rw [List.flatMap_cons, List.append_assoc, untilClosed_escapeChar c (by simp), ih]
      rfl

/-- Text in quotes is read back, whatever follows. -/
theorem readQuoted_quoteChars (cs rest : List Char) :
    readQuoted (quoteChars cs ++ rest) = some (cs, rest) := by
  simp [readQuoted, quoteChars, untilClosed_flatMap]

/-- The literal of a value that is quoted is the text that it quotes, in
quotes. -/
theorem literal_of_quotedText? {v : Value} {said : String} (h : quotedText? v = some said) :
    literal v = quote said := by
  cases v with
  | text s =>
      obtain rfl : s = said := by simpa [quotedText?] using h
      rfl
  | timestamp t =>
      obtain rfl : t.utcText = said := by simpa [quotedText?] using h
      rfl
  | _ => simp [quotedText?] at h

/-- No bare word begins with a quote. -/
theorem readQuoted_of_isBare {text : String} (hbare : IsBare text) (hne : text ≠ "")
    (rest : List Char) : readQuoted (text.toList ++ rest) = none := by
  cases hcs : text.toList with
  | nil => exact absurd (by simpa using hcs) hne
  | cons c tail =>
      have hc : c ≠ '\x27' := by
        rintro rfl
        exact absurd (hbare '\x27' (by simp [hcs])) (by decide)
      rw [List.cons_append, readQuoted, if_neg hc]

/-- A literal is read back: its text, and what it quotes. What follows must not
lengthen a bare word. -/
theorem readLiteral_literal (v : Value) {rest : List Char}
    (hrest : Reading.Stops isBareChar rest) :
    readLiteral ((literal v).toList ++ rest) = some (foundLiteral v, rest) := by
  -- What is not in quotes is a bare word, which the quoted reader rejects.
  unfold readLiteral foundLiteral
  cases hsaid : quotedText? v with
  | some said =>
      have htext : (literal v).toList = quoteChars said.toList := by
        rw [literal_of_quotedText? hsaid, quote, String.toList_ofList]
      rw [htext, readQuoted_quoteChars]
      simp [← htext]
  | none =>
      have hbare := isBare_literal hsaid
      rw [readQuoted_of_isBare hbare (literal_ne_empty v),
        Reading.takeWhile_append_of_stops hbare hrest,
        Reading.dropWhile_append_of_stops hbare hrest]
      simp [literal_ne_empty v]

end RowGraph.Cypher
