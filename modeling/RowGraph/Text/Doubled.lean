import RowGraph.Text.Reading

/-!
Text between two quotes of one kind, in which a quote of that kind stands for
itself when it is written twice. Reading stops at the first quote that stands
alone, so what was written is read back whatever follows, unless a further
quote does.
-/

namespace RowGraph.Text

/-- A character between quotes. -/
def doubledChar (quote c : Char) : List Char :=
  if c = quote then [quote, quote] else [c]

def doubled (quote : Char) (cs : List Char) : List Char :=
  quote :: (cs.flatMap (doubledChar quote) ++ [quote])

/-- The text before the quote that closes it, and what comes after. -/
def untilQuote (quote : Char) : List Char → Option (List Char × List Char)
  | [] => none
  | [c] => if c = quote then some ([], []) else none
  | c :: d :: rest =>
    if c = quote then
      if d = quote then
        (untilQuote quote rest).map fun (text, after) => (quote :: text, after)
      else some ([], d :: rest)
    else (untilQuote quote (d :: rest)).map fun (text, after) => (c :: text, after)

def readDoubled (quote : Char) : Reading (List Char)
  | [] => none
  | c :: rest => if c = quote then untilQuote quote rest else none

/-- A closing quote ends the text unless another quote follows. -/
theorem untilQuote_close {quote : Char} {rest : List Char} (h : rest.head? ≠ some quote) :
    untilQuote quote (quote :: rest) = some ([], rest) := by
  cases rest with
  | nil => simp [untilQuote]
  | cons d rest =>
    have : d ≠ quote := by simpa using h
    simp [untilQuote, this]

/-- A character as it stands between quotes is read back. -/
theorem untilQuote_doubledChar (quote c : Char) {cs : List Char} (h : cs ≠ []) :
    untilQuote quote (doubledChar quote c ++ cs) =
      (untilQuote quote cs).map fun (text, after) => (c :: text, after) := by
  obtain ⟨d, rest, rfl⟩ := List.exists_cons_of_ne_nil h
  by_cases hc : c = quote
  · simp [doubledChar, hc, untilQuote]
  · simp [doubledChar, hc, untilQuote]

/-- What stands between quotes is read back. -/
theorem untilQuote_flatMap {quote : Char} {rest : List Char} (h : rest.head? ≠ some quote)
    (cs : List Char) :
    untilQuote quote (cs.flatMap (doubledChar quote) ++ quote :: rest) = some (cs, rest) := by
  induction cs with
  | nil => simpa using untilQuote_close h
  | cons c cs ih =>
    rw [List.flatMap_cons, List.append_assoc, untilQuote_doubledChar quote c (by simp), ih]
    rfl

/-- Text between quotes is read back. -/
theorem readDoubled_doubled {quote : Char} {rest : List Char} (h : rest.head? ≠ some quote)
    (cs : List Char) : readDoubled quote (doubled quote cs ++ rest) = some (cs, rest) := by
  simp [readDoubled, doubled, untilQuote_flatMap h]

end RowGraph.Text
