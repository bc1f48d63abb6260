import RowGraph.Text.Blank
import RowGraph.Text.Digits

/-!
Reading text from its front, step by step. A step finds something and leaves
the rest, or finds nothing; of two steps joined by `<|>` the second is tried on
the same text if the first finds nothing.
-/

namespace RowGraph

/-- A step of reading: what it finds at the front of a text, and the rest. -/
abbrev Reading (α : Type) := StateT (List Char) Option α

namespace Reading

/-- Between `least` and `most` decimal digits, as many as there are. -/
def number (least most : Nat) : Reading Nat := fun cs =>
  let digits := (cs.take most).takeWhile Char.isDigit
  if digits.length < least then none
  else some (Text.ofDigits digits, cs.drop digits.length)

def oneOf (accept : Char → Bool) : Reading Char
  | [] => none
  | c :: rest => if accept c then some (c, rest) else none

def mark (c : Char) : Reading Unit := do
  let _ ← oneOf (· == c)

def word (text : String) : Reading Unit := fun cs =>
  let expected := text.toList
  if expected.isPrefixOf cs then some ((), cs.drop expected.length) else none

def span (accept : Char → Bool) : Reading (List Char) := fun cs =>
  some (cs.takeWhile accept, cs.dropWhile accept)

def blanks : Reading Unit := fun cs =>
  some ((), Text.skipBlanks cs)

def finish : Reading Unit
  | [] => some ((), [])
  | _ => none

def whole {α : Type} (step : Reading α) (cs : List Char) : Option α :=
  match step cs with
  | some (found, []) => some found
  | _ => none

/-- What `element` finds, again and again, with `between` in between. -/
def separatedWithin {α : Type} (element : Reading α) (between : Reading Unit) :
    Nat → Reading (List α)
  | 0 => failure
  | fuel + 1 => do
    let first ← element
    let more ← optional (do
      between
      separatedWithin element between fuel)
    return first :: more.getD []

/-- What `element` finds at least once, with `between` in between. -/
def separated {α : Type} (element : Reading α) (between : Reading Unit) :
    Reading (List α) := fun cs =>
  separatedWithin element between (cs.length + 1) cs

end Reading

end RowGraph
