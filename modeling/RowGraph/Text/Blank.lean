/-!
White space as every reader of this library sees it: the characters with the
Unicode property White_Space, and text with that space cut from both ends.
-/

namespace RowGraph.Text

/-- The characters with the Unicode property White_Space. -/
def isBlank (c : Char) : Bool :=
  let n := c.toNat
  (0x09 ≤ n && n ≤ 0x0D) || n == 0x20 || n == 0x85 || n == 0xA0 || n == 0x1680 ||
    (0x2000 ≤ n && n ≤ 0x200A) || n == 0x2028 || n == 0x2029 || n == 0x202F ||
    n == 0x205F || n == 0x3000

def skipBlanks (cs : List Char) : List Char :=
  cs.dropWhile isBlank

def trimChars (cs : List Char) : List Char :=
  (skipBlanks (skipBlanks cs).reverse).reverse

def trim (text : String) : String :=
  String.ofList (trimChars text.toList)

/-- Skipping blanks leaves nothing or a character that is not blank in front. -/
theorem skipBlanks_head (cs : List Char) :
    ∀ c ∈ (skipBlanks cs).head?, isBlank c = false := by
  induction cs with
  | nil => simp [skipBlanks]
  | cons c cs ih =>
      intro d hd
      by_cases hc : isBlank c = true
      · have step : skipBlanks (c :: cs) = skipBlanks cs := by simp [skipBlanks, hc]
        exact ih d (step ▸ hd)
      · have step : skipBlanks (c :: cs) = c :: cs := by simp [skipBlanks, hc]
        rw [step] at hd
        simp only [List.head?_cons, Option.mem_def, Option.some.injEq] at hd
        subst hd
        simpa using hc

end RowGraph.Text
