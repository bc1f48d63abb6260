/-!
Text laid out in columns. Widths count characters.
-/

namespace RowGraph.Text

def padRight (width : Nat) (text : String) : String :=
  String.ofList (text.toList ++ List.replicate (width - text.length) ' ')

def padLeft (width : Nat) (text : String) : String :=
  String.ofList (List.replicate (width - text.length) ' ' ++ text.toList)

def line (c : Char) (count : Nat) : String :=
  String.ofList (List.replicate count c)

/-- Text of at most `limit` characters as it is; longer text loses what goes
beyond `limit - 1` characters and gains an ellipsis. -/
def shorten (limit : Nat) (text : String) : String :=
  if text.length ≤ limit then text
  else String.ofList (text.toList.take (limit - 1) ++ ['…'])

def zeroPadded (width n : Nat) : String :=
  let digits := Nat.toDigits 10 n
  String.ofList (List.replicate (width - digits.length) '0' ++ digits)

theorem length_padRight (width : Nat) (text : String) :
    (padRight width text).length = max width text.length := by
  simp only [padRight, String.length_ofList, List.length_append, List.length_replicate,
    String.length_toList]
  omega

/-- Shortened text keeps to a positive limit. -/
theorem length_shorten_le {limit : Nat} (h : 0 < limit) (text : String) :
    (shorten limit text).length ≤ limit := by
  unfold shorten
  split
  · assumption
  · simp only [String.length_ofList, List.length_append, List.length_take, List.length_cons,
      List.length_nil]
    omega

end RowGraph.Text
