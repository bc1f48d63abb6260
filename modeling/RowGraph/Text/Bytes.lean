/-!
Bytes read as text. Well-formed UTF-8 is read as the text that it encodes; in
anything else, every longest run of bytes that begins a character but does not
complete one is replaced by U+FFFD.
-/

namespace RowGraph.Text

/-- The character that stands for bytes that encode none. -/
def replacement : Char := '\ufffd'

def isContinuation (b : UInt8) : Bool :=
  0x80 ≤ b.toNat && b.toNat ≤ 0xBF

/-- What the byte after `lead` has to be for the two to begin a character. -/
def continues (lead b : UInt8) : Bool :=
  let low := if lead == 0xE0 then 0xA0 else if lead == 0xF0 then 0x90 else 0x80
  let high := if lead == 0xED then 0x9F else if lead == 0xF4 then 0x8F else 0xBF
  low ≤ b.toNat && b.toNat ≤ high

/-- How many bytes follow `lead` in the character that it begins. -/
def following (lead : UInt8) : Option Nat :=
  let n := lead.toNat
  if n < 0x80 then some 0
  else if 0xC2 ≤ n && n ≤ 0xDF then some 1
  else if 0xE0 ≤ n && n ≤ 0xEF then some 2
  else if 0xF0 ≤ n && n ≤ 0xF4 then some 3
  else none

/-- The bytes at the front that continue the character begun by `lead`, at
most `count` of them. -/
def continuation (lead : UInt8) (count : Nat) (rest : List UInt8) : List UInt8 :=
  match count, rest with
  | count + 1, b :: rest =>
    if continues lead b then b :: (rest.take count).takeWhile isContinuation else []
  | _, _ => []

/-- The code point of a lead byte with `more` after it, from the bits that
each of them carries. -/
def assemble (lead : UInt8) (more : List UInt8) : Char :=
  let top := lead.toNat % Nat.pow 2 (if more.isEmpty then 7 else 6 - more.length)
  Char.ofNat (more.foldl (fun n b => n * 64 + b.toNat % 64) top)

/-- The characters of any sequence of bytes, with `replacement` for every
longest run that begins a character without completing one. -/
def readBytes (bytes : List UInt8) : List Char :=
  match bytes with
  | [] => []
  | lead :: rest =>
    match following lead with
    | none => replacement :: readBytes rest
    | some count =>
      let more := continuation lead count rest
      (if more.length = count then assemble lead more else replacement) ::
        readBytes (rest.drop more.length)
termination_by bytes.length
decreasing_by
  all_goals simp only [List.length_cons, List.length_drop]; omega

def ofBytes (bytes : ByteArray) : String :=
  match String.fromUTF8? bytes with
  | some text => text
  | none => String.ofList (readBytes bytes.toList)

def hex (bytes : ByteArray) : String :=
  String.ofList (bytes.toList.flatMap fun b =>
    [Nat.digitChar (b.toNat / 16), Nat.digitChar (b.toNat % 16)])

/-- The bytes of a text stand for that text. -/
theorem ofBytes_toUTF8 (text : String) : ofBytes text.toUTF8 = text := by
  have valid : text.toUTF8.IsValidUTF8 := text.isValidUTF8
  simp only [ofBytes, String.fromUTF8?, valid, ↓reduceDIte]
  rfl

end RowGraph.Text
