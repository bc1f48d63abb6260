import RowGraph.Text.Reading

/-!
Text in quotes, as TOML documents write it: between double quotes with escapes
or between single quotes without, on one line or, between three quotes, on
several. Text on several lines begins after the first line end, has all its
line ends as `\n`, and with a backslash at the end of a line skips all white
space up to the next visible character.
-/

namespace RowGraph.Document

open Reading

def isBlank (c : Char) : Bool :=
  c == ' ' || c == '\t'

/-- A character that text and comments may hold: the tab, and all that is not
a control character. -/
def isPlain (c : Char) : Bool :=
  c == '\t' || (' ' ≤ c && c != '\x7f')

def newline : Reading Unit
  | '\n' :: rest | '\r' :: '\n' :: rest => some ((), rest)
  | _ => none

def skipBlankLines : List Char → List Char
  | '\r' :: '\n' :: rest => skipBlankLines rest
  | c :: rest => if isBlank c || c == '\n' then skipBlankLines rest else c :: rest
  | [] => []

def codePoint (width : Nat) : Reading Char := fun cs => do
  let values ← (cs.take width).mapM Text.hexDigit?
  let n := values.foldl (fun n value => n * 16 + value) 0
  if values.length = width && decide n.isValidChar then some (Char.ofNat n, cs.drop width)
  else none

/-- What a letter after a backslash stands for. -/
def escaped : Reading Char
  | 'b' :: rest => some ('\x08', rest)
  | 't' :: rest => some ('\t', rest)
  | 'n' :: rest => some ('\n', rest)
  | 'f' :: rest => some ('\x0c', rest)
  | 'r' :: rest => some ('\r', rest)
  | '\x22' :: rest => some ('\x22', rest)
  | '\x5c' :: rest => some ('\x5c', rest)
  | 'u' :: rest => codePoint 4 rest
  | 'U' :: rest => codePoint 8 rest
  | _ => none

def escapePiece : Reading (List Char) := do
  mark '\x5c'
  let c ← escaped
  return [c]

/-- A piece of text that is one plain character of which `accept` holds. -/
def plainPiece (accept : Char → Bool) : Reading (List Char) := do
  let c ← oneOf fun c => isPlain c && accept c
  return [c]

def linePiece : Reading (List Char) := do
  newline
  return ['\n']

/-- A piece of text that is a backslash at the end of a line; it stands for
nothing. -/
def joinPiece : Reading (List Char) := do
  mark '\x5c'
  let _ ← span isBlank
  newline
  modify skipBlankLines
  return []

def closeOne (quote : Char) : Reading (List Char) := do
  mark quote
  return []

/-- Three quotes that close a text, with up to two before them that belong to
it. -/
def closeThree (quote : Char) : Reading (List Char) := fun cs =>
  let quotes := (cs.take 5).takeWhile (· == quote)
  if 3 ≤ quotes.length then some (quotes.drop 3, cs.drop quotes.length) else none

/-- Pieces of text until `close` finds its end, at most `fuel` of them. -/
def piecesWithin (close piece : Reading (List Char)) : Nat → Reading (List Char)
  | 0 => failure
  | fuel + 1 => close <|> do
    let first ← piece
    let rest ← piecesWithin close piece fuel
    return first ++ rest

def pieces (close piece : Reading (List Char)) : Reading (List Char) := fun cs =>
  piecesWithin close piece (cs.length + 1) cs

/-- Text in double quotes on one line. -/
def escapedText : Reading (List Char) := do
  mark '\x22'
  pieces (closeOne '\x22') (escapePiece <|> plainPiece fun c => c != '\x22' && c != '\x5c')

/-- Text in single quotes on one line. -/
def literalText : Reading (List Char) := do
  mark '\x27'
  pieces (closeOne '\x27') (plainPiece (· != '\x27'))

def escapedLines : Reading (List Char) := do
  word "\"\"\""
  let _ ← optional newline
  pieces (closeThree '\x22')
    (escapePiece <|> joinPiece <|> linePiece <|> plainPiece (· != '\x5c'))

def literalLines : Reading (List Char) := do
  word "'''"
  let _ ← optional newline
  pieces (closeThree '\x27') (linePiece <|> plainPiece fun _ => true)

def lineText : Reading String :=
  String.ofList <$> (escapedText <|> literalText)

def anyText : Reading String := do
  let quotes ← fun cs => some ((cs.take 3), cs)
  if quotes == "\"\"\"".toList then String.ofList <$> escapedLines
  else if quotes == "'''".toList then String.ofList <$> literalLines
  else lineText

end RowGraph.Document
