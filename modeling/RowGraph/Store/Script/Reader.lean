import RowGraph.Store.Script
import RowGraph.Text.Doubled

/-!
Reading scripts from SQL text: selections of literals or of the columns of one
table, insertions of single rows, deletions of all rows, and declarations of
tables. Statements are read one after another, so that those before one that
cannot be read are still there to be run; keywords count in any case.
-/

namespace RowGraph.Script

open Reading

/-- A comment between slashes and stars without its beginning, up to its end or
the end of the script. -/
def skipComment : List Char → List Char
  | '*' :: '/' :: rest => rest
  | _ :: rest => skipComment rest
  | [] => []

/-- A script without the blanks and comments at its front; `fuel` bounds their
number. -/
def skipWithin : Nat → List Char → List Char
  | 0, cs => cs
  | fuel + 1, cs =>
    match Text.skipBlanks cs with
    | '-' :: '-' :: rest => skipWithin fuel (rest.dropWhile (· != '\n'))
    | '/' :: '*' :: rest => skipWithin fuel (skipComment rest)
    | rest => rest

def skip (cs : List Char) : List Char :=
  skipWithin (cs.length + 1) cs

def token {α : Type} (step : Reading α) : Reading α := do
  modify skip
  step

def sign (c : Char) : Reading Unit :=
  token (mark c)

/-- A run of letters, digits and underscores that begins with no digit. -/
def plainWord : Reading String := token do
  let found ← span Text.isNameChar
  if Text.isNameChars found then return String.ofList found else failure

def keyword (expected : String) : Reading Unit := do
  let found ← plainWord
  if Text.upperAscii found != expected then failure

def keywords : List String → Reading Unit
  | [] => return ()
  | expected :: rest => do
    keyword expected
    keywords rest

def reserved : List String :=
  ["AS", "CAST", "CREATE", "DELETE", "FOREIGN", "FROM", "INSERT", "INTO", "NULL", "PRIMARY",
    "REFERENCES", "SELECT", "TABLE", "VALUES"]

def name : Reading String :=
  (String.ofList <$> token (Text.readDoubled '\x22')) <|> do
    let found ← plainWord
    if reserved.contains (Text.upperAscii found) then failure
    return found

def parenthesised {α : Type} (step : Reading α) : Reading α := do
  sign '('
  let found ← step
  sign ')'
  return found

def commaSeparated {α : Type} (step : Reading α) : Reading (List α) :=
  separated step (sign ',')

def bytesOfHex : List Char → Option (List UInt8)
  | [] => some []
  | a :: b :: rest => do
    let high ← Text.hexDigit? a
    let low ← Text.hexDigit? b
    return UInt8.ofNat (high * 16 + low) :: (← bytesOfHex rest)
  | _ => none

def bytes : Reading ByteArray := token do
  let _ ← oneOf fun c => c == 'X' || c == 'x'
  let digits ← Text.readDoubled '\x27'
  match bytesOfHex digits with
  | some found => return ⟨found.toArray⟩
  | none => failure

def numberChars : Reading (List Char) := do
  let digits ← span fun c => c.isDigit || c == '.'
  let power ← optional (do
    let e ← oneOf fun c => c == 'e' || c == 'E'
    let negative ← optional (oneOf fun c => c == '+' || c == '-')
    let size ← span Char.isDigit
    return e :: negative.toList ++ size)
  return digits ++ power.getD []

/-- A number: an integer if it is written as one and fits. -/
def number : Reading Cell := token do
  let negative ← optional (oneOf fun c => c == '-' || c == '+')
  let unsigned ← numberChars
  let cs := negative.toList ++ unsigned
  match readInt64? cs, Numeral.read? cs with
  | some i, _ => return .integer i
  | none, some numeral => return .real numeral.toBinary64
  | none, none => failure

def castText : Reading Cell := do
  keyword "CAST"
  parenthesised do
    let found ← bytes
    keywords ["AS", "TEXT"]
    return .text found

def cell : Reading Cell :=
  (do keyword "NULL"; return .null) <|> castText <|> (Cell.blob <$> bytes) <|>
    ((fun cs => Cell.text (String.ofList cs).toUTF8) <$> token (Text.readDoubled '\x27')) <|>
    number

def labelled {α : Type} (step : Reading α) : Reading (String × α) := do
  let found ← step
  keyword "AS"
  return (← name, found)

def selection : Reading Statement := do
  keyword "SELECT"
  (do
    sign '*'
    keyword "FROM"
    return .selectFrom (← name) none) <|>
  (do
    let columns ← commaSeparated (labelled name)
    keyword "FROM"
    return .selectFrom (← name) (some columns)) <|>
  (do return .select (← commaSeparated (labelled cell)))

def insertion : Reading Statement := do
  keywords ["INSERT", "INTO"]
  let table ← name
  keyword "VALUES"
  return .insert table (← parenthesised (commaSeparated cell))

def deletion : Reading Statement := do
  keywords ["DELETE", "FROM"]
  return .delete (← name)

/-- The characters of a declared type, up to the comma or the parenthesis that
ends it; `depth` counts the parentheses that are open. -/
def typeChars (depth : Nat) : List Char → List Char × List Char
  | [] => ([], [])
  | c :: rest =>
    if depth = 0 && (c == ',' || c == ')') then ([], c :: rest)
    else
      let inside := if c == '(' then depth + 1 else if c == ')' then depth - 1 else depth
      let (found, after) := typeChars inside rest
      (c :: found, after)

/-- Words that say more of a column than its type. -/
def constraintWords : List String :=
  ["AS", "CHECK", "COLLATE", "CONSTRAINT", "DEFAULT", "GENERATED", "NOT", "NULL", "PRIMARY",
    "REFERENCES", "UNIQUE"]

def declaredType : Reading String := token fun cs =>
  let (found, rest) := typeChars 0 cs
  let words := found.splitOnP fun c => !Text.isNameChar c
  if words.any fun word => constraintWords.contains (Text.upperAscii (String.ofList word)) then
    none
  else some (Text.trim (String.ofList found), rest)

inductive Part where
  | column (column : Column)
  | primaryKey (columns : List String)
  | reference (reference : Reference)

def names : Reading (List String) :=
  parenthesised (commaSeparated name)

def part : Reading Part :=
  (do
    keywords ["PRIMARY", "KEY"]
    return .primaryKey (← names)) <|>
  (do
    keywords ["FOREIGN", "KEY"]
    let columns ← names
    keyword "REFERENCES"
    let table ← name
    return .reference ⟨columns, table, ← optional names⟩) <|>
  (do
    let name ← name
    return .column ⟨name, ← declaredType⟩)

def addPart (table : Table) : Part → Table
  | .column column => { table with columns := table.columns ++ [column] }
  | .primaryKey columns => { table with primaryKey := columns }
  | .reference reference => { table with references := table.references ++ [reference] }

def declaration : Reading Statement := do
  keywords ["CREATE", "TABLE"]
  let table ← name
  let parts ← parenthesised (commaSeparated part)
  return .create (parts.foldl addPart ⟨table, [], [], [], []⟩)

def ending : Reading Unit :=
  sign ';' <|> token finish

def statement : Reading Statement := do
  let found ← selection <|> insertion <|> deletion <|> declaration
  ending
  return found

/-- The statements of a text up to the first that cannot be read, at most
`fuel` of them. -/
def statementsWithin : Nat → List Char → List Statement
  | 0, _ => []
  | fuel + 1, cs =>
    match skip cs with
    | [] => []
    | ';' :: rest => statementsWithin fuel rest
    | cs =>
      match statement cs with
      | some (found, rest) => found :: statementsWithin fuel rest
      | none => [.broken]

/-- The statements of a text. The first that cannot be read is broken, and none
is told from then on. -/
def read (text : String) : List Statement :=
  let cs := text.toList
  statementsWithin (cs.length + 1) cs

end RowGraph.Script
