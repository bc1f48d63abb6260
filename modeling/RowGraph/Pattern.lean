import RowGraph.Text.Blank
import RowGraph.Text.Name

/-!
Relationship patterns: `(this)-[:HAS_AUTHOR]->(author)`, the same with its arrow
turned, `(author)<-[:HAS_AUTHOR]-(this)`, or the three parts given one by one.
Either way a pattern names the alias a relationship leaves from, the alias it
leads to, and its kind.

The short form is read slot by slot. A reader that stops reports what the slot
wanted and how many bytes of the text were behind it; a text whose slots are
all filled must still have exactly one arrow head.
-/

namespace RowGraph

inductive Pattern where
  | shorthand (text : String)
  | structured (source target kind : String)
deriving DecidableEq

/-- A relationship between two aliases, read from source to target. -/
structure Link where
  source : String
  target : String
  kind : String
deriving DecidableEq

namespace Pattern

/-- The alias of the row's own table. -/
def own : String := "this"

def isKindChar (c : Char) : Bool :=
  c.isUpper || c == '_'

/-- Relationship kinds, `[A-Z_]+`. -/
def isKindChars (cs : List Char) : Bool :=
  !cs.isEmpty && cs.all isKindChar

inductive Slot where
  | token (text : String)
  | either (first second : String)
  | aliasName
  | kind
deriving DecidableEq

/-- What a text should have had where reading it stopped. -/
inductive Expected where
  | slot (slot : Slot)
  | finish
  | oneDirection
  | sourceAlias
  | targetAlias
  | kindText
deriving DecidableEq

def Expected.text : Expected → String
  | .slot (.token word) => "'" ++ word ++ "'"
  | .slot (.either first second) => "'" ++ first ++ "' or '" ++ second ++ "'"
  | .slot .aliasName => "an alias"
  | .slot .kind => "a relationship type ([A-Z_]+)"
  | .finish => "end of pattern"
  | .oneDirection => "exactly one direction marker ('<-' or '->')"
  | .sourceAlias => "'from' to be an alias ([A-Za-z_][A-Za-z0-9_]*)"
  | .targetAlias => "'to' to be an alias ([A-Za-z_][A-Za-z0-9_]*)"
  | .kindText => "'rel_type' to match [A-Z_]+"

/-- A pattern that is not one: its text, the offset in bytes at which reading
stopped, and what should have been there. -/
structure Malformed where
  pattern : String
  offset : Nat
  expected : Expected
deriving DecidableEq

def Malformed.message (m : Malformed) : String :=
  "malformed pattern '" ++ m.pattern ++ "' at offset " ++ toString m.offset ++
    ": expected " ++ m.expected.text

def byteLength : List Char → Nat
  | [] => 0
  | c :: rest => c.utf8Size + byteLength rest

def readToken (token : String) (cs : List Char) : Option (List Char × List Char) :=
  if token.toList.isPrefixOf cs then some (token.toList, cs.drop token.length) else none

/-- What fills a slot at the front of a text, and the rest. Aliases and kinds
take all the characters that they can. -/
def Slot.read : Slot → List Char → Option (List Char × List Char)
  | .token word, cs => readToken word cs
  | .either first second, cs => readToken first cs <|> readToken second cs
  | .aliasName, c :: rest =>
    if Text.isNameStart c then
      some (c :: rest.takeWhile Text.isNameChar, rest.dropWhile Text.isNameChar)
    else none
  | .aliasName, [] => none
  | .kind, cs =>
    let kind := cs.takeWhile isKindChar
    if kind.isEmpty then none else some (kind, cs.dropWhile isKindChar)

/-- What fills each of a list of slots, and the rest; or the slot that nothing
fills, and the text in front of it. -/
def readSlots : List Slot → List Char →
    Except (Slot × List Char) (List (List Char) × List Char)
  | [], cs => .ok ([], cs)
  | slot :: slots, cs =>
    match slot.read cs with
    | none => .error (slot, cs)
    | some (part, rest) =>
      match readSlots slots rest with
      | .error stop => .error stop
      | .ok (parts, rest) => .ok (part :: parts, rest)

def shape : List Slot :=
  [.token "(", .aliasName, .token ")", .either "<-" "-", .token "[:", .kind, .token "]",
    .either "->" "-", .token "(", .aliasName, .token ")"]

/-- The link that the parts of the short form make, if exactly one of the two
dashes has a head. -/
def linkOf? : List (List Char) → Option Link
  | [_, left, _, back, _, kind, _, forth, _, right, _] =>
    let left := String.ofList left
    let right := String.ofList right
    match back == "<-".toList, forth == "->".toList with
    | false, true => some ⟨left, right, String.ofList kind⟩
    | true, false => some ⟨right, left, String.ofList kind⟩
    | _, _ => none
  | _ => none

/-- The link of a pattern in the short form, blanks around it aside. -/
def readShorthand (text : String) : Except Malformed Link :=
  let cs := Text.trimChars text.toList
  let malformed (offset : Nat) (expected : Expected) : Except Malformed Link :=
    .error ⟨String.ofList cs, offset, expected⟩
  match readSlots shape cs with
  | .error (slot, rest) => malformed (byteLength cs - byteLength rest) (.slot slot)
  | .ok (_, c :: rest) => malformed (byteLength cs - byteLength (c :: rest)) .finish
  | .ok (parts, []) =>
    match linkOf? parts with
    | some link => .ok link
    | none => malformed (byteLength (parts.take 3).flatten) .oneDirection

/-- The text of a pattern: the short form as given, the three parts in
braces. -/
def text : Pattern → String
  | .shorthand text => text
  | .structured source target kind =>
    "\x7bfrom: " ++ source ++ ", to: " ++ target ++ ", rel_type: " ++ kind ++ "\x7d"

def readStructured (source target kind : String) : Except Malformed Link :=
  let malformed (expected : Expected) : Except Malformed Link :=
    .error ⟨(Pattern.structured source target kind).text, 0, expected⟩
  if !Text.isName source then malformed .sourceAlias
  else if !Text.isName target then malformed .targetAlias
  else if !isKindChars kind.toList then malformed .kindText
  else .ok ⟨source, target, kind⟩

def read : Pattern → Except Malformed Link
  | .shorthand text => readShorthand text
  | .structured source target kind => readStructured source target kind

end Pattern

end RowGraph
