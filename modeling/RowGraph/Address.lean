import RowGraph.Settings

/-!
The addresses under which a graph can be reached. An address may begin with a
scheme, the part before its first colon; which schemes a graph answers to is
fixed, and an address without a scheme is as good as any of them.
-/

namespace RowGraph.Address

def isSchemeChar (c : Char) : Bool :=
  c.isAlphanum || c == '+' || c == '-' || c == '.'

/-- A character that may stand around an address and does not count. -/
def isPadding (c : Char) : Bool :=
  c ≤ ' '

/-- A character that does not count wherever it stands. -/
def isIgnored (c : Char) : Bool :=
  c == '\t' || c == '\n' || c == '\r'

def scheme? (address : String) : Option String :=
  let cs := (address.toList.dropWhile isPadding).filter fun c => !isIgnored c
  let found := cs.takeWhile isSchemeChar
  match found, cs.dropWhile isSchemeChar with
  | c :: _, ':' :: _ =>
    if c.isAlpha then some (Text.lowerAscii (String.ofList found)) else none
  | _, _ => none

def schemes : List String :=
  ["bolt", "bolt+s", "bolt+ssc", "neo4j", "neo4j+s", "neo4j+ssc"]

def foreignScheme? (address : String) : Option String :=
  (scheme? address).filter fun scheme => !schemes.contains scheme

end RowGraph.Address
