import RowGraph.Log.Entry
import RowGraph.Text.Name

/-!
Which log entries are kept. A filter is a list of rules, each a text that the
origin of an entry has to begin with and the least severe level that the rule
keeps. Of the rules that fit an origin the one with the longest text decides,
and an origin that none fits is not kept.
-/

namespace RowGraph.Log

/-- Keeps the entries from origins that begin with a text, up to a rank of
severity; rank 0 keeps none. -/
structure Rule where
  origin : String
  rank : Nat
deriving DecidableEq

structure Filter where
  rules : List Rule
deriving DecidableEq

namespace Filter

def fits (rule : Rule) (origin : String) : Bool :=
  rule.origin.toList.isPrefixOf origin.toList

/-- The rule that decides about an origin: the longest that fits, and the last
given of several that are equally long. -/
def ruleFor? (filter : Filter) (origin : String) : Option Rule :=
  filter.rules.foldl (fun best rule =>
    if !fits rule origin then best
    else match best with
      | none => some rule
      | some other => if other.origin.length ≤ rule.origin.length then some rule else best)
    none

def keeps (filter : Filter) (entry : Entry) : Bool :=
  match filter.ruleFor? entry.origin with
  | some rule => entry.level.rank ≤ rule.rank
  | none => false

def lines (filter : Filter) (entries : List Entry) : List String :=
  (entries.filter filter.keeps).map Entry.line

def readRank? (text : String) : Option Nat :=
  match Text.lowerAscii text with
  | "off" | "0" => some 0
  | "error" | "1" => some 1
  | "warn" | "2" => some 2
  | "info" | "3" => some 3
  | "debug" | "4" => some 4
  | "trace" | "5" => some 5
  | _ => none

def isOriginChar (c : Char) : Bool :=
  Text.isNameChar c || c == ':' || c == '-'

/-- One rule as text: a level for every origin, an origin for every level, or
an origin and a level with an equals sign between. -/
def readRule? (cs : List Char) : Option Rule :=
  match readRank? (String.ofList cs) with
  | some rank => some ⟨"", rank⟩
  | none =>
    let origin := cs.takeWhile isOriginChar
    if origin.isEmpty then none
    else match cs.dropWhile isOriginChar with
      | [] | ['='] => some ⟨String.ofList origin, Level.rank .trace⟩
      | '=' :: level =>
        (readRank? (String.ofList level)).map fun rank => ⟨String.ofList origin, rank⟩
      | _ => none

/-- A filter as text: rules separated by commas. A text without rules keeps
errors only. -/
def read? (text : String) : Option Filter :=
  let parts := (text.toList.splitOn ',').filter fun part => !part.isEmpty
  match parts.mapM readRule? with
  | some [] => some ⟨[⟨"", Level.rank .error⟩]⟩
  | some rules => some ⟨rules⟩
  | none => none

end Filter

end RowGraph.Log
