import RowGraph.Text.Quoted

/-!
Log entries as data, and the line that each is written as: the level, the part
of the program that speaks, the message, and the fields in order. Who keeps
which entries is decided elsewhere; a function that has something to log
returns its entries.
-/

namespace RowGraph.Log

/-- How much an entry matters, most severe first. -/
inductive Level where
  | error
  | warn
  | info
  | debug
  | trace
deriving DecidableEq

def Level.rank : Level → Nat
  | .error => 1
  | .warn => 2
  | .info => 3
  | .debug => 4
  | .trace => 5

def Level.label : Level → String
  | .error => "ERROR"
  | .warn => " WARN"
  | .info => " INFO"
  | .debug => "DEBUG"
  | .trace => "TRACE"

/-- The value of a field: text as it is, text in quotes, or a list of texts in
quotes. -/
inductive FieldValue where
  | plain (text : String)
  | quoted (text : String)
  | list (texts : List String)
deriving DecidableEq

def FieldValue.text : FieldValue → String
  | .plain text => text
  | .quoted text => Text.quoted text
  | .list texts => Text.quotedList texts

def FieldValue.count (n : Nat) : FieldValue :=
  .plain (toString n)

structure Entry where
  level : Level
  origin : String
  message : String
  fields : List (String × FieldValue)
deriving DecidableEq

def Entry.line (entry : Entry) : String :=
  entry.level.label ++ " " ++ entry.origin ++ ": " ++ entry.message ++
    String.join (entry.fields.map fun (name, value) => " " ++ name ++ "=" ++ value.text)

end RowGraph.Log
