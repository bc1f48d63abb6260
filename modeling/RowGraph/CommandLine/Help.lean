import RowGraph.CommandLine.Reader
import RowGraph.Text.Column

/-!
The help and the version that the command line can ask for. Names stand in one
column and what they are for in another, which is broken into lines where it
would pass the right margin.
-/

namespace RowGraph.CommandLine

def margin : Nat := 100

/-- Words in lines of at most `width` characters; `line` is what the current
line has so far. -/
def wrapWords (width : Nat) (line : String) : List String → List String
  | [] => [line]
  | word :: rest =>
    if line.isEmpty then wrapWords width word rest
    else if line.length + 1 + word.length ≤ width then
      wrapWords width (line ++ " " ++ word) rest
    else line :: wrapWords width word rest

def wordsOf (text : String) : List String :=
  (text.toList.splitOn ' ').map String.ofList

/-- The lines of an entry: its name, and what it is for in the column that
begins after `width`. -/
def entryLines (width : Nat) (entry : String × String) : List String :=
  let indent := width + 4
  match wrapWords (margin - indent) "" (wordsOf entry.2) with
  | [] => ["  " ++ entry.1]
  | first :: rest =>
    ("  " ++ Text.padRight width entry.1 ++ "  " ++ first) ::
      rest.map fun line => Text.line ' ' indent ++ line

def entryList (title : String) (entries : List (String × String)) : List String :=
  let width := (entries.map fun entry => entry.1.length).foldl max 0
  (title ++ ":") :: entries.flatMap (entryLines width)

def switchName (switch : Switch) : String :=
  let short := match switch.short? with
    | some c => String.ofList ['-', c, ',', ' ']
    | none => "    "
  let value := match switch.valueName? with
    | some name => " <" ++ name ++ ">"
    | none => ""
  short ++ "--" ++ switch.long ++ value

/-- What an option is for, with what stands for it where it is missing. -/
def switchPurpose (configured : Option String) (switch : Switch) : String :=
  match switch with
  | .config =>
    switch.purpose ++ " [env: " ++ configVariable ++ "=" ++ configured.getD "" ++ "] [default: " ++
      standardConfig ++ "]"
  | switch => switch.purpose

def switchList (configured : Option String) (level : Level) : List String :=
  entryList "Options" ((switches level).map fun switch =>
    (switchName switch, switchPurpose configured switch))

def helpLines (configured : Option String) : Level → List String
  | none =>
    let commands := Subcommand.all.map fun command => (command.name, command.purpose)
    let help := ("help", "Print this message or the help of the given subcommand(s)")
    [programPurpose, "", "Usage: " ++ program ++ " [OPTIONS] <COMMAND>", ""] ++
      entryList "Commands" (commands ++ [help]) ++ "" :: switchList configured none
  | some command =>
    let usage := "Usage: " ++ program ++ " " ++ command.name ++ " [OPTIONS]"
    let argument := match command.argument? with
      | some (name, _) => " <" ++ name ++ ">"
      | none => ""
    let arguments := match command.argument? with
      | some (name, purpose) => entryList "Arguments" [("<" ++ name ++ ">", purpose)] ++ [""]
      | none => []
    [command.purpose, "", usage ++ argument, ""] ++ arguments ++
      switchList configured (some command)

def versionLine : Level → String
  | none => program ++ " " ++ versionNumber
  | some command => program ++ "-" ++ command.name ++ " " ++ versionNumber

/-- What is printed for a command line that asks for help or the version. -/
def asked? (configured : Option String) : Stop → Option (List String)
  | .help level => some (helpLines configured level)
  | .version level => some [versionLine level]
  | _ => none

end RowGraph.CommandLine
