import RowGraph.CommandLine.Grammar
import RowGraph.Text.Digits

/-!
Reading the command line. Words are taken one after another, at the level of
the program and, from the name of a subcommand on, at the level of that
subcommand. What an option or an argument has been given is judged when the
next one begins or the level ends, so that of several mistakes the one that is
met first in this order is told. The level of a subcommand ends before that of
the program.
-/

namespace RowGraph.CommandLine

inductive Command where
  | sync (dryRun : Bool) (concurrency : Option Nat) (collectErrors : Bool)
  | preview (table : String) (limit : Option Nat)
  | query (sql : String) (json : Bool)
  | inspect (table : String)
  | status
deriving DecidableEq

structure Invocation where
  verbose : Bool
  config : String
  log : Option String
  command : Command
deriving DecidableEq

inductive Stop where
  /-- It asks for help on a level, or for the version of one. -/
  | help (level : Level)
  | version (level : Level)
  /-- It is empty. -/
  | nothing
  | missingSubcommand
  | unknownSubcommand
  | unknownArgument
  | missingArgument
  /-- An option lacks its value. -/
  | missingValue
  | badValue
  /-- An option that takes none has a value. -/
  | unexpectedValue
  | repeated
deriving DecidableEq

/-- A part of the command line that has not been judged yet. -/
inductive Pending where
  | switch (switch : Switch) (value : Option String)
  | argument (text : String)

/-- What a level has been given so far. -/
structure Given where
  level : Level
  flags : List Switch
  values : List (Switch × String)
  argument : Option String
  pending : Option Pending
  /-- Whether the argument has been met, judged or not. -/
  hasArgument : Bool
  /-- Whether the last word was an option that waits for its value. -/
  waiting : Bool
  /-- Whether only arguments may follow. -/
  literal : Bool

namespace Given

def start (level : Level) : Given where
  level := level
  flags := []
  values := []
  argument := none
  pending := none
  hasArgument := false
  waiting := false
  literal := false

def value? (given : Given) (switch : Switch) : Option String :=
  given.values.lookup switch

def readCount? (text : String) : Option Nat :=
  let digits := match text.toList with
    | '+' :: rest => rest
    | cs => cs
  if Text.isDigits digits && Text.ofDigits digits < 0x10000000000000000 then
    some (Text.ofDigits digits)
  else none

/-- Why an option may not have a value, if it may not. -/
def objection? (switch : Switch) (value : String) : Option Stop :=
  match switch with
  | .config | .log => if value.isEmpty then some .missingValue else none
  | .concurrency | .limit => if (readCount? value).isNone then some .badValue else none
  | _ => none

def setValue (given : Given) (switch : Switch) (value : String) : Except Stop Given :=
  if (given.value? switch).isSome then .error .repeated
  else match objection? switch value with
    | some stop => .error stop
    | none => .ok { given with values := given.values ++ [(switch, value)] }

def judge (given : Given) : Except Stop Given :=
  let settled := { given with pending := none }
  match given.pending with
  | none => .ok settled
  | some (.argument text) => .ok { settled with argument := some text }
  | some (.switch _ none) => .error .missingValue
  | some (.switch switch (some value)) => settled.setValue switch value

def takeFlag (given : Given) (switch : Switch) : Except Stop Given := do
  let given ← given.judge
  match switch with
  | .help => .error (.help given.level)
  | .version => .error (.version given.level)
  | switch =>
    if given.flags.contains switch then .error .repeated
    else .ok { given with flags := switch :: given.flags, waiting := false }

/-- Takes an option that takes a value, with what is attached to it. -/
def takeOption (given : Given) (switch : Switch) (attached : Option String) :
    Except Stop Given := do
  let given ← given.judge
  match attached with
  | some value => ({ given with waiting := false } : Given).setValue switch value
  | none => .ok { given with pending := some (.switch switch none), waiting := true }

/-- A word after two hyphens: a name, and a value after an equals sign. -/
def splitLong (cs : List Char) : String × Option String :=
  let name := String.ofList (cs.takeWhile (· != '='))
  match cs.dropWhile (· != '=') with
  | [] => (name, none)
  | _ :: value => (name, some (String.ofList value))

def takeLong (given : Given) (cs : List Char) : Except Stop Given :=
  let (name, attached) := splitLong cs
  match (switches given.level).find? fun switch => switch.long == name with
  | none => .error .unknownArgument
  | some switch =>
    if switch.takesValue then given.takeOption switch attached
    else if attached.isSome then .error .unexpectedValue
    else given.takeFlag switch

/-- What follows a one-letter option in its word, as its value. -/
def attachedValue? : List Char → Option String
  | [] => none
  | '=' :: rest => some (String.ofList rest)
  | rest => some (String.ofList rest)

/-- Takes the letters of a word that begins with one hyphen. -/
def takeShort (given : Given) : List Char → Except Stop Given
  | [] => .ok given
  | c :: rest =>
    match (switches given.level).find? fun switch => switch.short? == some c with
    | none => .error .unknownArgument
    | some switch =>
      if switch.takesValue then given.takeOption switch (attachedValue? rest)
      else do
        let given ← given.takeFlag switch
        given.takeShort rest

def isSubcommand (text : String) : Bool :=
  (Subcommand.ofName? text).isSome || text == "help"

def takeArgument (given : Given) (text : String) : Except Stop Given :=
  if (given.level.bind Subcommand.argument?).isSome && !given.hasArgument then do
    let given ← given.judge
    return { given with pending := some (.argument text), hasArgument := true }
  else if given.level.isSome || (given.literal && isSubcommand text) then
    .error .unknownArgument
  else .error .unknownSubcommand

/-- Takes a word that names no subcommand. -/
def take (given : Given) (text : String) : Except Stop Given :=
  if given.literal then given.takeArgument text
  else match text.toList with
    | ['-', '-'] => .ok { given with literal := true }
    | '-' :: '-' :: rest => given.takeLong rest
    | '-' :: c :: rest => given.takeShort (c :: rest)
    | _ =>
      match given.waiting, given.pending with
      | true, some (.switch switch _) =>
        .ok { given with pending := some (.switch switch (some text)), waiting := false }
      | _, _ => given.takeArgument text

/-- Ends a level: what is pending is judged, and the mapping file that the
environment names is too if the level names none. -/
def finish (given : Given) (configured : Option String) : Except Stop Given := do
  let given ← given.judge
  match given.value? .config, configured with
  | none, some "" => .error .missingValue
  | _, _ => .ok given

end Given

def readAll : List String → Given → Except Stop Given
  | [], given => .ok given
  | word :: rest, given => do
    let given ← given.take word
    readAll rest given

def helpLevel : List String → Except Stop Level
  | [] => .ok none
  | [word] =>
    match Subcommand.ofName? word with
    | some command => .ok (some command)
    | none => if word == "help" then .ok none else .error .unknownSubcommand
  | _ => .error .unknownSubcommand

/-- Takes words at the level of the program up to the name of a subcommand,
which is found together with the words after it. -/
def readProgram : List String → Given → Except Stop (Given × Option (Subcommand × List String))
  | [], given => .ok (given, none)
  | word :: rest, given =>
    if !given.literal && !given.waiting && word == "help" then do
      let level ← helpLevel rest
      .error (.help level)
    else match if given.literal || given.waiting then none else Subcommand.ofName? word with
      | some command => .ok (given, some (command, rest))
      | none => do
        let given ← given.take word
        readProgram rest given

def commandOf (command : Subcommand) (given : Given) : Except Stop Command :=
  let has (switch : Switch) : Bool := given.flags.contains switch
  let count (switch : Switch) : Option Nat := (given.value? switch).bind Given.readCount?
  match command, given.argument with
  | .sync, _ => .ok (.sync (has .dryRun) (count .concurrency) (has .collectErrors))
  | .status, _ => .ok .status
  | .preview, some table => .ok (.preview table (count .limit))
  | .query, some sql => .ok (.query sql (has .json))
  | .inspect, some table => .ok (.inspect table)
  | _, none => .error .missingArgument

/-- Reads a command line. `configured` is the mapping file that the environment
names; an option counts more than the environment, and of two levels the
later one. -/
def read (configured : Option String) (words : List String) : Except Stop Invocation := do
  let (outer, found) ← readProgram words (.start none)
  match found with
  | none =>
    let outer ← outer.finish configured
    if outer.flags.isEmpty && outer.values.isEmpty && configured.isNone then .error .nothing
    else .error .missingSubcommand
  | some (subcommand, rest) =>
    let inner ← readAll rest (.start (some subcommand))
    let inner ← inner.finish configured
    let command ← commandOf subcommand inner
    let outer ← outer.finish configured
    let config := ((inner.value? .config).or (outer.value? .config)).or configured
    return {
      verbose := inner.flags.contains .verbose || outer.flags.contains .verbose
      config := config.getD standardConfig
      log := (inner.value? .log).or (outer.value? .log)
      command }

end RowGraph.CommandLine
