import RowGraph.CommandLine.Help
import RowGraph.Log.Filter
import RowGraph.Session

/-!
A whole run of the program: the command line is read, the log file is opened,
the command is carried out, and what it comes to is told on the two outputs
and by a number. What is logged goes to the second output, before any failure,
and to the log file if there is one.
-/

namespace RowGraph.Program

open CommandLine

/-- The end of a run: its number, the text of the first output and the lines of
the second. -/
structure Finish where
  exit : Nat
  output : String
  notes : List String

def standardFilter (verbose : Bool) : Log.Filter :=
  let rank := Log.Level.rank (if verbose then .debug else .info)
  ⟨[⟨"graphsync", rank⟩, ⟨"graphsync_core", rank⟩]⟩

def filterFor (text : Option String) (verbose : Bool) : Log.Filter :=
  (text.bind Log.Filter.read?).getD (standardFilter verbose)

def filterVariable : String := "GRAPHSYNC_LOG"

def complaint : Stop → String
  | .nothing | .missingSubcommand => "a command is needed"
  | .unknownSubcommand => "this command is not known"
  | .unknownArgument => "an argument is not known here"
  | .missingArgument => "the command needs an argument"
  | .missingValue => "an option needs a value"
  | .badValue => "the value of an option is no number that it can have"
  | .unexpectedValue => "an option takes no value"
  | .repeated => "an option can be given only once"
  | .help _ | .version _ => ""

/-- The end of a run whose command line says nothing to do. -/
def stopped (configured : Option String) (stop : Stop) : Finish :=
  match asked? configured stop with
  | some lines => ⟨0, Display.printed lines, []⟩
  | none => ⟨2, "", ["error: " ++ complaint stop, "", "For more information, try '--help'."]⟩

def finished (outcome : Outcome) (logged : List String) : Finish :=
  let output := Display.printed outcome.lines
  match outcome.failure with
  | none => ⟨0, output, logged⟩
  | some failure => ⟨1, output, logged ++ failure.lines⟩

/-- Opens the log file, if there is to be one; or says why it cannot be. -/
def openLog {m : Type → Type} [Monad m] (host : Host m) : Option String → m (Option Failure)
  | none => return none
  | some path => do
    match ← host.openLog path with
    | some fault => return some (.closedLog path fault)
    | none => return none

/-- Runs the program on the words of its command line. `filter` is the text of
a filter of log entries. -/
def run {m : Type → Type} [Monad m] (host : Host m) (ink : Display.Ink)
    (env : String → Option String) (filter : Option String) (words : List String) :
    m Finish := do
  let configured := env configVariable
  match read configured words with
  | .error stop => return stopped configured stop
  | .ok invocation =>
    match ← openLog host invocation.log with
    | some failure => return finished (.failed failure) []
    | none =>
      let outcome ← Session.run host ink env invocation
      let logged := (filterFor filter invocation.verbose).lines outcome.entries
      if let some path := invocation.log then
        host.appendLog path logged
      return finished outcome logged

end RowGraph.Program
