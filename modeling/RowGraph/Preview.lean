import RowGraph.Load

/-!
The statements that a load would submit for one table, without submitting any:
first those of the nodes, then those of the relationships. Unlike a load, a
preview reads the table once, may stop after a number of rows, and gives up at
the first row that fails.
-/

namespace RowGraph.Preview

/-- The first rows of a scan. A scan that breaks only after them does not
matter. -/
def firstRows (scan : Scan) : Option Nat → Except StoreFault (List Row)
  | none =>
    match scan.broken with
    | some problem => .error problem
    | none => .ok scan.rows
  | some limit =>
    if limit ≤ scan.rows.length then .ok (scan.rows.take limit)
    else match scan.broken with
      | some problem => .error problem
      | none => .ok scan.rows

def nodes (registry : Registry) (table : String) : List Row → Except Fault (List String)
  | [] => .ok []
  | row :: rest =>
    match registry.node table row with
    | .error fault => .error fault
    | .ok statement =>
      match nodes registry table rest with
      | .error fault => .error fault
      | .ok statements => .ok (statement.text :: statements)

def relationships (registry : Registry) (table : String) :
    List Row → List Log.Entry × Except Fault (List String)
  | [] => ([], .ok [])
  | row :: rest =>
    match registry.batch table row with
    | .error fault => ([], .error fault)
    | .ok batch =>
      match batch.result with
      | .error fault => (batch.entries, .error fault)
      | .ok statements =>
        let (entries, more) := relationships registry table rest
        (batch.entries ++ entries,
          more.map fun texts => statements.map Cypher.EdgeStatement.text ++ texts)

def generatedEntry (table : String) (rows statements : Nat) : Log.Entry :=
  ⟨.info, "graphsync_core::engine", "Preview generated",
    [("table", .quoted table), ("rows", .count rows), ("statements", .count statements)]⟩

def ofRows (registry : Registry) (table : String) (rows : List Row)
    (transcript : Transcript) : Transcript × Except Fault (List String) :=
  match nodes registry table rows with
  | .error fault => (transcript, .error fault)
  | .ok nodeTexts =>
    match relationships registry table rows with
    | (entries, .error fault) => (transcript.logAll entries, .error fault)
    | (entries, .ok edgeTexts) =>
      let statements := nodeTexts ++ edgeTexts
      let entry := generatedEntry table rows.length statements.length
      ((transcript.logAll entries).log entry, .ok statements)

def run (registry : Registry) (source : RowSource) (table : String) (limit : Option Nat)
    (transcript : Transcript) : Transcript × Except Fault (List String) :=
  if registry.contains table then
    match source table with
    | .error problem => (transcript, .error (.source table problem))
    | .ok scan =>
      let transcript := transcript.scan table
      match firstRows scan limit with
      | .error problem => (transcript, .error (.source table problem))
      | .ok rows => ofRows registry table rows transcript
  else (transcript, .error (.unknownTable table .empty))

end RowGraph.Preview
