import RowGraph.Preview
import RowGraph.Schema.Cache

/-!
The engine: the registered tables, the schemas that registration has seen, and
a transcript of everything done since it was made. Tables are registered
through the schema cache; loads and previews work on what is registered.

The engine holds no store. What a scan yields, what the catalog says and how
the graph answers are arguments of the operations that need them, so that each
operation is a function of the stores as they are at that moment.
-/

namespace RowGraph

/-- What the catalog says about a table, and what there is to log about it. -/
abbrev Catalog := String → List Log.Entry × Except Fault TableSchema

structure Engine where
  registry : Registry
  cache : SchemaCache
  /-- The options of a load that is given none. -/
  options : LoadOptions
  transcript : Transcript
  /-- Accepted statements that have not been taken yet. -/
  statements : List String

namespace Engine

def new (options : LoadOptions) : Engine :=
  ⟨.empty, .empty, options, .empty, []⟩

/-- A question to the catalog, noted in a transcript. -/
def ask (catalog : Catalog) (table : String) (transcript : Transcript) :
    Except Fault TableSchema × Transcript :=
  let (entries, answer) := catalog table
  (answer, (transcript.introspect table).logAll entries)

def askCache (catalog : Catalog) (table : String) (state : SchemaCache × Transcript) :
    Except Fault TableSchema × SchemaCache × Transcript :=
  let (cache, transcript) := state
  let transcript :=
    if (cache.cached? table).isSome then transcript.log (SchemaCache.hitEntry table)
    else transcript
  cache.introspect table (ask catalog) transcript

def settle (engine : Engine) (table : String) (result : Except Fault Registry) :
    Engine × Except Fault TableDefinition :=
  match result with
  | .error fault => (engine, .error fault)
  | .ok registry =>
    match registry.get? table with
    | some definition =>
      let transcript := engine.transcript.log definition.registeredEntry
      ({ engine with registry, transcript }, .ok definition)
    | none => ({ engine with registry }, .error (.unknownTable table .empty))

def insert (engine : Engine) (spec : TableSpec) (schema : TableSchema) :
    Engine × Except Fault TableDefinition :=
  engine.settle spec.table (engine.registry.insert spec schema)

/-- Registers a table with the schema that the catalog gives, or gave when it
was first asked. -/
def register (engine : Engine) (catalog : Catalog) (spec : TableSpec) :
    Engine × Except Fault TableDefinition :=
  let (result, cache, transcript) :=
    engine.registry.register spec (askCache catalog) (engine.cache, engine.transcript)
  { engine with cache, transcript }.settle spec.table result

def introspect (engine : Engine) (catalog : Catalog) (table : String) :
    Engine × Except Fault TableSchema :=
  let (answer, transcript) := ask catalog table engine.transcript
  ({ engine with transcript }, answer)

def introspectCached (engine : Engine) (catalog : Catalog) (table : String) :
    Engine × Except Fault TableSchema :=
  let (answer, cache, transcript) :=
    askCache catalog table (engine.cache, engine.transcript)
  ({ engine with cache, transcript }, answer)

def rows (engine : Engine) (source : RowSource) (table : String) (limit : Option Nat) :
    Engine × Except StoreFault (List Row) :=
  match source table with
  | .error problem => (engine, .error problem)
  | .ok scan =>
    ({ engine with transcript := engine.transcript.scan table },
      Preview.firstRows scan limit)

/-- A full load of a source that answers both phases alike. -/
def load (engine : Engine) (source : RowSource) (sink : Sink) (options : LoadOptions) :
    Engine × Except Fault Report :=
  let before := engine.transcript.submitted.size
  let (transcript, result) :=
    Load.run engine.registry (fun _ => source) sink options engine.transcript
  let statements := engine.statements ++ transcript.acceptedFrom before
  ({ engine with transcript, statements }, result)

def preview (engine : Engine) (source : RowSource) (table : String) (limit : Option Nat) :
    Engine × Except Fault (List String) :=
  let (transcript, result) :=
    Preview.run engine.registry source table limit engine.transcript
  ({ engine with transcript }, result)

def relationships (engine : Engine) (table : String) (row : Row) :
    Engine × Except Fault Batch :=
  match engine.registry.batch table row with
  | .error fault => (engine, .error fault)
  | .ok batch =>
    ({ engine with transcript := engine.transcript.logAll batch.entries }, .ok batch)

/-- Hands out the accepted statements and forgets them. -/
def take (engine : Engine) : Engine × List String :=
  ({ engine with statements := [] }, engine.statements)

/-- The name under which faults of free queries are reported. -/
def queryTable : String := "<query>"

def reported {α : Type} (table : String) (answer : Except StoreFault α) : Except Fault α :=
  answer.mapError (.source table)

end Engine

end RowGraph
