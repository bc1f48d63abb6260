import RowGraph.Fault
import RowGraph.Log.Entry
import RowGraph.Schema

/-!
A cache in front of a catalog. The first schema that the catalog gives for a
table is kept and answers every later question about that table; a refusal is
passed on and nothing is kept of it.
-/

namespace RowGraph

/-- The schemas seen so far, by the name that was asked for. -/
structure SchemaCache where
  entries : List (String × TableSchema)

namespace SchemaCache

def empty : SchemaCache := ⟨[]⟩

def cached? (cache : SchemaCache) (table : String) : Option TableSchema :=
  (cache.entries.find? fun entry => entry.1 == table).map Prod.snd

def hitEntry (table : String) : Log.Entry where
  level := .debug
  origin := "graphsync_core::schema"
  message := "Schema cache hit"
  fields := [("table", .quoted table)]

/-- The schema of a table, from the cache or else from a catalog. The catalog
is an action on a state of any kind, so that the state tells whether it was
asked. -/
def introspect {σ : Type} (cache : SchemaCache) (table : String)
    (catalog : String → σ → Except Fault TableSchema × σ) (state : σ) :
    Except Fault TableSchema × SchemaCache × σ :=
  match cache.cached? table with
  | some schema => (.ok schema, cache, state)
  | none =>
    match catalog table state with
    | (.ok schema, state) => (.ok schema, ⟨(table, schema) :: cache.entries⟩, state)
    | (.error fault, state) => (.error fault, cache, state)

end SchemaCache

end RowGraph
