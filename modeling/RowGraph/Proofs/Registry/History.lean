import Mathlib.Data.List.Induction
import RowGraph.Engine
import RowGraph.Proofs.Registry.Insertion
import RowGraph.Proofs.Registry.Lookup

/-!
A registry over its whole history. Calls that insert or register tables are
made one after another, and fail or succeed in any mixture. All that a call can
do is told once, by `Call.Does`: it is refused without a word to any catalog,
or fails on the schema that it comes with or is given, or adds one definition
at the end. Everything that holds of a registry after any number of calls
follows from this.

The catalogs that registrations ask share a state of any kind. They may answer
differently each time, and the state tells whether they were asked.
-/

namespace RowGraph

namespace Registry

variable {σ : Type}

inductive Call (σ : Type) where
  | insert (spec : TableSpec) (schema : TableSchema)
  | register (spec : TableSpec) (catalog : String → σ → Except Fault TableSchema × σ)

namespace Call

def spec : Call σ → TableSpec
  | .insert spec _ => spec
  | .register spec _ => spec

/-- The schema that a call comes with or asks for, and the state after it has
asked. -/
def schema : Call σ → σ → Except Fault TableSchema × σ
  | .insert _ schema, state => (.ok schema, state)
  | .register spec catalog, state => catalog spec.table state

def make (registry : Registry) (state : σ) : Call σ → Except Fault Registry × σ
  | .insert spec schema => (registry.insert spec schema, state)
  | .register spec catalog => registry.register spec catalog state

end Call

/-- The registry that is kept after a call, and the definition that the call
returns. -/
def settle (registry : Registry) (table : String) (made : Except Fault Registry) :
    Registry × Except Fault TableDefinition :=
  match made with
  | .error fault => (registry, .error fault)
  | .ok after =>
    match after.get? table with
    | some definition => (after, .ok definition)
    | none => (after, .error (.unknownTable table .empty))

/-- Where calls have led: a registry, the state of the catalogs, and what each
call returned. -/
structure Course (σ : Type) where
  registry : Registry
  state : σ
  answers : List (Except Fault TableDefinition)

namespace Course

def step (course : Course σ) (call : Call σ) : Course σ :=
  let (made, state) := call.make course.registry course.state
  let (registry, answer) := course.registry.settle call.spec.table made
  ⟨registry, state, course.answers ++ [answer]⟩

def after (calls : List (Call σ)) (start : σ) : Course σ :=
  calls.foldl step ⟨.empty, start, []⟩

end Course

/-- Everything that a call can do: what it returns, and the registry and the
state that it leaves. -/
inductive Call.Does (call : Call σ) (before : Registry) (state : σ) :
    Except Fault TableDefinition → Registry → σ → Prop where
  /-- The spec is refused, and no catalog is asked. -/
  | refused {fault : Fault} (refuses : ¬before.Admits call.spec)
      (validated : before.validate call.spec = .error fault) :
      Does call before state (.error fault) before state
  /-- There is no schema, or none that can be registered. -/
  | failed {fault : Fault} (admitted : before.Admits call.spec)
      (met : match (call.schema state).1 with
        | .error problem => fault = problem
        | .ok schema => ¬schema.IsUsable) :
      Does call before state (.error fault) before (call.schema state).2
  /-- A definition is made of the spec and the schema, and stored. -/
  | added {definition : TableDefinition} {schema : TableSchema}
      (admitted : before.Admits call.spec) (given : (call.schema state).1 = .ok schema)
      (usable : schema.IsUsable) (joins : definition.Joins call.spec schema)
      (new : definition.table ∉ before.names) :
      Does call before state (.ok definition) (before.push definition new) (call.schema state).2

/-- A call that succeeds adds the definition that it returns, and any other
call adds nothing. -/
theorem Call.Does.tables_eq {call : Call σ} {before after : Registry} {state asked : σ}
    {answer : Except Fault TableDefinition} (does : call.Does before state answer after asked) :
    after.tables = before.tables ++ answer.toOption.toList := by
  cases does with
  | refused refuses validated => exact (List.append_nil _).symm
  | failed admitted met => exact (List.append_nil _).symm
  | added admitted given usable joins new => rfl

theorem Call.Does.of_ok {call : Call σ} {before after : Registry} {state asked : σ}
    {definition : TableDefinition} (does : call.Does before state (.ok definition) after asked) :
    ∃ schema, (call.schema state).1 = .ok schema ∧ schema.IsUsable ∧
      definition.Joins call.spec schema := by
  cases does with
  | added admitted given usable joins new => exact ⟨_, given, usable, joins⟩

theorem settle_of_insert {registry after : Registry} {spec : TableSpec} {schema : TableSchema}
    (inserted : registry.insert spec schema = .ok after) :
    ∃ (definition : TableDefinition) (new : definition.table ∉ registry.names),
      registry.settle spec.table (.ok after) = (after, .ok definition) ∧
      after = registry.push definition new ∧ definition.Joins spec schema := by
  obtain ⟨definition, new, rfl, hjoins⟩ := push_of_insert inserted
  have hmember : definition ∈ (registry.push definition new).tables :=
    List.mem_append_right _ (List.mem_singleton_self definition)
  have hfound : (registry.push definition new).get? spec.table = some definition :=
    get?_eq_some_iff.mpr ⟨hmember, hjoins.table⟩
  exact ⟨definition, new, by simp [settle, hfound], rfl, hjoins⟩

theorem Call.make_of_refused {call : Call σ} {registry : Registry} {state : σ} {fault : Fault}
    (refused : registry.validate call.spec = .error fault) :
    call.make registry state = (.error fault, state) := by
  cases call with
  | insert spec schema => exact congrArg (·, state) (insert_of_validate_error refused)
  | register spec catalog =>
      have hrefused : registry.validate spec = .error fault := refused
      simp only [make, Registry.register, hrefused]

theorem Call.make_of_admitted {call : Call σ} {registry : Registry} {state : σ}
    (admitted : registry.Admits call.spec) :
    call.make registry state =
      (match (call.schema state).1 with
        | .error problem => .error problem
        | .ok schema => registry.insert call.spec schema, (call.schema state).2) := by
  cases call with
  | insert spec schema => rfl
  | register spec catalog =>
      have hvalid : registry.validate spec = .ok () := validate_ok_iff.mpr admitted
      simp only [make, Registry.register, hvalid, Call.schema, Call.spec]
      cases catalog spec.table state with
      | mk answer asked => cases answer <;> rfl

theorem Course.step_does (course : Course σ) (call : Call σ) :
    ∃ answer, (course.step call).answers = course.answers ++ [answer] ∧
      call.Does course.registry course.state answer (course.step call).registry
        (course.step call).state := by
  unfold step
  cases hvalid : course.registry.validate call.spec with
  | error fault =>
      have hrefuses : ¬course.registry.Admits call.spec := by
        intro admitted
        rw [validate_ok_iff.mpr admitted] at hvalid
        cases hvalid
      rw [Call.make_of_refused hvalid]
      exact ⟨.error fault, rfl, .refused hrefuses hvalid⟩
  | ok _ =>
      have admitted : course.registry.Admits call.spec := validate_ok_iff.mp hvalid
      rw [Call.make_of_admitted admitted]
      cases hgiven : (call.schema course.state).1 with
      | error problem =>
          exact ⟨.error problem, rfl, .failed admitted (by rw [hgiven])⟩
      | ok schema =>
          cases hinsert : course.registry.insert call.spec schema with
          | error fault =>
              have hunusable : ¬schema.IsUsable := by
                intro usable
                obtain ⟨after, hafter⟩ := (exists_insert_iff admitted).mpr usable
                rw [hafter] at hinsert
                cases hinsert
              dsimp only
              rw [hinsert]
              exact ⟨.error fault, rfl, .failed admitted (by rw [hgiven]; exact hunusable)⟩
          | ok after =>
              have husable : schema.IsUsable := (exists_insert_iff admitted).mp ⟨after, hinsert⟩
              obtain ⟨definition, new, hsettle, rfl, hjoins⟩ := settle_of_insert hinsert
              dsimp only
              rw [hinsert, hsettle]
              exact ⟨.ok definition, rfl, .added admitted hgiven husable hjoins new⟩

theorem Call.Does.insert_of_ok {call : Call σ} {before after : Registry} {state asked : σ}
    {definition : TableDefinition} (does : call.Does before state (.ok definition) after asked) :
    ∃ schema, (call.schema state).1 = .ok schema ∧
      before.insert call.spec schema = .ok after := by
  cases does with
  | added admitted given usable joins new =>
      obtain ⟨made, hmade⟩ := (exists_insert_iff admitted).mpr usable
      obtain ⟨other, _, rfl, hother⟩ := push_of_insert hmade
      obtain rfl := hother.unique joins
      exact ⟨_, given, hmade⟩

namespace Course

variable {calls : List (Call σ)} {start : σ}

theorem after_append (calls more : List (Call σ)) (start : σ) :
    after (calls ++ more) start = more.foldl step (after calls start) :=
  List.foldl_append

theorem after_concat (calls : List (Call σ)) (call : Call σ) (start : σ) :
    after (calls ++ [call]) start = (after calls start).step call := by
  rw [after_append, List.foldl_cons, List.foldl_nil]

theorem length_answers (calls : List (Call σ)) (start : σ) :
    (after calls start).answers.length = calls.length := by
  induction calls using List.reverseRecOn with
  | nil => rfl
  | append_singleton calls call ih =>
      obtain ⟨answer, hanswers, -⟩ := (after calls start).step_does call
      rw [after_concat, hanswers, List.length_append, List.length_append, ih]
      rfl

theorem tables_prefix (course : Course σ) (calls : List (Call σ)) :
    course.registry.tables <+: (calls.foldl step course).registry.tables := by
  induction calls generalizing course with
  | nil => exact List.prefix_rfl
  | cons call rest ih =>
      obtain ⟨answer, -, hdoes⟩ := course.step_does call
      have hstep : course.registry.tables <+: (course.step call).registry.tables := by
        rw [hdoes.tables_eq]
        exact List.prefix_append _ _
      exact hstep.trans (ih (course.step call))

/-- The tables are the definitions that calls returned, in the order of the
calls. -/
theorem tables_after (calls : List (Call σ)) (start : σ) :
    (after calls start).registry.tables =
      (after calls start).answers.filterMap Except.toOption := by
  induction calls using List.reverseRecOn with
  | nil => rfl
  | append_singleton calls call ih =>
      obtain ⟨answer, hanswers, hdoes⟩ := (after calls start).step_does call
      rw [after_concat, hdoes.tables_eq, hanswers, List.filterMap_append, ← ih]
      cases answer <;> rfl

/-- Every definition was made by one of the calls, of its spec and of the schema
that it came with or was given at that time. -/
theorem exists_call_of_mem {definition : TableDefinition}
    (member : definition ∈ (after calls start).registry.tables) :
    ∃ first call rest schema, calls = first ++ call :: rest ∧
      (call.schema (after first start).state).1 = .ok schema ∧ schema.IsUsable ∧
      definition.Joins call.spec schema := by
  induction calls using List.reverseRecOn with
  | nil => cases member
  | append_singleton calls call ih =>
      obtain ⟨answer, -, hdoes⟩ := (after calls start).step_does call
      rw [after_concat, hdoes.tables_eq] at member
      rcases List.mem_append.mp member with hbefore | hadded
      · obtain ⟨first, made, rest, schema, rfl, hmade⟩ := ih hbefore
        exact ⟨first, made, rest ++ [call], schema, by simp, hmade⟩
      · cases answer with
        | error fault => cases hadded
        | ok added =>
            obtain rfl : definition = added := List.mem_singleton.mp hadded
            obtain ⟨schema, hmade⟩ := hdoes.of_ok
            exact ⟨calls, call, [], schema, rfl, hmade⟩

end Course

/-- That the index of a registry, and with it all ways to ask for a table, agree
with the list of its definitions, whose names are plain and different. -/
structure IsCoherent (registry : Registry) : Prop where
  plain : ∀ name ∈ registry.names, Text.isName name = true
  distinct : registry.names.Nodup
  names : registry.names = registry.tables.map TableDefinition.table
  indexed : ∀ name place, registry.index.lookup name = some place ↔
    registry.names[place]? = some name
  finds : ∀ name definition, registry.get? name = some definition ↔
    definition ∈ registry.tables ∧ definition.table = name
  misses : ∀ name, registry.get? name = none ↔ name ∉ registry.names
  position : ∀ name,
    registry.get? name = (registry.names.idxOf? name).bind (registry.tables[·]?)
  contains : ∀ name, registry.contains name = true ↔ name ∈ registry.names
  size : registry.size = registry.tables.length
  isEmpty : registry.isEmpty = true ↔ registry.tables = []

theorem isCoherent (registry : Registry) : registry.IsCoherent where
  plain := by
    intro name member
    obtain ⟨definition, -, rfl⟩ := List.mem_map.mp member
    exact definition.table_isName
  distinct := registry.names_nodup
  names := rfl
  indexed := fun _ _ => lookup_index_iff
  finds := fun _ _ => get?_eq_some_iff
  misses := fun _ => get?_eq_none_iff
  position := by
    intro name
    rw [get?, registry.indexed]
    rfl
  contains := fun _ => contains_iff
  size := rfl
  isEmpty := List.isEmpty_iff

/-- A registry after any calls, failed or successful. Its tables are the
definitions that the successful calls returned, in the order of the calls, and
all ways to ask for them agree. Each definition joins the spec of its call with
the schema that the call came with or was given, so that it has a key and its
foreign keys are those of the schema, with different aliases. The next call does
one of the things that a call can do, and nothing that is stored ever
changes. -/
theorem invariant_of_calls (calls : List (Call σ)) (start : σ) :
    let reached := Course.after calls start
    reached.answers.length = calls.length ∧
      reached.registry.tables = reached.answers.filterMap Except.toOption ∧
      reached.registry.IsCoherent ∧
      (∀ definition ∈ reached.registry.tables, ∃ first call rest schema,
        calls = first ++ call :: rest ∧
        (call.schema (Course.after first start).state).1 = .ok schema ∧ schema.IsUsable ∧
        definition.Joins call.spec schema) ∧
      (∀ call, ∃ answer, (reached.step call).answers = reached.answers ++ [answer] ∧
        call.Does reached.registry reached.state answer (reached.step call).registry
          (reached.step call).state) ∧
      ∀ more, reached.registry.tables <+: (Course.after (calls ++ more) start).registry.tables := by
  intro reached
  refine ⟨Course.length_answers calls start, Course.tables_after calls start, isCoherent _,
    fun _ => Course.exists_call_of_mem, reached.step_does, ?_⟩
  intro more
  rw [Course.after_append]
  exact reached.tables_prefix more

end Registry

namespace Engine

/-- The course that an engine's registry is on. The catalog of its
registrations is the schema cache. -/
def course (engine : Engine) : Registry.Course (SchemaCache × Transcript) :=
  ⟨engine.registry, (engine.cache, engine.transcript), []⟩

theorem settle_eq (engine : Engine) (table : String) (made : Except Fault Registry) :
    (engine.settle table made).1.registry = (engine.registry.settle table made).1 ∧
      (engine.settle table made).1.cache = engine.cache ∧
      (engine.settle table made).2 = (engine.registry.settle table made).2 := by
  unfold settle Registry.settle
  cases made with
  | error fault => exact ⟨rfl, rfl, rfl⟩
  | ok after => cases hfound : after.get? table <;> simp [hfound]

theorem register_step (engine : Engine) (catalog : Catalog) (spec : TableSpec) :
    let next := engine.course.step (.register spec (askCache catalog))
    (engine.register catalog spec).1.registry = next.registry ∧
      (engine.register catalog spec).1.cache = next.state.1 ∧
      next.answers = [(engine.register catalog spec).2] := by
  cases hmade : engine.registry.register spec (askCache catalog)
      (engine.cache, engine.transcript) with
  | mk made state =>
      have ⟨hregistry, hcache, hanswer⟩ := Engine.settle_eq
        { engine with cache := state.1, transcript := state.2 } spec.table made
      simp only [register, Registry.Course.step, Registry.Call.make, course, hmade]
      exact ⟨hregistry, hcache, congrArg (fun answer => [answer]) hanswer.symm⟩

end Engine

end RowGraph
