import Mathlib.Data.List.Induction
import RowGraph.Schema.Cache

/-!
A schema cache over its whole history. It is asked about tables in any order,
and between two questions the catalog behind it may come to answer otherwise.
Each question makes an exchange, which also tells what the catalog would have
said at that moment and which tables it was asked about meanwhile.

What an exchange has to be is told by `Follows`, from the first schema that an
introspection of the same table gave before. The cache holds exactly these
first schemas, one for each table, so the exchanges about one table are those of
a cache that is never asked about another.
-/

namespace RowGraph.SchemaCache

inductive Question where
  /-- Its schema, whoever knows it. -/
  | introspect
  /-- The schema that is kept of it. -/
  | cached

inductive Answer where
  | found (result : Except Fault TableSchema)
  | kept (schema : Option TableSchema)

/-- What happens to a cache and to the catalog behind it. -/
inductive Event (σ : Type) where
  | asked (question : Question) (table : String)
  /-- The catalog gets into another state, and may answer otherwise there. -/
  | altered (change : σ → σ)

def Event.question? {σ : Type} : Event σ → Option (Question × String)
  | .asked question table => some (question, table)
  | .altered _ => none

structure Exchange where
  question : Question
  table : String
  /-- What the catalog would say about the table when the question is asked. -/
  current : Except Fault TableSchema
  answer : Answer
  /-- The tables that the catalog is asked about for the answer. -/
  consulted : List String

/-- The schema that an exchange gives of a table, if it is an introspection of
the table that succeeds. -/
def Exchange.given? (exchange : Exchange) (table : String) : Option TableSchema :=
  match exchange.answer with
  | .found (.ok schema) => if exchange.table = table then some schema else none
  | _ => none

/-- The schema that the first successful introspection of a table gave. -/
def firstGiven? (exchanges : List Exchange) (table : String) : Option TableSchema :=
  exchanges.findSome? fun exchange => exchange.given? table

/-- That an exchange is as it has to be, given the first schema that was given
of its table before. With such a schema, it is the answer. Without, the catalog
is asked once and its word is passed on, and nothing is kept. -/
def Exchange.Follows (exchange : Exchange) (given? : Option TableSchema) : Prop :=
  (exchange.answer, exchange.consulted) =
    match given?, exchange.question with
    | some schema, .introspect => (.found (.ok schema), [])
    | some schema, .cached => (.kept (some schema), [])
    | none, .introspect => (.found exchange.current, [exchange.table])
    | none, .cached => (.kept none, [])

/-- That each exchange follows from those before it. -/
def IsHistory (exchanges : List Exchange) : Prop :=
  ∀ before exchange later, exchanges = before ++ exchange :: later →
    exchange.Follows (firstGiven? before exchange.table)

def about (table : String) (exchanges : List Exchange) : List Exchange :=
  exchanges.filter fun exchange => exchange.table == table

section

variable {exchanges others : List Exchange} {exchange other : Exchange} {table : String}
  {schema : TableSchema} {schema? : Option TableSchema}

theorem firstGiven?_append :
    firstGiven? (exchanges ++ others) table =
      (firstGiven? exchanges table).or (firstGiven? others table) :=
  List.findSome?_append

theorem firstGiven?_concat :
    firstGiven? (exchanges ++ [exchange]) table =
      (firstGiven? exchanges table).or (exchange.given? table) := by
  rw [firstGiven?_append]
  simp [firstGiven?]

theorem Exchange.given?_of_ne (different : exchange.table ≠ table) :
    exchange.given? table = none := by
  unfold given?
  split
  · exact if_neg different
  · rfl

/-- The exchanges about a table are all that matter to what was given of it. -/
theorem firstGiven?_about : firstGiven? (about table exchanges) table =
    firstGiven? exchanges table := by
  induction exchanges using List.reverseRecOn with
  | nil => rfl
  | append_singleton exchanges exchange ih =>
      rw [about, List.filter_append, ← about, firstGiven?_append, firstGiven?_concat, ih]
      by_cases hsame : exchange.table = table
      · simp [firstGiven?, hsame]
      · simp [firstGiven?, hsame, Exchange.given?_of_ne hsame]

theorem Exchange.Follows.unique (hfollows : exchange.Follows schema?)
    (hother : other.Follows schema?) (question : exchange.question = other.question)
    (table : exchange.table = other.table) (current : exchange.current = other.current) :
    exchange = other := by
  have hanswers : (exchange.answer, exchange.consulted) = (other.answer, other.consulted) := by
    unfold Exchange.Follows at hfollows
    rw [question, table, current] at hfollows
    exact hfollows.trans hother.symm
  obtain ⟨hanswer, hconsulted⟩ := Prod.mk.inj hanswers
  cases exchange
  cases other
  subst question table current hanswer hconsulted
  rfl

theorem isHistory_nil : IsHistory [] := by
  intro before exchange later h
  simp at h

theorem isHistory_concat :
    IsHistory (exchanges ++ [exchange]) ↔
      IsHistory exchanges ∧ exchange.Follows (firstGiven? exchanges exchange.table) := by
  constructor
  · intro history
    refine ⟨?_, history exchanges exchange [] rfl⟩
    intro before earlier later h
    apply history before earlier (later ++ [exchange])
    rw [h, List.append_assoc, List.cons_append]
  · rintro ⟨history, hlast⟩ before earlier later h
    cases later using List.reverseRecOn with
    | nil =>
        obtain ⟨rfl, hexchange⟩ := List.append_inj' h rfl
        obtain rfl := (List.cons.inj hexchange).1
        exact hlast
    | append_singleton later last =>
        rw [← List.cons_append, ← List.append_assoc] at h
        exact history before earlier later (List.append_inj' h rfl).1

/-- The exchanges about one table are a history by themselves. -/
theorem IsHistory.about (history : IsHistory exchanges) : IsHistory (about table exchanges) := by
  induction exchanges using List.reverseRecOn with
  | nil => exact isHistory_nil
  | append_singleton exchanges exchange ih =>
      obtain ⟨hbefore, hlast⟩ := isHistory_concat.mp history
      by_cases hsame : exchange.table = table
      · subst hsame
        rw [SchemaCache.about, List.filter_append, ← SchemaCache.about,
          List.filter_cons_of_pos (by simp), List.filter_nil, isHistory_concat, firstGiven?_about]
        exact ⟨ih hbefore, hlast⟩
      · rw [SchemaCache.about, List.filter_append, ← SchemaCache.about,
          List.filter_cons_of_neg (by simpa using hsame), List.filter_nil, List.append_nil]
        exact ih hbefore

/-- What is asked of which table, and what the catalog would say then, leaves
no choice in the rest of a history. -/
theorem IsHistory.unique (history : IsHistory exchanges) (hothers : IsHistory others)
    (same : exchanges.map (fun exchange => (exchange.question, exchange.table, exchange.current)) =
      others.map fun exchange => (exchange.question, exchange.table, exchange.current)) :
    exchanges = others := by
  induction exchanges using List.reverseRecOn generalizing others with
  | nil => exact (List.map_eq_nil_iff.mp same.symm).symm
  | append_singleton exchanges exchange ih =>
      cases others using List.reverseRecOn with
      | nil => simp at same
      | append_singleton others other =>
          rw [List.map_append, List.map_append] at same
          obtain ⟨hbefore, hlast⟩ := List.append_inj' same rfl
          obtain ⟨history, hfollows⟩ := isHistory_concat.mp history
          obtain ⟨hothers, hother⟩ := isHistory_concat.mp hothers
          obtain rfl := ih history hothers hbefore
          obtain ⟨hquestion, htable, hcurrent⟩ : exchange.question = other.question ∧
              exchange.table = other.table ∧ exchange.current = other.current := by
            simpa using hlast
          rw [← htable] at hother
          rw [hfollows.unique hother hquestion htable hcurrent]

end

section

variable {σ : Type}

/-- A catalog that notes which tables it is asked about. -/
def noting (catalog : String → σ → Except Fault TableSchema × σ) (table : String)
    (state : σ × List String) : Except Fault TableSchema × σ × List String :=
  let (answer, after) := catalog table state.1
  (answer, after, state.2 ++ [table])

/-- Where events have led: the cache, the state of the catalog, and the
exchanges. -/
structure Course (σ : Type) where
  cache : SchemaCache
  state : σ
  exchanges : List Exchange

namespace Course

def step (catalog : String → σ → Except Fault TableSchema × σ) (course : Course σ) :
    Event σ → Course σ
  | .asked .introspect table =>
    let current := (catalog table course.state).1
    let (result, cache, state, consulted) :=
      course.cache.introspect table (noting catalog) (course.state, [])
    ⟨cache, state, course.exchanges ++ [⟨.introspect, table, current, .found result, consulted⟩]⟩
  | .asked .cached table =>
    let current := (catalog table course.state).1
    let kept := course.cache.cached? table
    { course with
      exchanges := course.exchanges ++ [⟨.cached, table, current, .kept kept, []⟩] }
  | .altered change => { course with state := change course.state }

def after (catalog : String → σ → Except Fault TableSchema × σ) (events : List (Event σ))
    (start : σ) : Course σ :=
  events.foldl (step catalog) ⟨.empty, start, []⟩

end Course

variable {catalog : String → σ → Except Fault TableSchema × σ} {cache : SchemaCache}
  {table other : String} {schema : TableSchema}

theorem cached?_cons : cached? ⟨(table, schema) :: cache.entries⟩ other =
    if table = other then some schema else cache.cached? other := by
  by_cases hsame : table = other
  · simp [cached?, hsame]
  · simp [cached?, hsame]

theorem introspect_of_some {τ : Type} (ask : String → τ → Except Fault TableSchema × τ) (state : τ)
    (h : cache.cached? table = some schema) :
    cache.introspect table ask state = (.ok schema, cache, state) := by
  simp only [introspect, h]

/-- All that a question does to a course: it adds an exchange, which follows
from what is kept of the table, and what the exchange gives is kept of a table
of which nothing was. -/
theorem Course.step_asked (catalog : String → σ → Except Fault TableSchema × σ)
    (course : Course σ) (question : Question) (table : String) :
    let next := course.step catalog (.asked question table)
    ∃ exchange : Exchange, next.exchanges = course.exchanges ++ [exchange] ∧
      exchange.question = question ∧ exchange.table = table ∧
      exchange.current = (catalog table course.state).1 ∧
      exchange.Follows (course.cache.cached? table) ∧
      ∀ other, next.cache.cached? other =
        (course.cache.cached? other).or (exchange.given? other) := by
  cases question with
  | cached =>
      refine ⟨_, rfl, rfl, rfl, rfl, ?_, fun other => (Option.or_none ..).symm⟩
      cases hkept : course.cache.cached? table with
      | none => rfl
      | some schema => rfl
  | introspect =>
      cases hkept : course.cache.cached? table with
      | some schema =>
          have hfound := introspect_of_some (noting catalog) (course.state, []) hkept
          simp only [step, hfound]
          refine ⟨_, rfl, rfl, rfl, rfl, rfl, fun other => ?_⟩
          by_cases hsame : table = other
          · simp [Exchange.given?, ← hsame, hkept]
          · simp [Exchange.given?, hsame]
      | none =>
          cases hcurrent : catalog table course.state with
          | mk result state =>
              cases result with
              | error fault =>
                  simp only [step, introspect, noting, hkept, hcurrent]
                  exact ⟨_, rfl, rfl, rfl, rfl, rfl, fun other => (Option.or_none ..).symm⟩
              | ok schema =>
                  simp only [step, introspect, noting, hkept, hcurrent]
                  refine ⟨_, rfl, rfl, rfl, rfl, rfl, fun other => ?_⟩
                  by_cases hsame : table = other
                  · simp [cached?_cons, Exchange.given?, ← hsame, hkept]
                  · simp [cached?_cons, Exchange.given?, hsame]

end

section

variable {σ : Type} {catalog : String → σ → Except Fault TableSchema × σ}

/-- That the exchanges of a course are a history, and that the cache holds what
they first gave of each table. -/
structure Course.IsConsistent (course : Course σ) : Prop where
  history : IsHistory course.exchanges
  kept : ∀ table, course.cache.cached? table = firstGiven? course.exchanges table

theorem Course.IsConsistent.step {course : Course σ} (consistent : course.IsConsistent)
    (event : Event σ) : (course.step catalog event).IsConsistent := by
  cases event with
  | altered change => exact ⟨consistent.history, consistent.kept⟩
  | asked question table =>
      obtain ⟨exchange, hexchanges, -, htable, -, hfollows, hkept⟩ :=
        course.step_asked catalog question table
      constructor
      · rw [hexchanges, isHistory_concat, htable, ← consistent.kept]
        exact ⟨consistent.history, hfollows⟩
      · intro other
        rw [hkept, hexchanges, firstGiven?_concat, consistent.kept]

namespace Course

theorem after_append (events more : List (Event σ)) (start : σ) :
    after catalog (events ++ more) start = more.foldl (step catalog) (after catalog events start) :=
  List.foldl_append

theorem after_concat (events : List (Event σ)) (event : Event σ) (start : σ) :
    after catalog (events ++ [event]) start = (after catalog events start).step catalog event := by
  rw [after_append, List.foldl_cons, List.foldl_nil]

theorem isConsistent_after (events : List (Event σ)) (start : σ) :
    (after catalog events start).IsConsistent := by
  induction events using List.reverseRecOn with
  | nil => exact ⟨isHistory_nil, fun table => rfl⟩
  | append_singleton events event ih =>
      rw [after_concat]
      exact ih.step event

/-- Every question has its exchange, in the order of the questions. -/
theorem questions_after (events : List (Event σ)) (start : σ) :
    (after catalog events start).exchanges.map (fun exchange =>
      (exchange.question, exchange.table)) = events.filterMap Event.question? := by
  induction events using List.reverseRecOn with
  | nil => rfl
  | append_singleton events event ih =>
      rw [after_concat, List.filterMap_append, ← ih]
      cases event with
      | altered change => exact (List.append_nil _).symm
      | asked question table =>
          obtain ⟨exchange, hexchanges, rfl, rfl, -⟩ :=
            (after catalog events start).step_asked catalog question table
          rw [hexchanges, List.map_append]
          rfl

theorem exchanges_prefix (course : Course σ) (events : List (Event σ)) :
    course.exchanges <+: (events.foldl (step catalog) course).exchanges := by
  induction events generalizing course with
  | nil => exact List.prefix_rfl
  | cons event rest ih =>
      refine List.IsPrefix.trans ?_ (ih (course.step catalog event))
      cases event with
      | altered change => exact List.prefix_rfl
      | asked question table =>
          obtain ⟨exchange, hexchanges, -⟩ := course.step_asked catalog question table
          rw [hexchanges]
          exact List.prefix_append _ _

/-- What is kept of a table is kept forever. -/
theorem cached?_after_append {events : List (Event σ)} {start : σ} {table : String}
    {schema : TableSchema} (more : List (Event σ))
    (kept : (after catalog events start).cache.cached? table = some schema) :
    (after catalog (events ++ more) start).cache.cached? table = some schema := by
  obtain ⟨others, hothers⟩ : (after catalog events start).exchanges <+:
      (after catalog (events ++ more) start).exchanges := by
    rw [after_append]
    exact exchanges_prefix _ more
  rw [(isConsistent_after events start).kept] at kept
  rw [(isConsistent_after _ start).kept, ← hothers, firstGiven?_append, kept, Option.some_or]

end Course

/-- A schema cache and the catalog behind it, after any questions about any
tables and any changes of the catalog between them. Every question was answered,
each from what was given before: the first schema that an introspection of the
table gave, without a word to the catalog, or else what the catalog said when it
was asked, once. This first schema is what the cache keeps of a table, and keeps
forever. The next question changes at most what is kept of its own table, and
not even that if it ends in a fault. What is asked about a table, and what the
catalog would say about it at these times, decides the exchanges about it,
whatever else is asked or changes. -/
theorem answers_of_history (catalog : String → σ → Except Fault TableSchema × σ)
    (events : List (Event σ)) (start : σ) :
    let course := Course.after catalog events start
    course.exchanges.map (fun exchange => (exchange.question, exchange.table)) =
        events.filterMap Event.question? ∧
      IsHistory course.exchanges ∧
      (∀ table, course.cache.cached? table = firstGiven? course.exchanges table) ∧
      (∀ table schema more, course.cache.cached? table = some schema →
        (Course.after catalog (events ++ more) start).cache.cached? table = some schema) ∧
      (∀ question table, ∃ exchange : Exchange,
        let next := course.step catalog (.asked question table)
        next.exchanges = course.exchanges ++ [exchange] ∧ exchange.question = question ∧
        exchange.table = table ∧ exchange.current = (catalog table course.state).1 ∧
        exchange.Follows (firstGiven? course.exchanges table) ∧
        (∀ other, other ≠ table → next.cache.cached? other = course.cache.cached? other) ∧
        ∀ fault, exchange.answer = .found (.error fault) →
          ∀ other, next.cache.cached? other = course.cache.cached? other) ∧
      ∀ {τ : Type} (catalog' : String → τ → Except Fault TableSchema × τ)
        (events' : List (Event τ)) (start' : τ) (table : String),
        let course' := Course.after catalog' events' start'
        (about table course.exchanges).map
            (fun exchange => (exchange.question, exchange.current)) =
          (about table course'.exchanges).map
            (fun exchange => (exchange.question, exchange.current)) →
        about table course.exchanges = about table course'.exchanges := by
  intro course
  have hconsistent : course.IsConsistent := Course.isConsistent_after events start
  refine ⟨Course.questions_after events start, hconsistent.history, hconsistent.kept,
    fun table schema more => Course.cached?_after_append more, ?_, ?_⟩
  · intro question table
    obtain ⟨exchange, hexchanges, hquestion, htable, hcurrent, hfollows, hkept⟩ :=
      course.step_asked catalog question table
    rw [hconsistent.kept] at hfollows
    refine ⟨exchange, hexchanges, hquestion, htable, hcurrent, hfollows, ?_, ?_⟩
    · intro other different
      rw [hkept, Exchange.given?_of_ne (htable ▸ different.symm), Option.or_none]
    · intro fault hfault other
      have hnone : exchange.given? other = none := by simp [Exchange.given?, hfault]
      rw [hkept, hnone, Option.or_none]
  · intro τ catalog' events' start' table course' same
    have hhistory : IsHistory course'.exchanges :=
      (Course.isConsistent_after events' start').history
    apply hconsistent.history.about.unique hhistory.about
    have htables (exchanges : List Exchange) : (about table exchanges).map
        (fun exchange => (exchange.question, exchange.table, exchange.current)) =
          ((about table exchanges).map
            fun exchange => (exchange.question, exchange.current)).map
              fun (question, current) => (question, table, current) := by
      rw [List.map_map]
      apply List.map_congr_left
      intro exchange member
      have htable : exchange.table = table := by simpa using (List.mem_filter.mp member).2
      simp [htable]
    rw [htables, htables, same]

end

end RowGraph.SchemaCache
