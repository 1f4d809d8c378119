import Sift.Executor.Recorder
import Sift.Proofs.Builder.Statement

/-!
# What reaches the executor

A chain is everything that is said to a builder, up to the call that is to run it. The executor
hears of it if the chain is ready and not otherwise; `Chain.Ready` lists what that takes. There is
then one call with one statement, the same under every routing key, and a statement that changes
anything is restricted to the rows of the chain's filters.
-/
namespace Sift

/-! ## Chains -/

/-- The calls that run a query. -/
inductive QueryTerminal where
  | count
  | any
  | first
  | toList
  | toPage

namespace QueryTerminal

variable {e : Entity}

/-- The operation of a query. -/
def kind : QueryTerminal → StatementKind
  | count => .count
  | any | first | toList | toPage => .select

/-- All rows are read, so there has to be a filter. -/
def needsFilter : QueryTerminal → Bool
  | count | any | first => false
  | toList | toPage => true

/-- It matters where the query starts. -/
def readsStart : QueryTerminal → Bool
  | count => false
  | any | first | toList | toPage => true

/-- The statement that is sent for a query. -/
def statement (q : Query e) : QueryTerminal → Except Error Statement
  | count => q.compileCount
  | any => q.compileSelect (some 1) true
  | first => q.compileSelect (some 1) false
  | toList => q.compileFiltered "to_list"
  | toPage => q.compilePage.map Prod.snd

/-- Run a query, whatever comes out. -/
def run {m : Type → Type} [Monad m] (q : Query e) (x : Executor m) : QueryTerminal → m Unit
  | count => do
    let _ ← q.count x
    pure ()
  | any => do
    let _ ← q.any x
    pure ()
  | first => do
    let _ ← q.first x
    pure ()
  | toList => do
    let _ ← q.toList x
    pure ()
  | toPage => do
    let _ ← q.toPage x
    pure ()

end QueryTerminal

/-- All that is said to a builder of one of the three kinds. -/
inductive Chain where
  | query (steps : List QueryStep) (terminal : QueryTerminal)
  | update (steps : List UpdateStep)
  | delete (filters : List Predicate)

namespace Chain

variable {e : Entity}

/-- The operation of a chain. -/
def kind : Chain → StatementKind
  | query _ terminal => terminal.kind
  | update _ => .update
  | delete _ => .delete

/-- A chain changes rows. -/
def changes : Chain → Bool
  | query .. => false
  | update _ | delete _ => true

/-- What the scope hears of a chain. -/
def mentions : Chain → List Mention
  | query steps _ => steps.flatMap QueryStep.mentions
  | update steps => steps.flatMap UpdateStep.mentions
  | delete filters => filters.map Mention.filter

/-- All names in a chain. -/
def names (chain : Chain) : List String := chain.mentions.flatMap Mention.names

/-- All filters of a chain. -/
def filters (chain : Chain) : List Predicate := chain.mentions.filterMap Mention.filter?

/-- The statement of a chain that is said to a builder with some scope. -/
def statement (s : Scope e) : Chain → Except Error Statement
  | query steps terminal => terminal.statement ((Query.new s).applyAll steps)
  | update steps => ((Update.new s).applyAll steps).toStatement
  | delete filters => (Deletion.filterAll ⟨s⟩ filters).toStatement

/-- Run a chain, whatever comes out. -/
def run {m : Type → Type} [Monad m] (s : Scope e) (x : Executor m) : Chain → m Unit
  | query steps terminal => terminal.run ((Query.new s).applyAll steps) x
  | update steps => do
    let _ ← ((Update.new s).applyAll steps).run x
    pure ()
  | delete filters => do
    let _ ← (Deletion.filterAll ⟨s⟩ filters).run x
    pure ()

/-- The calls that an executor receives from a chain for an entity: none has been received before,
and the answers follow a script. -/
def calls (chain : Chain) (e : Entity) (d : Dialect) (typeName : String)
    (routingKey : Option String) (logLimit : Option Nat) (script : Script) : List Call :=
  let s : Scope e := .start typeName (Table.ofEntity e d) routingKey
  ((chain.run s (recorder d logLimit script)).run Journal.empty).2.calls

/-- The call that a chain makes. Rows are fetched, and updates are made in a transaction. -/
def call (chain : Chain) (name : String) (routingKey : Option String) (s : Statement) : Call :=
  match chain with
  | query _ terminal => ⟨.fetch, ⟨terminal.kind, .read, false, name, routingKey⟩, [s]⟩
  | update _ => ⟨.execute, ⟨.update, .write, true, name, routingKey⟩, [s]⟩
  | delete _ => ⟨.execute, ⟨.delete, .write, false, name, routingKey⟩, [s]⟩

/-- The chain has a filter if it must not do without. -/
def Filtered : Chain → Prop
  | chain@(query _ terminal) => terminal.needsFilter = true → chain.filters ≠ []
  | chain => chain.filters ≠ []

/-- The chain assigns something if it is to do so. -/
def Assigns : Chain → Prop
  | update steps => steps.flatMap UpdateStep.assignments ≠ []
  | _ => True

/-- The last start of the chain can be read, if it matters. -/
def StartReadable : Chain → Prop
  | query steps terminal =>
    terminal.readsStart = true → ∀ fault, QueryStep.lastStart? steps ≠ some (.error fault)
  | _ => True

/-- All that it takes for a chain to reach the executor of a dialect: the table of the entity, and
the condition of all filters. -/
structure Ready (chain : Chain) (e : Entity) (d : Dialect) (t : Table) (c : Option Condition) :
    Prop where
  table : Table.ofEntity e d = .ok t
  mapped : ∀ name ∈ chain.names, name ∈ e.properties
  lowered : Condition.ofFilter t (Predicate.all? chain.filters) = .ok c
  filtered : chain.Filtered
  assigns : chain.Assigns
  startReadable : chain.StartReadable

/-- The scope of a chain in the end. -/
def scope (chain : Chain) (s : Scope e) : Scope e := s.mentionAll chain.mentions

end Chain

/-! ## The statement of a chain -/

section Statement

variable {e : Entity} {s : Statement}

namespace QueryTerminal

variable {q : Query e} {terminal : QueryTerminal}

theorem planned_of_statement (h : terminal.statement q = .ok s) :
    q.scope.Planned terminal.kind s := by
  cases terminal with
  | count => exact Query.planned_of_compileCount h
  | any => exact Query.planned_of_compileSelect h
  | first => exact Query.planned_of_compileSelect h
  | toList => exact Query.planned_of_compileSelect (Query.compileFiltered_eq_ok_iff.1 h).2
  | toPage => exact Query.planned_of_compileSelect (Query.map_snd_compilePage_eq_ok_iff.1 h).2

/-- What each terminal insists on. -/
theorem exists_statement_iff (hq : q.Resolved) (terminal : QueryTerminal) :
    (∃ s, terminal.statement q = .ok s) ↔
      ∃ t c, q.scope.state = .ok t ∧ Condition.ofFilter t q.scope.filter = .ok c ∧
        (terminal.needsFilter = true → q.scope.filter ≠ none) ∧
        (terminal.readsStart = true → ∃ start, q.resolvedStart = .ok start) := by
  constructor
  · rintro ⟨s, hs⟩
    obtain ⟨t, c, ht, hc⟩ := (planned_of_statement hs).exists_ofFilter
    have hstart : ∀ {limit keyOnly}, q.compileSelect limit keyOnly = .ok s →
        ∃ start, q.resolvedStart = .ok start := by
      intro limit keyOnly h
      obtain ⟨_, start, _, _, -, hstart, -⟩ := Query.compileSelect_eq_ok_iff.1 h
      exact ⟨start, hstart⟩
    refine ⟨t, c, ht, hc, ?_⟩
    cases terminal with
    | count => exact ⟨nofun, nofun⟩
    | any => exact ⟨nofun, fun _ => hstart hs⟩
    | first => exact ⟨nofun, fun _ => hstart hs⟩
    | toList =>
      obtain ⟨hfilter, hselect⟩ := Query.compileFiltered_eq_ok_iff.1 hs
      exact ⟨fun _ => hfilter, fun _ => hstart hselect⟩
    | toPage =>
      obtain ⟨hfilter, hselect⟩ := Query.map_snd_compilePage_eq_ok_iff.1 hs
      exact ⟨fun _ => hfilter, fun _ => hstart hselect⟩
  · rintro ⟨t, c, ht, hc, hfilter, hstart⟩
    cases terminal with
    | count => exact Query.exists_compileCount ht hc
    | any =>
      obtain ⟨start, hstart⟩ := hstart rfl
      exact Query.exists_compileSelect hq (some 1) true ht hc hstart
    | first =>
      obtain ⟨start, hstart⟩ := hstart rfl
      exact Query.exists_compileSelect hq (some 1) false ht hc hstart
    | toList =>
      obtain ⟨start, hstart⟩ := hstart rfl
      obtain ⟨s, hs⟩ := Query.exists_compileSelect hq q.limit false ht hc hstart
      exact ⟨s, Query.compileFiltered_eq_ok_iff.2 ⟨hfilter rfl, hs⟩⟩
    | toPage =>
      obtain ⟨start, hstart⟩ := hstart rfl
      obtain ⟨s, hs⟩ := Query.exists_compileSelect hq q.limit false ht hc hstart
      exact ⟨s, Query.map_snd_compilePage_eq_ok_iff.2 ⟨hfilter rfl, hs⟩⟩

theorem statement_renamed (q : Query e) (terminal : QueryTerminal) (name : String)
    (key : Option String) :
    terminal.statement (q.renamed name key) = .ok s ↔ terminal.statement q = .ok s := by
  cases terminal with
  | count => exact Iff.rfl
  | any => exact Iff.rfl
  | first => exact Iff.rfl
  | toList =>
    rw [statement, statement, Query.compileFiltered_eq_ok_iff, Query.compileFiltered_eq_ok_iff]
    exact Iff.rfl
  | toPage =>
    rw [statement, statement, Query.map_snd_compilePage_eq_ok_iff,
      Query.map_snd_compilePage_eq_ok_iff]
    exact Iff.rfl

end QueryTerminal

theorem Predicate.all?_eq_none_iff {filters : List Predicate} :
    Predicate.all? filters = none ↔ filters = [] := by
  cases filters with
  | nil => simp
  | cons p rest => simp [Predicate.all?]

namespace Chain

variable {chain : Chain}

/-- The statement of a chain is that of a plan for the rows of its filters. -/
theorem planned_of_statement {scope : Scope e} (h : chain.statement scope = .ok s) :
    (chain.scope scope).Planned chain.kind s := by
  cases chain with
  | query steps terminal =>
    have hplanned := QueryTerminal.planned_of_statement h
    rw [Query.scope_applyAll] at hplanned
    exact hplanned
  | update steps =>
    have hplanned := Update.planned_of_toStatement h
    rw [Update.scope_applyAll] at hplanned
    exact hplanned
  | delete filters =>
    have hplanned := Deletion.planned_of_toStatement h
    rw [Deletion.scope_filterAll] at hplanned
    exact hplanned

/-- Neither the name of the scope nor its routing key has a part in the statement. -/
theorem statement_renamed (scope : Scope e) (name : String) (key : Option String) :
    chain.statement (scope.renamed name key) = .ok s ↔ chain.statement scope = .ok s := by
  cases chain with
  | query steps terminal =>
    have hrenamed := (Query.new scope).applyAll_renamed steps name key
    change terminal.statement (((Query.new scope).renamed name key).applyAll steps) = .ok s ↔ _
    rw [hrenamed]
    exact terminal.statement_renamed _ name key
  | update steps =>
    have hrenamed := (Update.new scope).applyAll_renamed steps name key
    change (((Update.new scope).renamed name key).applyAll steps).toStatement = .ok s ↔ _
    rw [hrenamed, statement, Update.toStatement_eq_ok_iff, Update.toStatement_eq_ok_iff]
    exact Iff.rfl
  | delete filters =>
    have hrenamed := scope.mentionAll_renamed (filters.map Mention.filter) name key
    rw [statement, statement, Deletion.toStatement_eq_ok_iff, Deletion.toStatement_eq_ok_iff,
      Deletion.scope_filterAll, Deletion.scope_filterAll, hrenamed]
    exact Iff.rfl

/-- A chain has a statement if its table is there, its filter can be lowered and it has all that its
operation insists on. -/
theorem exists_statement_iff {scope : Scope e} (hscope : scope.filter = none) :
    (∃ s, chain.statement scope = .ok s) ↔
      ∃ t c, (chain.scope scope).state = .ok t ∧
        Condition.ofFilter t (Predicate.all? chain.filters) = .ok c ∧ chain.Filtered ∧
        chain.Assigns ∧ chain.StartReadable := by
  have hfilter : (chain.scope scope).filter = Predicate.all? chain.filters := by
    rw [Chain.scope, Scope.filter_mentionAll, hscope]
    rfl
  have hne : (chain.scope scope).filter ≠ none ↔ chain.filters ≠ [] := by
    rw [hfilter, ne_eq, Predicate.all?_eq_none_iff]
  rw [← hfilter]
  cases chain with
  | query steps terminal =>
    have hresolved := (Query.resolved_new scope).applyAll steps
    have hstart := Query.exists_resolvedStart_iff (q := (Query.new scope).applyAll steps)
    rw [Query.start_applyAll, Query.new, Option.or_none] at hstart
    rw [statement, terminal.exists_statement_iff hresolved, Query.scope_applyAll, Query.new, hstart]
    constructor
    · rintro ⟨t, c, ht, hc, hfiltered, hreadable⟩
      exact ⟨t, c, ht, hc, fun hneeds => hne.1 (hfiltered hneeds), trivial, hreadable⟩
    · rintro ⟨t, c, ht, hc, hfiltered, -, hreadable⟩
      exact ⟨t, c, ht, hc, fun hneeds => hne.2 (hfiltered hneeds), hreadable⟩
  | update steps =>
    have hresolved := (Update.resolved_new scope).applyAll steps
    have hcolumns : ((Update.new scope).applyAll steps).assigned.columns ≠ [] ↔
        steps.flatMap UpdateStep.assignments ≠ [] := by
      rw [ne_eq, Update.columns_applyAll_eq_nil_iff]
      exact not_congr (and_iff_right rfl)
    rw [statement, Update.exists_toStatement_iff hresolved, Update.scope_applyAll, hcolumns]
    constructor
    · rintro ⟨t, c, ht, hc, hfiltered, hassigns⟩
      exact ⟨t, c, ht, hc, hne.1 hfiltered, hassigns, trivial⟩
    · rintro ⟨t, c, ht, hc, hfiltered, hassigns, -⟩
      exact ⟨t, c, ht, hc, hne.2 hfiltered, hassigns⟩
  | delete filters =>
    rw [statement, Deletion.exists_toStatement_iff, Deletion.scope_filterAll]
    constructor
    · rintro ⟨t, c, ht, hc, hfiltered⟩
      exact ⟨t, c, ht, hc, hne.1 hfiltered, trivial, trivial⟩
    · rintro ⟨t, c, ht, hc, hfiltered, -, -⟩
      exact ⟨t, c, ht, hc, hne.2 hfiltered⟩

end Chain

end Statement

/-! ## The call of a chain -/

section Calls

variable {e : Entity} {d : Dialect} {chain : Chain}

theorem calls_fetch (q : Query e) (logLimit : Option Nat) (script : Script) (kind : StatementKind)
    (outcome : Except Error Statement) (j : Journal) :
    ((q.fetch (recorder d logLimit script) kind outcome).run j).2.calls =
      j.calls ++ outcome.toOption.toList.map fun s =>
        ⟨.fetch, q.scope.context kind .read, [s]⟩ := by
  cases outcome with
  | error err => exact (List.append_nil _).symm
  | ok s => rfl

/-- A query makes one call if it has a statement. -/
theorem QueryTerminal.calls_run (q : Query e) (logLimit : Option Nat) (script : Script)
    (terminal : QueryTerminal) (j : Journal) :
    ((terminal.run q (recorder d logLimit script)).run j).2.calls =
      j.calls ++ (terminal.statement q).toOption.toList.map fun s =>
        ⟨.fetch, q.scope.context terminal.kind .read, [s]⟩ := by
  cases terminal with
  | count => exact calls_fetch q logLimit script .count q.compileCount j
  | any => exact calls_fetch q logLimit script .select (q.compileSelect (some 1) true) j
  | first => exact calls_fetch q logLimit script .select (q.compileSelect (some 1) false) j
  | toList => exact calls_fetch q logLimit script .select (q.compileFiltered "to_list") j
  | toPage => exact calls_fetch q logLimit script .select (q.compilePage.map Prod.snd) j

theorem Update.calls_run (u : Update e) (logLimit : Option Nat) (script : Script) (j : Journal) :
    ((u.run (recorder d logLimit script)).run j).2.calls =
      j.calls ++ u.toStatement.toOption.toList.map fun s =>
        ⟨.execute, (u.scope.context .update .write).inTransaction, [s]⟩ := by
  unfold Update.run
  cases u.toStatement with
  | error err => exact (List.append_nil _).symm
  | ok s => rfl

theorem Deletion.calls_run (u : Deletion e) (logLimit : Option Nat) (script : Script)
    (j : Journal) :
    ((u.run (recorder d logLimit script)).run j).2.calls =
      j.calls ++ u.toStatement.toOption.toList.map fun s =>
        ⟨.execute, u.scope.context .delete .write, [s]⟩ := by
  unfold Deletion.run
  cases u.toStatement with
  | error err => exact (List.append_nil _).symm
  | ok s => rfl

/-- A test for any row fetches one row's key. -/
theorem Query.calls_any {q : Query e} {s : Statement} (h : q.compileSelect (some 1) true = .ok s)
    (logLimit : Option Nat) (script : Script) (j : Journal) :
    ((q.any (recorder d logLimit script)).run j).2.calls =
      j.calls ++ [⟨.fetch, q.scope.context .select .read, [s]⟩] := by
  have hrun := QueryTerminal.calls_run (d := d) q logLimit script .any j
  rw [QueryTerminal.statement, h] at hrun
  exact hrun

/-- An update executes its statement. -/
theorem Update.calls_run_of_toStatement {u : Update e} {s : Statement} (h : u.toStatement = .ok s)
    (logLimit : Option Nat) (script : Script) (j : Journal) :
    ((u.run (recorder d logLimit script)).run j).2.calls =
      j.calls ++ [⟨.execute, (u.scope.context .update .write).inTransaction, [s]⟩] := by
  rw [Update.calls_run, h]
  rfl

namespace Chain

/-- A chain makes one call if it has a statement. -/
theorem calls_run (scope : Scope e) (logLimit : Option Nat) (script : Script) :
    ((chain.run scope (recorder d logLimit script)).run .empty).2.calls =
      (chain.statement scope).toOption.toList.map fun s =>
        chain.call scope.name scope.routingKey s := by
  cases chain with
  | query steps terminal =>
    have hrun :=
      terminal.calls_run (d := d) ((Query.new scope).applyAll steps) logLimit script .empty
    rw [Query.context_applyAll] at hrun
    exact hrun
  | update steps =>
    have hrun := ((Update.new scope).applyAll steps).calls_run (d := d) logLimit script .empty
    rw [Update.context_applyAll] at hrun
    exact hrun
  | delete filters =>
    have hrun := (Deletion.filterAll ⟨scope⟩ filters).calls_run (d := d) logLimit script .empty
    rw [Deletion.scope_filterAll, Scope.context_mentionAll] at hrun
    exact hrun

end Chain

end Calls

/-! ## What a statement is restricted to -/

/-- The operation of a command of a relational store. -/
def SqlCommand.kind : SqlCommand → StatementKind
  | select .. => .select
  | count .. => .count
  | update .. => .update
  | delete .. => .delete
  | insert .. => .insert

/-- The rows that such a command is about. -/
def SqlCommand.filter? : SqlCommand → Option SqlExpr
  | select _ _ filter _ | count _ filter | update _ _ filter | delete _ filter => filter
  | insert .. => none

/-- The operation of a command of a document store. -/
def Command.kind : Command → StatementKind
  | find .. => .select
  | count .. => .count
  | update .. => .update
  | delete .. => .delete
  | insert .. => .insert

/-- The documents that such a command is about. -/
def Command.filter? : Command → Option Json
  | find _ filter .. | count _ filter | update _ filter _ | delete _ filter => some filter
  | insert .. => none

/-- A statement does something to the rows of a condition and to no others: a relational store reads
its text as an operation behind that filter, and a document store gets the filter of the condition,
which is never the empty document. -/
inductive Statement.KeepsTo (kind : StatementKind) (c : Condition) : Dialect → Statement → Prop
  | sql {d : SqlDialect} {st : SqlStatement} {cmd : SqlCommand}
      (read : d.readCommand st = some cmd) (operation : cmd.kind = kind)
      (filter : cmd.filter? = some (c.written d)) : KeepsTo kind c (.sql d) (.sql st)
  | document {cmd : Command} (operation : cmd.kind = kind) (filter : cmd.filter? = some c.filter)
      (member : ∃ key test, c.filter = .object [(key, test)]) :
      KeepsTo kind c .document (.document cmd)

/-- The filter document of a condition has one member. -/
theorem Condition.exists_filter_eq_object (c : Condition) :
    ∃ key test, c.filter = .object [(key, test)] := by
  have hguard : ∀ (f : Field) (guard : NullGuard) (key : String) (test : Json),
      ∃ key' test',
        Clause.guardFilter f guard (Json.member key test) = .object [(key', test')] := by
    intro f guard key test
    cases guard <;> exact ⟨_, _, rfl⟩
  cases c with
  | logical op left right => exact ⟨_, _, rfl⟩
  | clause c =>
    cases c with
    | always truth => exact ⟨_, _, rfl⟩
    | nullTest f negated => exact ⟨_, _, rfl⟩
    | compare f op v guard => exact hguard f guard _ _
    | oneOf f values negated guard => exact hguard f guard _ _
    | like f pattern test negated guard => exact hguard f guard _ _

/-- The statement of a plan with a filter that changes rows keeps to the rows of the filter. -/
theorem Statement.Says.keepsTo {t : Table} {p : Plan} {c : Condition} {d : Dialect} {s : Statement}
    (h : s.Says t p (some c) d) (hp : p.kind = .update ∨ p.kind = .delete) :
    s.KeepsTo p.kind c d := by
  cases h with
  | sql hread =>
    cases p with
    | update filter assigned => exact .sql hread rfl rfl
    | delete filter => exact .sql hread rfl rfl
    | _ => simp [Plan.kind] at hp
  | document =>
    cases p with
    | update filter assigned => exact .document rfl rfl c.exists_filter_eq_object
    | delete filter => exact .document rfl rfl c.exists_filter_eq_object
    | _ => simp [Plan.kind] at hp

namespace Chain

/-- A chain that is ready has a statement, and only such a chain. -/
theorem exists_statement_start_iff (chain : Chain) (e : Entity) (d : Dialect) (typeName : String)
    (routingKey : Option String) :
    (∃ s, chain.statement (.start typeName (Table.ofEntity e d) routingKey : Scope e) = .ok s) ↔
      ∃ t c, chain.Ready e d t c := by
  have hstate : ∀ t, (chain.scope
      (.start typeName (Table.ofEntity e d) routingKey : Scope e)).state = .ok t ↔
        Table.ofEntity e d = .ok t ∧ ∀ name ∈ chain.names, name ∈ e.properties := by
    intro t
    rw [scope, Scope.state_mentionAll_eq_ok_iff, Scope.state_start]
    refine and_congr_right fun ht => ?_
    rw [(Table.eq_of_ofEntity ht).1]
    rfl
  rw [exists_statement_iff rfl]
  constructor
  · rintro ⟨t, c, ht, hc, hfiltered, hassigns, hreadable⟩
    obtain ⟨htable, hmapped⟩ := (hstate t).1 ht
    exact ⟨t, c, htable, hmapped, hc, hfiltered, hassigns, hreadable⟩
  · rintro ⟨t, c, h⟩
    exact ⟨t, c, (hstate t).2 ⟨h.table, h.mapped⟩, h.lowered, h.filtered, h.assigns,
      h.startReadable⟩

/-- The statement of a chain is the same under all names and routing keys. -/
theorem statement_start_congr {chain : Chain} {table : Except Error Table} {s : Statement}
    (typeName typeName' : String) (key key' : Option String) :
    chain.statement (.start typeName table key : Scope e) = .ok s ↔
      chain.statement (.start typeName' table key' : Scope e) = .ok s := by
  have hsame : (.start typeName table key : Scope e) =
      (Scope.start typeName' table key').renamed (Scope.start typeName table key : Scope e).name
        key := rfl
  rw [hsame]
  exact statement_renamed _ _ key

/-- The executor receives the call with the statement of the chain, if there is one. -/
theorem calls_eq (chain : Chain) (e : Entity) (d : Dialect) (typeName : String)
    (routingKey : Option String) (logLimit : Option Nat) (script : Script) :
    chain.calls e d typeName routingKey logLimit script =
      (chain.statement
        (.start typeName (Table.ofEntity e d) routingKey : Scope e)).toOption.toList.map fun s =>
          chain.call (Scope.start typeName (Table.ofEntity e d) routingKey : Scope e).name
            routingKey s :=
  calls_run _ logLimit script

namespace Ready

variable {chain : Chain} {d : Dialect} {t : Table} {c : Option Condition}

/-- The statement of a chain that is ready, whatever the names and the routing key are. -/
theorem exists_statement (h : chain.Ready e d t c) :
    ∃ s p, (∀ typeName routingKey,
        chain.statement (.start typeName (Table.ofEntity e d) routingKey : Scope e) = .ok s) ∧
      p.kind = chain.kind ∧ p.filter? = Predicate.all? chain.filters ∧ s.Says t p c d := by
  obtain ⟨s, hs⟩ := (exists_statement_start_iff chain e d e.name none).2 ⟨t, c, h⟩
  obtain ⟨t', p, ht', hfilter, hkind, hcomplete, hcompile⟩ := planned_of_statement hs
  obtain rfl : t = t' := by
    have htable := (Scope.state_mentionAll_eq_ok_iff.1 ht').1
    rw [Scope.state_start, h.table] at htable
    exact Except.ok.inj htable
  have hfilters : p.filter? = Predicate.all? chain.filters := by
    rw [hfilter, scope, Scope.filter_mentionAll]
    rfl
  have hlowered : Condition.ofFilter t p.filter? = .ok c := by
    rw [hfilters]
    exact h.lowered
  have hsays := Plan.says_of_compile hcomplete hlowered hcompile
  rw [(Table.eq_of_ofEntity h.table).2] at hsays
  exact ⟨s, p, fun typeName key => (statement_start_congr e.name typeName none key).1 hs, hkind,
    hfilters, hsays⟩

/-- A chain that changes rows has a condition. -/
theorem exists_condition (h : chain.Ready e d t c) (hchanges : chain.changes = true) :
    ∃ c', c = some c' := by
  have hne : chain.filters ≠ [] := by
    have hfiltered := h.filtered
    cases chain with
    | query steps terminal => cases hchanges
    | update steps => exact hfiltered
    | delete filters => exact hfiltered
  obtain ⟨q, hq⟩ := Option.ne_none_iff_exists'.1 (mt Predicate.all?_eq_none_iff.1 hne)
  have hlowered := h.lowered
  rw [hq, Condition.ofFilter] at hlowered
  obtain ⟨c', -, rfl⟩ := map_eq_ok_iff.1 hlowered
  exact ⟨c', rfl⟩

end Ready

theorem kind_of_changes {chain : Chain} (h : chain.changes = true) :
    chain.kind = .update ∨ chain.kind = .delete := by
  cases chain with
  | query steps terminal => cases h
  | update steps => exact .inl rfl
  | delete filters => exact .inr rfl

/-- An executor hears of a chain if and only if the chain is ready. It then receives one call with
one statement, which says what the chain says; the routing key is passed on beside the statement and
has no part in it; and a statement that changes anything keeps to the rows of all filters. -/
theorem calls_iff_ready (chain : Chain) (e : Entity) (d : Dialect) :
    (∀ typeName routingKey logLimit script,
      chain.calls e d typeName routingKey logLimit script ≠ [] ↔ ∃ t c, chain.Ready e d t c) ∧
    ∀ t c, chain.Ready e d t c → ∃ s p,
      (∀ typeName routingKey logLimit script,
        chain.calls e d typeName routingKey logLimit script = [chain.call e.name routingKey s]) ∧
      p.kind = chain.kind ∧ p.filter? = Predicate.all? chain.filters ∧ s.Says t p c d ∧
      (chain.changes = true → ∃ c', c = some c' ∧ s.KeepsTo chain.kind c' d) := by
  constructor
  · intro typeName routingKey logLimit script
    rw [calls_eq, ← exists_statement_start_iff chain e d typeName routingKey]
    cases chain.statement (.start typeName (Table.ofEntity e d) routingKey : Scope e) with
    | error err => simp [Except.toOption]
    | ok s => simp [Except.toOption]
  · intro t c hready
    obtain ⟨s, p, hs, hkind, hfilters, hsays⟩ := hready.exists_statement
    refine ⟨s, p, ?_, hkind, hfilters, hsays, ?_⟩
    · intro typeName routingKey logLimit script
      have hname : (Scope.start typeName (Table.ofEntity e d) routingKey : Scope e).name =
          e.name := by
        rw [hready.table, Scope.start, (Table.eq_of_ofEntity hready.table).1]
      rw [calls_eq, hs, hname]
      rfl
    · intro hchanges
      obtain ⟨c', rfl⟩ := hready.exists_condition hchanges
      have hkeeps := hsays.keepsTo (hkind ▸ kind_of_changes hchanges)
      rw [hkind] at hkeeps
      exact ⟨c', rfl, hkeeps⟩

/-- Everyone that `pickyPredicate` is about and whose age is known loses it. -/
def pickyChain : Chain :=
  .update [.set "name" (.text "o'neil"), .filter pickyPredicate,
    .setMany [("age", .null), ("name", .null)], .filter (.isNotNull "age")]

theorem calls_pickyChain : ∃ t c s,
    pickyChain.Ready (Table.people (.sql .postgres)).entity (.sql .postgres) t (some c) ∧
    (∀ typeName routingKey logLimit script,
      pickyChain.calls (Table.people (.sql .postgres)).entity (.sql .postgres) typeName routingKey
        logLimit script = [⟨.execute, ⟨.update, .write, true, "Person", routingKey⟩, [s]⟩]) ∧
    s.KeepsTo .update c (.sql .postgres) := by
  obtain ⟨c, hc⟩ : ∃ c, Condition.ofFilter (.people (.sql .postgres))
      (Predicate.all? pickyChain.filters) = .ok (some c) := ⟨_, rfl⟩
  have hready : pickyChain.Ready (Table.people (.sql .postgres)).entity (.sql .postgres)
      (.people (.sql .postgres)) (some c) :=
    ⟨rfl, by decide, hc, List.cons_ne_nil _ _, List.cons_ne_nil _ _, trivial⟩
  obtain ⟨s, p, hcalls, -, -, -, hkeeps⟩ :=
    (calls_iff_ready pickyChain (Table.people (.sql .postgres)).entity
      (.sql .postgres)).2 _ _ hready
  obtain ⟨c', hc', hkeeps⟩ := hkeeps rfl
  cases hc'
  exact ⟨_, c, s, hready, hcalls, hkeeps⟩

end Chain

end Sift
