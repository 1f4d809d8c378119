import Sift.Proofs.Builder.Chain

/-!
# The fault that a builder reports

A mapping may have no table, and a name that is used may not be mapped. A builder keeps the first of
these faults, `Scope.state_mentionAll`: what comes after it is not looked at. Every call that ends a
chain reports it and leaves the executor alone, whatever else is wrong, `Chain.outcome_of_flawed`.

Two calls look at something else before: reading all rows asks for a filter, and reading a page also
for a start that can be read. What these miss is reported in the place of the first fault.
-/
namespace Sift

variable {e : Entity} {d : Dialect} {err : Error}

/-! ## The first fault -/

/-- The first fault of a mapping whose names are used in some order: its table cannot be built, or
one of the names is not mapped and all names before it are. -/
inductive FirstFault (e : Entity) (d : Dialect) (names : List String) : Error → Prop
  | mapping {err : Error} (refused : Table.ofEntity e d = .error err) : FirstFault e d names err
  | unmapped {t : Table} {before after : List String} {name : String}
      (table : Table.ofEntity e d = .ok t) (split : names = before ++ name :: after)
      (mapped : ∀ n ∈ before, n ∈ e.properties) (missing : name ∉ e.properties) :
      FirstFault e d names (.fieldNotFound e.name name)

/-- Something is wrong with a mapping or with a name that is used. -/
def Flawed (e : Entity) (d : Dialect) (names : List String) : Prop :=
  (∃ err, Table.ofEntity e d = .error err) ∨ ∃ name ∈ names, name ∉ e.properties

/-- Where something is wrong, something is wrong first. -/
theorem Flawed.exists_firstFault {names : List String} (h : Flawed e d names) :
    ∃ err, FirstFault e d names err := by
  cases htable : Table.ofEntity e d with
  | error err => exact ⟨err, .mapping htable⟩
  | ok t =>
    obtain ⟨err, herr⟩ | ⟨name, hname, hmissing⟩ := h
    · rw [htable] at herr
      cases herr
    · -- the names up to the first that is not mapped
      have hfound : (names.find? fun n => n ∉ e.properties).isSome = true := by
        rw [List.find?_isSome]
        exact ⟨name, hname, by simpa using hmissing⟩
      obtain ⟨first, hfirst⟩ := Option.isSome_iff_exists.1 hfound
      obtain ⟨hmissing, before, after, hsplit, hbefore⟩ := List.find?_eq_some_iff_append.1 hfirst
      refine ⟨_, .unmapped htable hsplit (fun n hn => ?_) (by simpa using hmissing)⟩
      simpa using hbefore n hn

/-! ## What a scope keeps -/

namespace Table

variable {t : Table}

/-- The table, if it maps some names; the first that it does not map is an error. -/
def checkNames (t : Table) (names : List String) : Except Error Table :=
  match t.firstUnmapped? names with
  | none => .ok t
  | some name => .error (.fieldNotFound t.entity.name name)

@[simp] theorem checkNames_nil (t : Table) : t.checkNames [] = .ok t := rfl

theorem checkNames_append (t : Table) (names more : List String) :
    t.checkNames (names ++ more) = (t.checkNames names).bind fun t => t.checkNames more := by
  have hfirst : t.firstUnmapped? (names ++ more) =
      (t.firstUnmapped? names).or (t.firstUnmapped? more) := List.find?_append
  unfold checkNames
  rw [hfirst]
  cases hnames : t.firstUnmapped? names with
  | none => rfl
  | some name => rfl

theorem checkNames_eq_ok_iff {t' : Table} {names : List String} :
    t.checkNames names = .ok t' ↔ t' = t ∧ ∀ name ∈ names, name ∈ t.entity.properties := by
  rw [← firstUnmapped?_eq_none_iff]
  unfold checkNames
  cases t.firstUnmapped? names with
  | some name => simp
  | none => simp [eq_comm]

theorem exists_eq_fieldNotFound {names : List String} (h : t.checkNames names = .error err) :
    ∃ name, err = .fieldNotFound t.entity.name name := by
  unfold checkNames at h
  split at h
  · cases h
  · cases h
    exact ⟨_, rfl⟩

/-- The names before the first that is not mapped do not matter, nor do those behind it. -/
theorem checkNames_eq_error {before after : List String} {name : String}
    (mapped : ∀ n ∈ before, n ∈ t.entity.properties) (missing : name ∉ t.entity.properties) :
    t.checkNames (before ++ name :: after) = .error (.fieldNotFound t.entity.name name) := by
  have hfirst : t.firstUnmapped? (before ++ name :: after) = some name := by
    refine List.find?_eq_some_iff_append.2 ⟨isNone_field?_iff.2 missing, before, after, rfl, ?_⟩
    intro n hn
    have hsome := mt isNone_field?_iff.1 (not_not.2 (mapped n hn))
    rw [Bool.not_eq_true] at hsome
    rw [hsome]
    rfl
  rw [checkNames, hfirst]

end Table

namespace Scope

theorem state_mention (s : Scope e) (m : Mention) :
    (s.mention m).state = s.state.bind fun t => t.checkNames m.names := by
  cases m with
  | filter p =>
    change s.state.bind _ = _
    congr 1
    funext t
    change (t.validate p).map _ = t.checkNames p.fields
    unfold Table.validate Table.checkNames
    cases t.firstUnmapped? p.fields <;> rfl
  | property name =>
    change s.state.bind _ = _
    congr 1
    funext t
    change ((t.field name).map _).map _ = t.checkNames [name]
    unfold Table.field Table.checkNames Table.firstUnmapped?
    cases hfield : t.field? name with
    | none => simp [hfield, Except.map]
    | some f => simp [hfield, Except.map]

/-- A scope keeps the first fault of its table and of all names that it is told, in their order. -/
theorem state_mentionAll (s : Scope e) (ms : List Mention) :
    (s.mentionAll ms).state = s.state.bind fun t => t.checkNames (ms.flatMap Mention.names) := by
  induction ms generalizing s with
  | nil =>
    change s.state = _
    cases s.state <;> rfl
  | cons m ms ih =>
    have hstep : (s.mentionAll (m :: ms)).state = ((s.mention m).mentionAll ms).state := rfl
    rw [hstep, ih, state_mention, List.flatMap_cons]
    cases s.state with
    | error err => rfl
    | ok t => exact (t.checkNames_append m.names _).symm

theorem state_mentionAll_of_firstFault {ms : List Mention} (typeName : String)
    (routingKey : Option String) (h : FirstFault e d (ms.flatMap Mention.names) err) :
    ((.start typeName (Table.ofEntity e d) routingKey : Scope e).mentionAll ms).state =
      .error err := by
  rw [state_mentionAll, state_start]
  cases h with
  | mapping refused => rw [refused]; rfl
  | unmapped table split mapped missing =>
    rw [table, split]
    obtain ⟨rfl, -⟩ := Table.eq_of_ofEntity table
    exact Table.checkNames_eq_error mapped missing

end Scope

/-! ## What a chain comes to -/

namespace QueryStep

/-- The filters among some calls. -/
def filters (steps : List QueryStep) : List Predicate :=
  (steps.flatMap mentions).filterMap Mention.filter?

/-- What an operation reports that insists on a filter and is given none. -/
def missingFilter? (name operation : String) (steps : List QueryStep) : Option Error :=
  if filters steps = [] then
    some (.unconditional (operation ++ s!" on '{name}' requires at least one filter"))
  else none

/-- What is wrong with the start that counts. -/
def unreadableStart? (steps : List QueryStep) : Option Error :=
  match lastStart? steps with
  | some (.error fault) => some fault.toError
  | _ => none

end QueryStep

namespace QueryTerminal

/-- What a terminal looks at by itself and reports before any fault of the calls: that there is no
filter, or that the page has no start that can be read. -/
def ownFault? (name : String) (steps : List QueryStep) : QueryTerminal → Option Error
  | count | any | first => none
  | toList => QueryStep.missingFilter? name "to_list" steps
  | toPage =>
    (QueryStep.missingFilter? name "to_result" steps).or (QueryStep.unreadableStart? steps)

section Outcome

variable {m : Type → Type} [Monad m]

/-- Run a query and keep only whether it fails. -/
def outcome (q : Query e) (x : Executor m) : QueryTerminal → m (Except Error Unit)
  | count => (·.map fun _ => ()) <$> q.count x
  | any => (·.map fun _ => ()) <$> q.any x
  | first => (·.map fun _ => ()) <$> q.first x
  | toList => (·.map fun _ => ()) <$> q.toList x
  | toPage => (·.map fun _ => ()) <$> q.toPage x

end Outcome

end QueryTerminal

namespace Chain

/-- The statement of the builder of a chain, if nothing but the statement is asked for. -/
def preview (s : Scope e) : Chain → Except Error Statement
  | query steps _ => ((Query.new s).applyAll steps).toStatement
  | update steps => ((Update.new s).applyAll steps).toStatement
  | delete filters => (Deletion.filterAll ⟨s⟩ filters).toStatement

/-- What the last call of a chain misses and reports before any fault of the calls before it. -/
def ownFault? (name : String) : Chain → Option Error
  | query steps terminal => terminal.ownFault? name steps
  | update _ | delete _ => none

/-- Run a chain and keep only whether it fails. -/
def outcome {m : Type → Type} [Monad m] (s : Scope e) (x : Executor m) :
    Chain → m (Except Error Unit)
  | query steps terminal => terminal.outcome ((Query.new s).applyAll steps) x
  | update steps => (·.map fun _ => ()) <$> ((Update.new s).applyAll steps).run x
  | delete filters => (·.map fun _ => ()) <$> (Deletion.filterAll ⟨s⟩ filters).run x

end Chain

/-! ## Chains that are at fault -/

section Fault

variable {m : Type → Type} [Monad m] [LawfulMonad m] {chain : Chain}

/-- A query without a statement fails for the same reason and calls nobody. -/
theorem QueryTerminal.outcome_of_statement {q : Query e} {terminal : QueryTerminal}
    (h : terminal.statement q = .error err) (x : Executor m) :
    terminal.outcome q x = pure (.error err) := by
  cases terminal with
  | count =>
    change q.compileCount = .error err at h
    simp [outcome, Query.count, Query.fetch, h, Except.bind, Except.map]
  | any =>
    change q.compileSelect (some 1) true = .error err at h
    simp [outcome, Query.any, Query.fetch, h, Except.map]
  | first =>
    change q.compileSelect (some 1) false = .error err at h
    simp [outcome, Query.first, Query.fetch, h, Except.bind, Except.map]
  | toList =>
    change q.compileFiltered "to_list" = .error err at h
    simp [outcome, Query.toList, Query.fetch, h, Except.bind, Except.map]
  | toPage =>
    change q.compilePage.map Prod.snd = .error err at h
    cases hpage : q.compilePage with
    | ok page =>
      rw [hpage] at h
      cases h
    | error err' =>
      rw [hpage] at h
      cases h
      simp [outcome, Query.toPage, Query.fetch, hpage, Except.map, bind, Except.bind]

/-- The filter that some calls have given, if an operation cannot do without. -/
theorem Query.requiredFilter_applyAll {s : Scope e} (hs : s.filter = none) (steps : List QueryStep)
    (operation : String) :
    match QueryStep.missingFilter? s.name operation steps with
    | some own =>
      ((Query.new s).applyAll steps).scope.requiredFilter operation = .error own
    | none => ∃ p, ((Query.new s).applyAll steps).scope.requiredFilter operation = .ok p := by
  have hscope : ((Query.new s).applyAll steps).scope =
      s.mentionAll (steps.flatMap QueryStep.mentions) := Query.scope_applyAll _ steps
  have hfilter : (s.mentionAll (steps.flatMap QueryStep.mentions)).filter =
      Predicate.all? (QueryStep.filters steps) := by
    rw [Scope.filter_mentionAll, hs]
    rfl
  rw [hscope, Scope.requiredFilter, hfilter, Scope.name_mentionAll, QueryStep.missingFilter?]
  cases QueryStep.filters steps with
  | nil => rfl
  | cons p rest => exact ⟨_, rfl⟩

/-- The start that some calls have given. -/
theorem Query.resolvedStart_applyAll (s : Scope e) (steps : List QueryStep) :
    match QueryStep.unreadableStart? steps with
    | some own => ((Query.new s).applyAll steps).resolvedStart = .error own
    | none => ∃ start, ((Query.new s).applyAll steps).resolvedStart = .ok start := by
  have hstart : ((Query.new s).applyAll steps).start = QueryStep.lastStart? steps := by
    rw [Query.start_applyAll]
    exact Option.or_none
  rw [resolvedStart, hstart, QueryStep.unreadableStart?]
  match QueryStep.lastStart? steps with
  | none => exact ⟨_, rfl⟩
  | some (.ok offset) => exact ⟨_, rfl⟩
  | some (.error fault) => rfl

/-- What a query comes to whose scope is at fault. -/
theorem QueryTerminal.statement_of_fault {s : Scope e} {steps : List QueryStep}
    (hs : s.filter = none) (h : ((Query.new s).applyAll steps).scope.state = .error err)
    (terminal : QueryTerminal) :
    terminal.statement ((Query.new s).applyAll steps) =
      .error ((terminal.ownFault? s.name steps).getD err) := by
  have hselect : ∀ limit keyOnly,
      ((Query.new s).applyAll steps).compileSelect limit keyOnly = .error err := by
    intro limit keyOnly
    rw [Query.compileSelect_eq, h]
    rfl
  have hfilter := Query.requiredFilter_applyAll hs steps
  cases terminal with
  | count =>
    change ((Query.new s).applyAll steps).compileCount = _
    rw [Query.compileCount, h]
    rfl
  | any => exact hselect _ _
  | first => exact hselect _ _
  | toList =>
    change ((Query.new s).applyAll steps).compileFiltered "to_list" = _
    have hlist := hfilter "to_list"
    rw [Query.compileFiltered, ownFault?]
    cases hown : QueryStep.missingFilter? s.name "to_list" steps with
    | some own =>
      rw [hown] at hlist
      rw [hlist]
      rfl
    | none =>
      rw [hown] at hlist
      obtain ⟨p, hp⟩ := hlist
      rw [hp]
      exact hselect _ _
  | toPage =>
    change ((Query.new s).applyAll steps).compilePage.map Prod.snd = _
    have hpage := hfilter "to_result"
    have hstart := Query.resolvedStart_applyAll s steps
    rw [Query.compilePage, ownFault?]
    cases hown : QueryStep.missingFilter? s.name "to_result" steps with
    | some own =>
      rw [hown] at hpage
      rw [hpage]
      rfl
    | none =>
      rw [hown] at hpage
      obtain ⟨p, hp⟩ := hpage
      rw [hp]
      cases hunreadable : QueryStep.unreadableStart? steps with
      | some own =>
        rw [hunreadable] at hstart
        simp [hstart, bind, Except.bind, Except.map]
      | none =>
        rw [hunreadable] at hstart
        obtain ⟨start, hstart⟩ := hstart
        simp [hstart, Query.toStatement, hselect, bind, Except.bind, Except.map]

namespace Chain

/-- Without a terminal, the fault of the scope is all there is. -/
theorem preview_of_fault {s : Scope e} (h : (chain.scope s).state = .error err) :
    chain.preview s = .error err := by
  cases chain with
  | query steps terminal =>
    have hstate : ((Query.new s).applyAll steps).scope.state = .error err := by
      rw [Query.scope_applyAll]
      exact h
    rw [preview, Query.toStatement, Query.compileSelect_eq, hstate]
    rfl
  | update steps =>
    have hstate : ((Update.new s).applyAll steps).scope.state = .error err := by
      rw [Update.scope_applyAll]
      exact h
    rw [preview, Update.toStatement, hstate]
    rfl
  | delete filters =>
    have hstate : (Deletion.filterAll ⟨s⟩ filters).scope.state = .error err := by
      rw [Deletion.scope_filterAll]
      exact h
    rw [preview, Deletion.toStatement, hstate]
    rfl

/-- A chain whose scope is at fault calls nobody. -/
theorem outcome_of_fault {s : Scope e} (hs : s.filter = none)
    (h : (chain.scope s).state = .error err) (x : Executor m) :
    chain.outcome s x = pure (.error ((chain.ownFault? s.name).getD err)) := by
  have hpreview := preview_of_fault h
  cases chain with
  | query steps terminal =>
    have hstate : ((Query.new s).applyAll steps).scope.state = .error err := by
      rw [Query.scope_applyAll]
      exact h
    exact QueryTerminal.outcome_of_statement (QueryTerminal.statement_of_fault hs hstate terminal) x
  | update steps =>
    rw [preview] at hpreview
    simp [outcome, Update.run, hpreview, Except.map, ownFault?]
  | delete filters =>
    rw [preview] at hpreview
    simp [outcome, Deletion.run, hpreview, Except.map, ownFault?]

end Chain

/-- There is one first fault. -/
theorem FirstFault.unique {names : List String} {err' : Error} (h : FirstFault e d names err)
    (h' : FirstFault e d names err') : err = err' := by
  have hnames : (names.map Mention.property).flatMap Mention.names = names := by
    simp [List.flatMap_map, Mention.names]
  rw [← hnames] at h h'
  have hstate := Scope.state_mentionAll_of_firstFault "" none h
  rw [Scope.state_mentionAll_of_firstFault "" none h'] at hstate
  exact (Except.error.inj hstate).symm

/-- A chain that is at fault reports its first fault and nobody is called, unless its last call has
something to report that is looked at before. To ask for the statement reports the first fault
whatever else is wrong, and so do all last calls but those that read all rows. -/
theorem Chain.outcome_of_flawed (h : Flawed e d chain.names) :
    ∃ err, FirstFault e d chain.names err ∧ ∀ typeName routingKey,
      let s : Scope e := .start typeName (Table.ofEntity e d) routingKey
      chain.preview s = .error err ∧ ∀ x : Executor m,
        chain.outcome s x = pure (.error ((chain.ownFault? s.name).getD err)) := by
  obtain ⟨err, hfirst⟩ := h.exists_firstFault
  refine ⟨err, hfirst, fun typeName routingKey => ?_⟩
  have hstate := Scope.state_mentionAll_of_firstFault typeName routingKey hfirst
  exact ⟨preview_of_fault hstate, outcome_of_fault rfl hstate⟩

end Fault

/-! ## A chain with many faults -/

/-- A new builder for people in PostgreSQL. -/
def peopleScope : Scope (Table.people (.sql .postgres)).entity :=
  .start "Person" (Table.ofEntity (Table.people (.sql .postgres)).entity (.sql .postgres)) none

/-- A start that cannot be read, two names that are not mapped, and no filter. -/
def strayChain (terminal : QueryTerminal) : Chain :=
  .query [.skipCursor "!", .sortBy "nope" true, .select "gone"] terminal

theorem firstFault_strayChain (terminal : QueryTerminal) :
    FirstFault (Table.people (.sql .postgres)).entity (.sql .postgres) (strayChain terminal).names
      (.fieldNotFound "Person" "nope") := by
  have htable : Table.ofEntity (Table.people (.sql .postgres)).entity (.sql .postgres) =
      .ok (.people (.sql .postgres)) := rfl
  have hsplit : (strayChain terminal).names = [] ++ "nope" :: ["gone"] := rfl
  exact .unmapped htable hsplit (fun _ hn => nomatch hn) (by decide)

theorem Chain.outcome_strayChain_any :
    Flawed (Table.people (.sql .postgres)).entity (.sql .postgres) (strayChain .any).names ∧
    ∀ x : Executor Id,
      (strayChain .any).outcome peopleScope x = .error (.fieldNotFound "Person" "nope") := by
  have hflawed : Flawed (Table.people (.sql .postgres)).entity (.sql .postgres)
      (strayChain .any).names := .inr ⟨"nope", by decide, by decide⟩
  obtain ⟨err, hfirst, h⟩ := outcome_of_flawed (m := Id) hflawed
  have herr : err = .fieldNotFound "Person" "nope" :=
    hfirst.unique (firstFault_strayChain .any)
  subst herr
  exact ⟨hflawed, (h "Person" none).2⟩

/-- The first fault of the calls is a name, and what is reported is the missing filter. -/
theorem Chain.outcome_strayChain_toList :
    FirstFault (Table.people (.sql .postgres)).entity (.sql .postgres) (strayChain .toList).names
      (.fieldNotFound "Person" "nope") ∧
    ∀ x : Executor Id,
      (strayChain .toList).outcome peopleScope x =
        .error (.unconditional "to_list on 'Person' requires at least one filter") ∧
      (strayChain .toList).outcome peopleScope x ≠ .error (.fieldNotFound "Person" "nope") := by
  refine ⟨firstFault_strayChain .toList, fun x => ?_⟩
  have hreported : (strayChain .toList).outcome peopleScope x =
      .error (.unconditional "to_list on 'Person' requires at least one filter") :=
    outcome_of_fault (m := Id) rfl
      (Scope.state_mentionAll_of_firstFault "Person" none (firstFault_strayChain .toList)) x
  rw [hreported]
  exact ⟨rfl, nofun⟩

end Sift
