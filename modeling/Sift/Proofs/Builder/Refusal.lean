import Sift.Proofs.Builder.Commuting
import Sift.Proofs.Refusal

/-!
# What is left to refuse

The names in a filter are checked when the filter is added, and resolved again when the statement is
made; so are the names of sort keys, of selected fields and of assignments. A builder that has found
no fault on the way has therefore found all faults of names and of mappings: making the statement can
still fail for the shape of a filter, for a condition that the operation asks for, or for a token,
`Error.Late`, and for nothing else. `Predicate.refused_iff` says this for every chain of calls,
together with what it rests on: which predicates are refused, and which pass the check.
-/
namespace Sift

variable {e : Entity} {t : Table} {err : Error}

/-- The errors that are found no earlier than when a statement is made. -/
inductive Error.Late : Error → Prop
  | unsupported (m : String) : Late (.unsupported m)
  | unconditional (m : String) : Late (.unconditional m)
  | invalidCursor (m : String) : Late (.invalidCursor m)

/-- A builder has found no fault, and every name in its filter has been checked. -/
structure Scope.Clean (s : Scope e) (t : Table) : Prop where
  state : s.state = .ok t
  filter : ∀ p, s.filter = some p → ∀ name ∈ p.fields, name ∈ t.entity.properties

/-- A scope that is told filters and names is clean if it has found no fault. -/
theorem Scope.clean_mentionAll {s : Scope e} (hs : s.filter = none) {ms : List Mention}
    (h : (s.mentionAll ms).state = .ok t) : (s.mentionAll ms).Clean t := by
  refine ⟨h, fun p hp name hname => (state_mentionAll_eq_ok_iff.1 h).2 name ?_⟩
  rw [filter_mentionAll, hs, Option.toList_none, List.nil_append] at hp
  rw [Predicate.fields_of_all? hp] at hname
  exact Mention.mem_names_iff.2 (.inl hname)

namespace Scope.Clean

variable {s : Scope e}

/-- What begins with the table of a clean scope can fail in the rest alone. -/
theorem of_bind {α : Type} {f : Table → Except Error α} (h : s.Clean t)
    (herr : s.state >>= f = .error err) : f t = .error err := by
  rw [h.state] at herr
  exact herr

theorem late_of_ofFilter (h : s.Clean t) (herr : Condition.ofFilter t s.filter = .error err) :
    err.Late := by
  cases hfilter : s.filter with
  | none =>
    rw [hfilter] at herr
    cases herr
  | some p =>
    rw [hfilter, Condition.ofFilter, map_eq_error_iff] at herr
    obtain ⟨m, rfl⟩ := Condition.exists_eq_unsupported herr (h.filter p hfilter)
    exact .unsupported m

/-- A complete plan about the rows of a clean filter can be refused for the filter alone. -/
theorem late_of_compile (h : s.Clean t) {p : Plan} (hcomplete : p.Complete)
    (hfilter : p.filter? = s.filter) (herr : p.compile t = .error err) : err.Late := by
  obtain ⟨f, hf⟩ := Plan.exists_compile_eq_map (t := t) hcomplete
  rw [hf, map_eq_error_iff, hfilter] at herr
  exact h.late_of_ofFilter herr

theorem late_of_requiredFilter {operation : String}
    (herr : s.requiredFilter operation = .error err) : err.Late := by
  unfold requiredFilter at herr
  split at herr
  · cases herr
  · cases herr
    exact .unconditional _

end Scope.Clean

/-! ## Queries -/

namespace Query

variable {q : Query e}

theorem late_of_resolvedStart (herr : q.resolvedStart = .error err) : err.Late := by
  unfold resolvedStart at herr
  split at herr
  · cases herr
  · cases herr
  · cases herr
    exact .invalidCursor _

theorem late_of_compileSelect (hq : q.Resolved) (h : q.scope.Clean t) {limit : Option UInt64}
    {keyOnly : Bool} (herr : q.compileSelect limit keyOnly = .error err) : err.Late := by
  obtain ⟨horder, hselected⟩ := hq t h.state
  obtain ⟨columns, hcolumns⟩ : ∃ columns, q.readFields t keyOnly = .ok columns := by
    cases keyOnly with
    | true => exact ⟨_, rfl⟩
    | false => exact exists_projection hselected
  obtain ⟨order, horder⟩ := exists_sortKeys horder
  rw [compileSelect_eq] at herr
  obtain hstart | ⟨start, -, herr⟩ := bind_eq_error_iff.1 (h.of_bind herr)
  · exact late_of_resolvedStart hstart
  · rw [hcolumns, horder] at herr
    have hcomplete : (Plan.select ⟨q.scope.filter, columns, order, start, limit⟩).Complete :=
      readFields_ne_nil hcolumns
    exact h.late_of_compile hcomplete rfl herr

theorem late_of_statement (hq : q.Resolved) (h : q.scope.Clean t) {terminal : QueryTerminal}
    (herr : terminal.statement q = .error err) : err.Late := by
  cases terminal with
  | count =>
    exact h.late_of_compile (p := .count q.scope.filter) trivial rfl (h.of_bind herr)
  | any => exact late_of_compileSelect hq h herr
  | first => exact late_of_compileSelect hq h herr
  | toList =>
    obtain hfilter | ⟨_, _, herr⟩ := bind_eq_error_iff.1 herr
    · exact Scope.Clean.late_of_requiredFilter hfilter
    · exact late_of_compileSelect hq h herr
  | toPage =>
    obtain hfilter | ⟨_, _, herr⟩ := bind_eq_error_iff.1 (map_eq_error_iff.1 herr)
    · exact Scope.Clean.late_of_requiredFilter hfilter
    · obtain hstart | ⟨start, _, herr⟩ := bind_eq_error_iff.1 herr
      · exact late_of_resolvedStart hstart
      · obtain hselect | ⟨s, _, herr⟩ := bind_eq_error_iff.1 herr
        · exact late_of_compileSelect hq h hselect
        · cases herr

end Query

/-! ## Updates and deletions -/

theorem Update.late_of_toStatement {u : Update e} (hu : u.Resolved) (h : u.scope.Clean t)
    (herr : u.toStatement = .error err) : err.Late := by
  obtain ⟨assigned, hassigned⟩ := exists_assignedFields (hu t h.state)
  obtain hfilter | ⟨p, hp, herr⟩ := bind_eq_error_iff.1 (h.of_bind herr)
  · exact Scope.Clean.late_of_requiredFilter hfilter
  · by_cases hempty : u.assigned.columns = []
    · rw [if_pos (Record.isEmpty_iff.2 hempty)] at herr
      cases herr
      exact .unconditional _
    · rw [if_neg (mt Record.isEmpty_iff.1 hempty)] at herr
      obtain hfields | ⟨assigned', hassigned', herr⟩ := bind_eq_error_iff.1 herr
      · cases hassigned.symm.trans hfields
      · have hcomplete : (Plan.update p assigned').Complete :=
          assignedFields_ne_nil hassigned' hempty
        exact h.late_of_compile hcomplete (Scope.requiredFilter_eq_ok_iff.1 hp).symm herr

theorem Deletion.late_of_toStatement {d : Deletion e} (h : d.scope.Clean t)
    (herr : d.toStatement = .error err) : err.Late := by
  obtain hfilter | ⟨p, hp, herr⟩ := bind_eq_error_iff.1 (h.of_bind herr)
  · exact Scope.Clean.late_of_requiredFilter hfilter
  · exact h.late_of_compile (p := .delete p) trivial (Scope.requiredFilter_eq_ok_iff.1 hp).symm herr

/-! ## Chains -/

/-- A chain that has found no fault can be refused for late errors alone, by the call that is to run
it and by asking for its statement. -/
theorem Chain.late_of_error {chain : Chain} {s : Scope e} (hs : s.filter = none)
    (h : (chain.scope s).state = .ok t)
    (herr : chain.statement s = .error err ∨ chain.preview s = .error err) : err.Late := by
  have hclean : (chain.scope s).Clean t := Scope.clean_mentionAll hs h
  cases chain with
  | query steps terminal =>
    have hq := (Query.resolved_new s).applyAll steps
    have hscope : ((Query.new s).applyAll steps).scope.Clean t := by
      rw [Query.scope_applyAll]
      exact hclean
    obtain herr | herr := herr
    · exact Query.late_of_statement hq hscope herr
    · exact Query.late_of_compileSelect hq hscope herr
  | update steps =>
    have hu := (Update.resolved_new s).applyAll steps
    have hscope : ((Update.new s).applyAll steps).scope.Clean t := by
      rw [Update.scope_applyAll]
      exact hclean
    exact Update.late_of_toStatement hu hscope (herr.elim id id)
  | delete filters =>
    have hscope : (Deletion.filterAll ⟨s⟩ filters).scope.Clean t := by
      rw [Deletion.scope_filterAll]
      exact hclean
    exact Deletion.late_of_toStatement hscope (herr.elim id id)

/-- A predicate is accepted if all its leaves have a meaning, and is otherwise refused for its first
fault. It passes the check if all its names are mapped, so a name that is not found when it is lowered
has been found out by the check. What has been checked call by call is not refused again: a chain
without a fault can only be refused for late errors, whichever dialect it is for. -/
theorem Predicate.refused_iff (t : Table) (p : Predicate) (e : Entity) (d : Dialect)
    (typeName : String) (routingKey : Option String) (chain : Chain) :
    ((∃ c, Condition.ofPredicate t p = .ok c) ↔ ∀ leaf ∈ p.leaves, leaf.Supported t) ∧
    (∀ err, Condition.ofPredicate t p = .error err ↔ p.FirstFault t err) ∧
    (t.validate p = .ok () ↔ ∀ name ∈ p.fields, name ∈ t.entity.properties) ∧
    (∀ entity name, Condition.ofPredicate t p = .error (.fieldNotFound entity name) →
      ∃ unmapped, t.validate p = .error (.fieldNotFound t.entity.name unmapped)) ∧
    ∀ table, (chain.scope (Scope.ofEntity e d typeName routingKey)).state = .ok table →
      ∀ err, chain.statement (Scope.ofEntity e d typeName routingKey) = .error err ∨
        chain.preview (Scope.ofEntity e d typeName routingKey) = .error err → err.Late := by
  refine ⟨Condition.exists_ofPredicate_iff, fun err => Condition.ofPredicate_eq_error_iff,
    Table.validate_eq_ok_iff, fun entity name h => ?_, fun table hstate err herr => ?_⟩
  · cases hvalid : t.validate p with
    | ok =>
      obtain ⟨m, hm⟩ := Condition.exists_eq_unsupported h (Table.validate_eq_ok_iff.1 hvalid)
      cases hm
    | error err =>
      unfold Table.validate at hvalid
      split at hvalid
      · cases hvalid
        exact ⟨_, rfl⟩
      · cases hvalid
  · exact Chain.late_of_error rfl hstate herr

/-- `pickyPredicate`, then a match on a number with a pattern that is no text, then two fields. -/
def faultyPredicate : Predicate :=
  .or (.and pickyPredicate (.textMatch "age" (.int 1) .contains false))
    (.comparison .eq (.field "id") (.field "nope"))

/-- A page of names in the order of ages, of whoever has an age that contains a number. -/
def clumsyChain : Chain :=
  .query [.select "name", .filter (.textMatch "age" (.int 1) .contains false), .sortBy "age" true]
    .toPage

/-- The predicate is refused for its fifth leaf, and there for the field before the pattern, though
its last leaf names a field that does not exist. -/
theorem Predicate.refused_faultyPredicate :
    Condition.ofPredicate (.people .document) faultyPredicate =
      .error (.unsupported "text match on non-text field 'age': age.contains(1)") ∧
    faultyPredicate.FirstFault (.people .document)
      (.unsupported "text match on non-text field 'age': age.contains(1)") ∧
    (clumsyChain.scope
      (Scope.ofEntity (Table.people .document).entity .document "P" none)).state =
        .ok (.people .document) ∧
    ∃ err : Error, clumsyChain.statement
      (Scope.ofEntity (Table.people .document).entity .document "P" none) = .error err ∧
      err.Late := by
  obtain ⟨-, hfault, -, -, hlate⟩ := Predicate.refused_iff (.people .document) faultyPredicate
    (Table.people .document).entity .document "P" none clumsyChain
  have hrefused : Condition.ofPredicate (.people .document) faultyPredicate =
      .error (.unsupported "text match on non-text field 'age': age.contains(1)") := rfl
  exact ⟨hrefused, (hfault _).1 hrefused, rfl, _, rfl, hlate _ rfl _ (.inl rfl)⟩

end Sift
