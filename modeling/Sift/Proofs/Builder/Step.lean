import Sift.Builder.Update
import Sift.Proofs.Builder.Query
import Sift.Proofs.Record

/-!
# Calls of a builder, one after the other

Whatever a builder is told, its scope hears of filters and of properties only; a `Mention` is one or
the other. What is known of a scope after some mentions, which of them were filters and whether all
their names are mapped, is therefore known after any calls of any builder. A query and an update
also keep names; as long as their scope has found no fault, these names are mapped, and one call
after the other keeps it so: `Query.Resolved` and `Update.Resolved`.
-/
namespace Sift

variable {e : Entity} {t : Table}

/-! ## What a scope is told -/

/-- A filter or a property that a builder is told about. -/
inductive Mention where
  | filter (p : Predicate)
  | property (name : String)

namespace Mention

/-- The names in a mention. -/
def names : Mention → List String
  | filter p => p.fields
  | property name => [name]

/-- The filter of a mention. -/
def filter? : Mention → Option Predicate
  | filter p => some p
  | property _ => none

end Mention

theorem Table.isNone_field?_iff {name : String} :
    (t.field? name).isNone = true ↔ name ∉ t.entity.properties := by
  rw [← Table.exists_field_iff, ← Option.isSome_iff_exists, Option.isNone_iff_eq_none,
    Option.not_isSome_iff_eq_none]

/-- No name is the first that is not mapped if all are. -/
theorem Table.firstUnmapped?_eq_none_iff {names : List String} :
    t.firstUnmapped? names = none ↔ ∀ name ∈ names, name ∈ t.entity.properties := by
  rw [Table.firstUnmapped?, List.find?_eq_none]
  exact forall₂_congr fun name _ => (not_congr Table.isNone_field?_iff).trans not_not

/-- A predicate passes the check if all its names are mapped. -/
theorem Table.validate_eq_ok_iff {p : Predicate} :
    t.validate p = .ok () ↔ ∀ name ∈ p.fields, name ∈ t.entity.properties := by
  rw [← Table.firstUnmapped?_eq_none_iff]
  unfold Table.validate
  cases t.firstUnmapped? p.fields with
  | some name => simp
  | none => simp

namespace Scope

variable {s : Scope e}

theorem state_check_eq_ok_iff {test : Table → Except Error Unit} :
    (s.check test).state = .ok t ↔ s.state = .ok t ∧ test t = .ok () := by
  unfold check
  cases s.state with
  | error err =>
    constructor
    · intro h
      cases h
    · rintro ⟨h, -⟩
      cases h
  | ok t' =>
    change (test t').map (fun _ => t') = .ok t ↔ _
    rw [map_eq_ok_iff]
    constructor
    · rintro ⟨⟨⟩, htest, rfl⟩
      exact ⟨rfl, htest⟩
    · rintro ⟨h, htest⟩
      cases h
      exact ⟨(), htest, rfl⟩

/-- Tell a scope about a filter or a property. -/
def mention (s : Scope e) : Mention → Scope e
  | .filter p => s.addFilter p
  | .property name => s.checkField name

/-- Tell a scope several things in order. -/
def mentionAll (s : Scope e) (ms : List Mention) : Scope e := ms.foldl mention s

theorem mentionAll_append (s : Scope e) (ms ns : List Mention) :
    s.mentionAll (ms ++ ns) = (s.mentionAll ms).mentionAll ns :=
  List.foldl_append

/-- A scope without a fault stays so if all names that it is told are mapped. -/
theorem state_mention_eq_ok_iff {m : Mention} :
    (s.mention m).state = .ok t ↔
      s.state = .ok t ∧ ∀ name ∈ m.names, name ∈ t.entity.properties := by
  cases m with
  | filter p =>
    have hcheck : (s.mention (.filter p)).state = (s.check fun t => t.validate p).state := rfl
    rw [hcheck, state_check_eq_ok_iff, Table.validate_eq_ok_iff]
    rfl
  | property name =>
    have hfield : (t.field name).map (fun _ => ()) = .ok () ↔ name ∈ t.entity.properties := by
      rw [map_eq_ok_iff, ← Table.exists_field_iff]
      simp only [Table.field_eq_ok_iff, and_true]
    have hcheck : (s.mention (.property name)).state =
        (s.check fun t => (t.field name).map fun _ => ()).state := rfl
    rw [hcheck, state_check_eq_ok_iff, hfield]
    simp [Mention.names]

theorem state_mentionAll_eq_ok_iff {ms : List Mention} :
    (s.mentionAll ms).state = .ok t ↔
      s.state = .ok t ∧ ∀ name ∈ ms.flatMap Mention.names, name ∈ t.entity.properties := by
  induction ms generalizing s with
  | nil => simp [mentionAll]
  | cons m ms ih =>
    have hstep : (s.mentionAll (m :: ms)).state = ((s.mention m).mentionAll ms).state := rfl
    rw [hstep, ih, state_mention_eq_ok_iff, List.flatMap_cons, and_assoc]
    simp only [List.mem_append, or_imp, forall_and]

/-- The filter of a scope is all filters that it was told. -/
theorem filter_mentionAll (s : Scope e) (ms : List Mention) :
    (s.mentionAll ms).filter =
      Predicate.all? (s.filter.toList ++ ms.filterMap Mention.filter?) := by
  induction ms generalizing s with
  | nil =>
    rw [List.filterMap_nil, List.append_nil]
    cases hfilter : s.filter with
    | none => exact hfilter
    | some p => exact hfilter
  | cons m ms ih =>
    have hstep : (s.mentionAll (m :: ms)).filter = ((s.mention m).mentionAll ms).filter := rfl
    rw [hstep, ih]
    cases m with
    | property name => rfl
    | filter p =>
      cases hs : s.filter with
      | none =>
        have hfilter : (s.mention (.filter p)).filter = some p := by simp [mention, addFilter, hs]
        rw [hfilter]
        rfl
      | some q =>
        have hfilter : (s.mention (.filter p)).filter = some (.and q p) := by
          simp [mention, addFilter, hs]
        rw [hfilter]
        rfl

/-- The same scope under another name and another routing key. -/
def renamed (s : Scope e) (name : String) (routingKey : Option String) : Scope e :=
  { s with name := name, routingKey := routingKey }

theorem mention_renamed (s : Scope e) (m : Mention) (name : String) (key : Option String) :
    (s.renamed name key).mention m = (s.mention m).renamed name key := by
  cases m <;> rfl

theorem mentionAll_renamed (s : Scope e) (ms : List Mention) (name : String)
    (key : Option String) :
    (s.renamed name key).mentionAll ms = (s.mentionAll ms).renamed name key := by
  induction ms generalizing s with
  | nil => rfl
  | cons m ms ih =>
    have hstep : (s.renamed name key).mentionAll (m :: ms) =
        ((s.renamed name key).mention m).mentionAll ms := rfl
    rw [hstep, mention_renamed]
    exact ih (s.mention m)

theorem name_mentionAll (s : Scope e) (ms : List Mention) : (s.mentionAll ms).name = s.name := by
  induction ms generalizing s with
  | nil => rfl
  | cons m ms ih =>
    have hname : (s.mention m).name = s.name := by cases m <;> rfl
    exact (ih (s.mention m)).trans hname

theorem routingKey_mentionAll (s : Scope e) (ms : List Mention) :
    (s.mentionAll ms).routingKey = s.routingKey := by
  induction ms generalizing s with
  | nil => rfl
  | cons m ms ih =>
    have hkey : (s.mention m).routingKey = s.routingKey := by cases m <;> rfl
    exact (ih (s.mention m)).trans hkey

/-- What a builder is told has no part in the context of its calls. -/
theorem context_mentionAll (s : Scope e) (ms : List Mention) (kind : StatementKind)
    (access : Access) : (s.mentionAll ms).context kind access = s.context kind access := by
  rw [context, context, name_mentionAll, routingKey_mentionAll]

end Scope

/-! ## Calls of a query -/

/-- One call of a query under construction. -/
inductive QueryStep where
  | filter (p : Predicate)
  | sortBy (property : String) (ascending : Bool)
  | select (property : String)
  | unselect (property : String)
  | skip (offset : UInt64)
  | skipCursor (token : String)
  | take (limit : UInt64)

namespace QueryStep

/-- What the scope hears of a call. -/
def mentions : QueryStep → List Mention
  | filter p => [.filter p]
  | sortBy property _ | select property | unselect property => [.property property]
  | skip _ | skipCursor _ | take _ => []

/-- The start that a call gives, readable or not. -/
def start? : QueryStep → Option (Except CursorFault UInt64)
  | skip offset => some (.ok offset)
  | skipCursor token => some (Cursor.decode token)
  | _ => none

/-- The last start that is given. -/
def lastStart? (steps : List QueryStep) : Option (Except CursorFault UInt64) :=
  (steps.filterMap start?).getLast?

/-- Of what some calls give the last counts. -/
theorem getLast?_filterMap_cons {α : Type} (give? : QueryStep → Option α) (step : QueryStep)
    (steps : List QueryStep) :
    ((step :: steps).filterMap give?).getLast? =
      (steps.filterMap give?).getLast?.or (give? step) := by
  cases hgive : give? step with
  | none => rw [List.filterMap_cons_none hgive, Option.or_none]
  | some a =>
    rw [List.filterMap_cons_some hgive, List.getLast?_cons]
    cases (steps.filterMap give?).getLast? with
    | none => rfl
    | some later => rfl

end QueryStep

namespace Query

variable {q : Query e}

/-- Make one call. -/
def apply (q : Query e) : QueryStep → Query e
  | .filter p => q.filter p
  | .sortBy property ascending => q.sortBy property ascending
  | .select property => q.select property
  | .unselect property => q.unselect property
  | .skip offset => q.skip offset
  | .skipCursor token => q.skipCursor token
  | .take limit => q.take limit

/-- Make several calls in order. -/
def applyAll (q : Query e) (steps : List QueryStep) : Query e := steps.foldl apply q

theorem scope_apply (q : Query e) (step : QueryStep) :
    (q.apply step).scope = q.scope.mentionAll step.mentions := by
  cases step <;> rfl

theorem scope_applyAll (q : Query e) (steps : List QueryStep) :
    (q.applyAll steps).scope = q.scope.mentionAll (steps.flatMap QueryStep.mentions) := by
  induction steps generalizing q with
  | nil => rfl
  | cons step steps ih =>
    have hstep : (q.applyAll (step :: steps)).scope = ((q.apply step).applyAll steps).scope := rfl
    rw [hstep, ih, scope_apply, List.flatMap_cons, Scope.mentionAll_append]

theorem context_applyAll (q : Query e) (steps : List QueryStep) (kind : StatementKind)
    (access : Access) :
    (q.applyAll steps).scope.context kind access = q.scope.context kind access := by
  rw [scope_applyAll, Scope.context_mentionAll]

/-- What every call overwrites that gives it is what the last of them gave. -/
theorem overwritten_applyAll {α : Type} (get : Query e → Option α) (give? : QueryStep → Option α)
    (h : ∀ (q : Query e) (step : QueryStep), get (q.apply step) = (give? step).or (get q))
    (q : Query e) (steps : List QueryStep) :
    get (q.applyAll steps) = (steps.filterMap give?).getLast?.or (get q) := by
  induction steps generalizing q with
  | nil => rfl
  | cons step steps ih =>
    have hstep : get (q.applyAll (step :: steps)) = get ((q.apply step).applyAll steps) := rfl
    rw [hstep, ih, h, QueryStep.getLast?_filterMap_cons, Option.or_assoc]

/-- The last start counts. -/
theorem start_applyAll (q : Query e) (steps : List QueryStep) :
    (q.applyAll steps).start = (QueryStep.lastStart? steps).or q.start :=
  overwritten_applyAll Query.start QueryStep.start? (fun _ step => by cases step <;> rfl) q steps

/-- The names that a query keeps are mapped if its scope has found no fault. -/
def Resolved (q : Query e) : Prop :=
  ∀ t, q.scope.state = .ok t →
    (∀ k ∈ q.order, k.1 ∈ t.entity.properties) ∧ ∀ name ∈ q.selected, name ∈ t.entity.properties

theorem resolved_new (s : Scope e) : (new s).Resolved := by
  intro t _
  constructor
  · intro k hk
    cases hk
  · intro name hname
    cases hname

theorem Resolved.apply (h : q.Resolved) (step : QueryStep) : (q.apply step).Resolved := by
  intro t ht
  rw [scope_apply, Scope.state_mentionAll_eq_ok_iff] at ht
  obtain ⟨hbefore, hnames⟩ := ht
  obtain ⟨horder, hselected⟩ := h t hbefore
  cases step with
  | sortBy property ascending =>
    refine ⟨?_, hselected⟩
    intro k hk
    rcases List.mem_append.1 hk with hk | hk
    · exact horder k hk
    · obtain rfl := List.mem_singleton.1 hk
      exact hnames property (by simp [QueryStep.mentions, Mention.names])
  | select property =>
    refine ⟨horder, ?_⟩
    intro name hname
    rcases List.mem_append.1 hname with hname | hname
    · exact hselected name hname
    · obtain rfl := List.mem_singleton.1 hname
      exact hnames name (by simp [QueryStep.mentions, Mention.names])
  | filter p => exact ⟨horder, hselected⟩
  | unselect property => exact ⟨horder, hselected⟩
  | skip offset => exact ⟨horder, hselected⟩
  | skipCursor token => exact ⟨horder, hselected⟩
  | take limit => exact ⟨horder, hselected⟩

theorem Resolved.applyAll (h : q.Resolved) (steps : List QueryStep) :
    (q.applyAll steps).Resolved := by
  induction steps generalizing q with
  | nil => exact h
  | cons step steps ih => exact ih (h.apply step)

/-- The same query under another name and another routing key. -/
def renamed (q : Query e) (name : String) (routingKey : Option String) : Query e :=
  { q with scope := q.scope.renamed name routingKey }

theorem applyAll_renamed (q : Query e) (steps : List QueryStep) (name : String)
    (key : Option String) :
    (q.renamed name key).applyAll steps = (q.applyAll steps).renamed name key := by
  induction steps generalizing q with
  | nil => rfl
  | cons step steps ih =>
    have hcall : (q.renamed name key).apply step = (q.apply step).renamed name key := by
      cases step <;> rfl
    have hstep : (q.renamed name key).applyAll (step :: steps) =
        ((q.renamed name key).apply step).applyAll steps := rfl
    rw [hstep, hcall]
    exact ih (q.apply step)

end Query

/-! ## Calls of an update -/

/-- One call of an update under construction. -/
inductive UpdateStep where
  | filter (p : Predicate)
  | set (property : String) (v : Value)
  | setMany (values : List (String × Value))

namespace UpdateStep

/-- What a call assigns. -/
def assignments : UpdateStep → List (String × Value)
  | filter _ => []
  | set property v => [(property, v)]
  | setMany values => values

/-- What the scope hears of a call. -/
def mentions : UpdateStep → List Mention
  | filter p => [.filter p]
  | step => step.assignments.map fun cell => .property cell.1

end UpdateStep

namespace Update

variable {u : Update e}

/-- Make one call. -/
def apply (u : Update e) : UpdateStep → Update e
  | .filter p => u.filter p
  | .set property v => u.set property v
  | .setMany values => u.setMany values

/-- Make several calls in order. -/
def applyAll (u : Update e) (steps : List UpdateStep) : Update e := steps.foldl apply u

theorem scope_setMany (u : Update e) (values : List (String × Value)) :
    (u.setMany values).scope = u.scope.mentionAll (values.map fun cell => .property cell.1) := by
  induction values generalizing u with
  | nil => rfl
  | cons cell rest ih =>
    obtain ⟨property, v⟩ := cell
    rw [setMany_cons, ih]
    rfl

theorem scope_apply (u : Update e) (step : UpdateStep) :
    (u.apply step).scope = u.scope.mentionAll step.mentions := by
  cases step with
  | filter p => rfl
  | set property v => rfl
  | setMany values => exact u.scope_setMany values

theorem scope_applyAll (u : Update e) (steps : List UpdateStep) :
    (u.applyAll steps).scope = u.scope.mentionAll (steps.flatMap UpdateStep.mentions) := by
  induction steps generalizing u with
  | nil => rfl
  | cons step steps ih =>
    have hstep : (u.applyAll (step :: steps)).scope = ((u.apply step).applyAll steps).scope := rfl
    rw [hstep, ih, scope_apply, List.flatMap_cons, Scope.mentionAll_append]

theorem context_applyAll (u : Update e) (steps : List UpdateStep) (kind : StatementKind)
    (access : Access) :
    (u.applyAll steps).scope.context kind access = u.scope.context kind access := by
  rw [scope_applyAll, Scope.context_mentionAll]

/-- The names that an update keeps are mapped if its scope has found no fault. -/
def Resolved (u : Update e) : Prop :=
  ∀ t, u.scope.state = .ok t → ∀ cell ∈ u.assigned.columns, cell.1 ∈ t.entity.properties

theorem resolved_new (s : Scope e) : (new s).Resolved := by
  intro t _ cell hcell
  cases hcell

theorem Resolved.set (h : u.Resolved) (property : String) (v : Value) :
    (u.set property v).Resolved := by
  intro t ht cell hcell
  have hstate : (u.scope.mention (.property property)).state = .ok t := ht
  obtain ⟨hbefore, hnames⟩ := Scope.state_mention_eq_ok_iff.1 hstate
  rcases Record.mem_setIn hcell with hcolumn | hmem
  · rw [hcolumn]
    exact hnames property (List.mem_singleton.2 rfl)
  · exact h t hbefore cell hmem

theorem Resolved.setMany (h : u.Resolved) (values : List (String × Value)) :
    (u.setMany values).Resolved := by
  induction values generalizing u with
  | nil => exact h
  | cons cell rest ih =>
    obtain ⟨property, v⟩ := cell
    rw [setMany_cons]
    exact ih (h.set property v)

theorem Resolved.apply (h : u.Resolved) (step : UpdateStep) : (u.apply step).Resolved := by
  cases step with
  | filter p =>
    intro t ht
    have hstate : (u.scope.mention (.filter p)).state = .ok t := ht
    exact h t (Scope.state_mention_eq_ok_iff.1 hstate).1
  | set property v => exact h.set property v
  | setMany values => exact h.setMany values

theorem Resolved.applyAll (h : u.Resolved) (steps : List UpdateStep) :
    (u.applyAll steps).Resolved := by
  induction steps generalizing u with
  | nil => exact h
  | cons step steps ih => exact ih (h.apply step)

theorem columns_setMany_eq_nil_iff {values : List (String × Value)} :
    (u.setMany values).assigned.columns = [] ↔ u.assigned.columns = [] ∧ values = [] := by
  induction values generalizing u with
  | nil => simp
  | cons cell rest ih =>
    obtain ⟨property, v⟩ := cell
    have hset : (u.set property v).assigned.columns ≠ [] :=
      Record.setIn_ne_nil property v u.assigned.columns
    rw [setMany_cons, ih]
    simp [hset]

/-- An update assigns nothing only if none of its calls does. -/
theorem columns_applyAll_eq_nil_iff {steps : List UpdateStep} :
    (u.applyAll steps).assigned.columns = [] ↔
      u.assigned.columns = [] ∧ steps.flatMap UpdateStep.assignments = [] := by
  induction steps generalizing u with
  | nil => simp [applyAll]
  | cons step steps ih =>
    have hcall : (u.apply step).assigned.columns = [] ↔
        u.assigned.columns = [] ∧ step.assignments = [] := by
      cases step with
      | filter p =>
        have hsame : (u.apply (.filter p)).assigned = u.assigned := rfl
        simp [hsame, UpdateStep.assignments]
      | set property v =>
        change (u.setMany [(property, v)]).assigned.columns = [] ↔ _ ∧ [(property, v)] = []
        exact columns_setMany_eq_nil_iff
      | setMany values => exact columns_setMany_eq_nil_iff
    have hstep : (u.applyAll (step :: steps)).assigned =
        ((u.apply step).applyAll steps).assigned := rfl
    rw [hstep, ih, hcall, List.flatMap_cons, List.append_eq_nil_iff, and_assoc]

/-- The same update under another name and another routing key. -/
def renamed (u : Update e) (name : String) (routingKey : Option String) : Update e :=
  { u with scope := u.scope.renamed name routingKey }

theorem setMany_renamed (u : Update e) (values : List (String × Value)) (name : String)
    (key : Option String) :
    (u.renamed name key).setMany values = (u.setMany values).renamed name key := by
  induction values generalizing u with
  | nil => rfl
  | cons cell rest ih =>
    obtain ⟨property, v⟩ := cell
    have hcall : (u.renamed name key).set property v = (u.set property v).renamed name key := rfl
    rw [setMany_cons, setMany_cons, hcall]
    exact ih (u.set property v)

theorem applyAll_renamed (u : Update e) (steps : List UpdateStep) (name : String)
    (key : Option String) :
    (u.renamed name key).applyAll steps = (u.applyAll steps).renamed name key := by
  induction steps generalizing u with
  | nil => rfl
  | cons step steps ih =>
    have hcall : (u.renamed name key).apply step = (u.apply step).renamed name key := by
      cases step with
      | filter p => rfl
      | set property v => rfl
      | setMany values => exact u.setMany_renamed values name key
    have hstep : (u.renamed name key).applyAll (step :: steps) =
        ((u.renamed name key).apply step).applyAll steps := rfl
    rw [hstep, hcall]
    exact ih (u.apply step)

end Update

/-! ## Calls of a deletion -/

namespace Deletion

/-- Add several filters in order. -/
def filterAll (d : Deletion e) (filters : List Predicate) : Deletion e := filters.foldl filter d

theorem scope_filterAll (d : Deletion e) (filters : List Predicate) :
    (d.filterAll filters).scope = d.scope.mentionAll (filters.map Mention.filter) := by
  induction filters generalizing d with
  | nil => rfl
  | cons p rest ih => exact ih (d.filter p)

end Deletion

end Sift
