import Sift.Proofs.Builder.Step

/-!
# When a builder has a statement

A builder has a statement if its table is there, if its filter can be lowered, and if it has what
its operation cannot do without: a filter, an assignment, a start that can be read. The names that
it keeps are no obstacle, `Query.Resolved` and `Update.Resolved`. The statement is that of a plan
for the rows of the filter, `Scope.Planned`.
-/
namespace Sift

variable {e : Entity} {t : Table} {s : Statement}

/-- A statement is that of a plan of some kind, about the rows of a scope's filter. -/
def Scope.Planned (scope : Scope e) (kind : StatementKind) (s : Statement) : Prop :=
  ∃ (t : Table) (p : Plan), scope.state = .ok t ∧ p.filter? = scope.filter ∧ p.kind = kind ∧
    p.Complete ∧ p.compile t = .ok s

/-- The filter of a scope with such a statement can be lowered. -/
theorem Scope.Planned.exists_ofFilter {scope : Scope e} {kind : StatementKind}
    (h : scope.Planned kind s) :
    ∃ t c, scope.state = .ok t ∧ Condition.ofFilter t scope.filter = .ok c := by
  obtain ⟨t, p, ht, hfilter, -, hcomplete, hs⟩ := h
  obtain ⟨c, hc⟩ := Plan.ofFilter_of_compile hcomplete hs
  rw [hfilter] at hc
  exact ⟨t, c, ht, hc⟩

namespace Query

variable {q : Query e}

theorem planned_of_compileSelect {limit : Option UInt64} {keyOnly : Bool}
    (h : q.compileSelect limit keyOnly = .ok s) : q.scope.Planned .select s := by
  obtain ⟨t, start, columns, order, ht, -, hcolumns, -, hs⟩ := compileSelect_eq_ok_iff.1 h
  exact ⟨t, .select ⟨q.scope.filter, columns, order, start, limit⟩, ht, rfl, rfl,
    readFields_ne_nil hcolumns, hs⟩

theorem planned_of_compileCount (h : q.compileCount = .ok s) : q.scope.Planned .count s := by
  obtain ⟨t, ht, hs⟩ := bind_eq_ok_iff.1 h
  exact ⟨t, .count q.scope.filter, ht, rfl, rfl, trivial, hs⟩

/-- A query whose names are mapped has a statement if its start can be read and its filter can be
lowered. -/
theorem exists_compileSelect (hq : q.Resolved) (limit : Option UInt64) (keyOnly : Bool)
    {c : Option Condition} {start : Option UInt64} (ht : q.scope.state = .ok t)
    (hc : Condition.ofFilter t q.scope.filter = .ok c) (hstart : q.resolvedStart = .ok start) :
    ∃ s, q.compileSelect limit keyOnly = .ok s := by
  obtain ⟨horder, hselected⟩ := hq t ht
  obtain ⟨order, horder⟩ := exists_sortKeys horder
  obtain ⟨columns, hcolumns⟩ : ∃ columns, q.readFields t keyOnly = .ok columns := by
    cases keyOnly with
    | true => exact ⟨_, rfl⟩
    | false => exact exists_projection hselected
  have hcomplete : (Plan.select ⟨q.scope.filter, columns, order, start, limit⟩).Complete :=
    readFields_ne_nil hcolumns
  obtain ⟨s, hs, -⟩ := Plan.exists_compile hcomplete hc
  exact ⟨s, compileSelect_eq_ok_iff.2 ⟨t, start, columns, order, ht, hstart, hcolumns, horder, hs⟩⟩

theorem exists_compileCount {c : Option Condition} (ht : q.scope.state = .ok t)
    (hc : Condition.ofFilter t q.scope.filter = .ok c) : ∃ s, q.compileCount = .ok s := by
  obtain ⟨s, hs, -⟩ := Plan.exists_compile (p := .count q.scope.filter) trivial hc
  exact ⟨s, bind_eq_ok_iff.2 ⟨t, ht, hs⟩⟩

end Query

namespace Update

variable {u : Update e}

/-- The fields that an update assigns, with their values. -/
def assignedFields (u : Update e) (t : Table) : Except Error (List (Field × Value)) :=
  u.assigned.columns.mapM fun cell => do
    let f ← t.field cell.1
    .ok (f, cell.2)

/-- An update has a statement if it has a filter and assigns something, and if all parts of its plan
are there and the plan has a statement. -/
theorem toStatement_eq_ok_iff :
    u.toStatement = .ok s ↔
      ∃ t p assigned, u.scope.state = .ok t ∧ u.scope.filter = some p ∧
        u.assigned.columns ≠ [] ∧ u.assignedFields t = .ok assigned ∧
        Plan.compile t (.update p assigned) = .ok s := by
  unfold toStatement
  simp only [bind_eq_ok_iff, Scope.requiredFilter_eq_ok_iff]
  constructor
  · rintro ⟨t, ht, p, hp, h⟩
    by_cases hempty : u.assigned.columns = []
    · rw [if_pos (Record.isEmpty_iff.2 hempty)] at h
      cases h
    · rw [if_neg (mt Record.isEmpty_iff.1 hempty)] at h
      obtain ⟨assigned, hassigned, hs⟩ := bind_eq_ok_iff.1 h
      exact ⟨t, p, assigned, ht, hp, hempty, hassigned, hs⟩
  · rintro ⟨t, p, assigned, ht, hp, hne, hassigned, hs⟩
    refine ⟨t, ht, p, hp, ?_⟩
    rw [if_neg (mt Record.isEmpty_iff.1 hne)]
    exact bind_eq_ok_iff.2 ⟨assigned, hassigned, hs⟩

/-- Names that are mapped are found again. -/
theorem exists_assignedFields (h : ∀ cell ∈ u.assigned.columns, cell.1 ∈ t.entity.properties) :
    ∃ assigned, u.assignedFields t = .ok assigned := by
  apply exists_mapM_of_forall
  intro cell hcell
  obtain ⟨f, hf⟩ := Table.exists_field_of_mem (h cell hcell)
  exact ⟨(f, cell.2), bind_eq_ok_iff.2 ⟨f, hf, rfl⟩⟩

theorem assignedFields_ne_nil {assigned : List (Field × Value)}
    (h : u.assignedFields t = .ok assigned) (hne : u.assigned.columns ≠ []) : assigned ≠ [] := by
  have hlength := (mapM_eq_ok_iff.1 h).length_eq
  rintro rfl
  exact hne (List.length_eq_zero_iff.1 hlength)

theorem planned_of_toStatement (h : u.toStatement = .ok s) : u.scope.Planned .update s := by
  obtain ⟨t, p, assigned, ht, hp, hne, hassigned, hs⟩ := toStatement_eq_ok_iff.1 h
  exact ⟨t, .update p assigned, ht, hp.symm, rfl, assignedFields_ne_nil hassigned hne, hs⟩

/-- An update whose names are mapped has a statement if its filter is there and can be lowered and
something is assigned. -/
theorem exists_toStatement_iff (hu : u.Resolved) :
    (∃ s, u.toStatement = .ok s) ↔
      ∃ t c, u.scope.state = .ok t ∧ Condition.ofFilter t u.scope.filter = .ok c ∧
        u.scope.filter ≠ none ∧ u.assigned.columns ≠ [] := by
  constructor
  · rintro ⟨s, hs⟩
    obtain ⟨t, c, ht, hc⟩ := (planned_of_toStatement hs).exists_ofFilter
    obtain ⟨_, p, _, -, hp, hne, -⟩ := toStatement_eq_ok_iff.1 hs
    exact ⟨t, c, ht, hc, Option.ne_none_iff_exists'.2 ⟨p, hp⟩, hne⟩
  · rintro ⟨t, c, ht, hc, hfilter, hne⟩
    obtain ⟨p, hp⟩ := Option.ne_none_iff_exists'.1 hfilter
    obtain ⟨assigned, hassigned⟩ := exists_assignedFields (hu t ht)
    have hcomplete : (Plan.update p assigned).Complete := assignedFields_ne_nil hassigned hne
    rw [hp] at hc
    obtain ⟨s, hs, -⟩ := Plan.exists_compile hcomplete hc
    exact ⟨s, toStatement_eq_ok_iff.2 ⟨t, p, assigned, ht, hp, hne, hassigned, hs⟩⟩

end Update

namespace Deletion

variable {d : Deletion e}

theorem toStatement_eq_ok_iff :
    d.toStatement = .ok s ↔
      ∃ t p, d.scope.state = .ok t ∧ d.scope.filter = some p ∧
        Plan.compile t (.delete p) = .ok s := by
  unfold toStatement
  simp only [bind_eq_ok_iff, Scope.requiredFilter_eq_ok_iff]
  constructor
  · rintro ⟨t, ht, p, hp, hs⟩
    exact ⟨t, p, ht, hp, hs⟩
  · rintro ⟨t, p, ht, hp, hs⟩
    exact ⟨t, ht, p, hp, hs⟩

theorem planned_of_toStatement (h : d.toStatement = .ok s) : d.scope.Planned .delete s := by
  obtain ⟨t, p, ht, hp, hs⟩ := toStatement_eq_ok_iff.1 h
  exact ⟨t, .delete p, ht, hp.symm, rfl, trivial, hs⟩

/-- A deletion has a statement if its filter is there and can be lowered. -/
theorem exists_toStatement_iff :
    (∃ s, d.toStatement = .ok s) ↔
      ∃ t c, d.scope.state = .ok t ∧ Condition.ofFilter t d.scope.filter = .ok c ∧
        d.scope.filter ≠ none := by
  constructor
  · rintro ⟨s, hs⟩
    obtain ⟨t, c, ht, hc⟩ := (planned_of_toStatement hs).exists_ofFilter
    obtain ⟨_, p, -, hp, -⟩ := toStatement_eq_ok_iff.1 hs
    exact ⟨t, c, ht, hc, Option.ne_none_iff_exists'.2 ⟨p, hp⟩⟩
  · rintro ⟨t, c, ht, hc, hfilter⟩
    obtain ⟨p, hp⟩ := Option.ne_none_iff_exists'.1 hfilter
    rw [hp] at hc
    obtain ⟨s, hs, -⟩ := Plan.exists_compile (p := .delete p) trivial hc
    exact ⟨s, toStatement_eq_ok_iff.2 ⟨t, p, ht, hp, hs⟩⟩

end Deletion

end Sift
