import Sift.Proofs.Acceptance

/-!
# One plan in all dialects

An entity has one table in each dialect, and these differ in nothing else. A plan that leaves no
list empty is compiled if its filter can be lowered, and lowering does not look at the dialect; so
it has a statement in all dialects or is refused in all of them, by the very same error. Of the
plans that do leave a list empty, reads and updates are refused everywhere. A row without values is
the one plan that dialects disagree on, `Plan.uniform_iff`: only the relational ones refuse it.
-/
namespace Sift

/-! ## Tables of one entity -/

/-- The same table under another dialect. -/
def Table.under (t : Table) (d : Dialect) : Table := { t with dialect := d }

/-- The entity of a table has a table in all dialects. -/
theorem Table.build_under (t : Table) (d : Dialect) : build t.entity d = .ok (t.under d) := by
  obtain ⟨e, d', key, hkeys, hdistinct⟩ := t
  have hne : e.fields ≠ [] := fields_ne_nil ⟨e, d', key, hkeys, hdistinct⟩
  have hfields : ¬e.fields.isEmpty = true := by simpa using hne
  have honce : firstRepeat? [] e.properties = none :=
    firstRepeat?_eq_none_iff.2 ⟨hdistinct, by simp⟩
  unfold build
  rw [if_neg hfields]
  split
  · rename_i hnone
    rw [hkeys] at hnone
    cases hnone
  · rename_i key' hone
    obtain rfl : key = key' := by
      rw [hkeys] at hone
      cases hone
      rfl
    split
    · rename_i property hrepeat
      rw [honce] at hrepeat
      cases hrepeat
    · rfl
  · rename_i hmany
    rw [hkeys] at hmany
    cases hmany

theorem Table.ofEntity_eq_under {e : Entity} {d : Dialect} {t : Table} (h : ofEntity e d = .ok t)
    (d' : Dialect) : ofEntity e d' = .ok (t.under d') := by
  obtain ⟨rfl, -⟩ := eq_of_ofEntity h
  exact mapError_eq_ok_iff.2 (t.build_under d')

namespace Condition

variable {t : Table}

/-- What a predicate means does not depend on the dialect. -/
theorem ofPredicate_under (p : Predicate) (d : Dialect) :
    ofPredicate (t.under d) p = ofPredicate t p := by
  induction p with
  | comparison op left right => rfl
  | logical op left right ihl ihr => rw [ofPredicate, ofPredicate, ihl, ihr]
  | textMatch field pattern test negated => rfl
  | membership field values negated => rfl

theorem ofFilter_under (filter : Option Predicate) (d : Dialect) :
    ofFilter (t.under d) filter = ofFilter t filter := by
  cases filter with
  | none => rfl
  | some p => rw [ofFilter, ofFilter, ofPredicate_under]

end Condition

/-! ## Plans under all dialects -/

/-- The causes of failure, apart from what is told about them. -/
inductive Error.Kind where
  | configuration
  | fieldNotFound
  | unsupported
  | unconditional
  | invalidCursor
  | execution
  | decode
  | connection
  | pool
  | timeout
  | other
deriving DecidableEq

/-- The cause of an error. -/
def Error.kind : Error → Kind
  | configuration _ => .configuration
  | fieldNotFound .. => .fieldNotFound
  | unsupported _ => .unsupported
  | unconditional _ => .unconditional
  | invalidCursor _ => .invalidCursor
  | execution .. => .execution
  | decode .. => .decode
  | connection _ => .connection
  | pool _ => .pool
  | timeout _ => .timeout
  | other _ => .other

namespace Plan

/-- The statement of a plan for an entity in a dialect. -/
def statement (p : Plan) (e : Entity) (d : Dialect) : Except Error Statement := do
  let t ← Table.ofEntity e d
  p.compile t

/-- A plan has a statement in every dialect, or is refused in every dialect for one cause. Its
fields are those of the entity, which a table of any dialect finds under the same names. -/
def Uniform (p : Plan) (e : Entity) : Prop :=
  (∀ d, ∃ s, p.statement e d = .ok s) ∨
    ∃ kind, ∀ d, ∃ err, p.statement e d = .error err ∧ err.kind = kind

variable {e : Entity} {d₀ : Dialect} {t : Table}

theorem statement_eq (h : Table.ofEntity e d₀ = .ok t) (p : Plan) (d : Dialect) :
    p.statement e d = p.compile (t.under d) := by
  rw [statement, Table.ofEntity_eq_under h d]
  rfl

/-- A complete plan stands or falls with its filter, and its filter means the same everywhere. -/
theorem uniform_of_complete (h : Table.ofEntity e d₀ = .ok t) {p : Plan} (hp : p.Complete) :
    p.Uniform e := by
  have hcompile : ∀ d, ∃ f : Option Condition → Statement,
      p.statement e d = (Condition.ofFilter t p.filter?).map f := by
    intro d
    rw [statement_eq h, ← Condition.ofFilter_under p.filter? d]
    exact exists_compile_eq_map hp
  cases hc : Condition.ofFilter t p.filter? with
  | ok c =>
    left
    intro d
    obtain ⟨f, hf⟩ := hcompile d
    rw [hf, hc]
    exact ⟨f c, rfl⟩
  | error err =>
    refine .inr ⟨err.kind, fun d => ⟨err, ?_, rfl⟩⟩
    obtain ⟨f, hf⟩ := hcompile d
    rw [hf, hc]
    rfl

/-- A read of nothing is refused, in words that depend on the kind of store. -/
theorem uniform_select_nil (h : Table.ofEntity e d₀ = .ok t) {s : SelectPlan}
    (hs : s.columns = []) : (Plan.select s).Uniform e := by
  refine .inr ⟨.configuration, fun d => ?_⟩
  have hcolumns : s.columns.isEmpty = true := by simpa using hs
  rw [statement_eq h]
  cases d with
  | sql d =>
    rw [compile_sql rfl, SqlDialect.planTokens, SqlDialect.selectTokens, if_pos hcolumns]
    exact ⟨_, rfl, rfl⟩
  | document =>
    rw [compile_document rfl, Command.ofPlan, if_pos hcolumns]
    exact ⟨_, rfl, rfl⟩

theorem uniform_update_nil (h : Table.ofEntity e d₀ = .ok t) (filter : Predicate) :
    (Plan.update filter []).Uniform e := by
  refine .inr ⟨.unconditional, fun d => ?_⟩
  rw [statement_eq h]
  cases d <;> exact ⟨_, rfl, rfl⟩

/-- A row without values is refused by the relational dialects. -/
theorem statement_insert_nil_sql (h : Table.ofEntity e d₀ = .ok t) (d : SqlDialect) :
    (Plan.insert []).statement e (.sql d) =
      .error (.configuration s!"insert into '{e.name}' has no values") := by
  obtain ⟨rfl, -⟩ := Table.eq_of_ofEntity h
  rw [statement_eq h]
  rfl

/-- The document store is told to insert an empty document. -/
theorem statement_insert_nil_document (h : Table.ofEntity e d₀ = .ok t) :
    (Plan.insert []).statement e .document = .ok (.document (.insert e.table [])) := by
  obtain ⟨rfl, -⟩ := Table.eq_of_ofEntity h
  rw [statement_eq h]
  rfl

/-- The dialects disagree on it. -/
theorem not_uniform_insert_nil (h : Table.ofEntity e d₀ = .ok t) : ¬(Plan.insert []).Uniform e := by
  rintro (hall | ⟨kind, hnone⟩)
  · obtain ⟨s, hs⟩ := hall (.sql .postgres)
    rw [statement_insert_nil_sql h] at hs
    cases hs
  · obtain ⟨err, herr, -⟩ := hnone .document
    rw [statement_insert_nil_document h] at herr
    cases herr

/-- Every plan for a sound mapping is accepted in all dialects or refused in all of them for one
cause, unless it inserts a row without values. The relational dialects refuse that one, and the
document store inserts an empty document. -/
theorem uniform_iff (h : Table.ofEntity e d₀ = .ok t) :
    (∀ p : Plan, p.Uniform e ↔ p ≠ .insert []) ∧
    (∀ d, (Plan.insert []).statement e (.sql d) =
      .error (.configuration s!"insert into '{e.name}' has no values")) ∧
    (Plan.insert []).statement e .document = .ok (.document (.insert e.table [])) := by
  refine ⟨fun p => ⟨?_, fun hp => ?_⟩, statement_insert_nil_sql h, statement_insert_nil_document h⟩
  · rintro huniform rfl
    exact not_uniform_insert_nil h huniform
  · cases p with
    | select s =>
      by_cases hs : s.columns = []
      · exact uniform_select_nil h hs
      · exact uniform_of_complete (p := .select s) h hs
    | count filter => exact uniform_of_complete (p := .count filter) h trivial
    | update filter assigned =>
      cases assigned with
      | nil => exact uniform_update_nil h filter
      | cons cell rest =>
        have hassigned : cell :: rest ≠ [] := List.cons_ne_nil cell rest
        exact uniform_of_complete (p := .update filter (cell :: rest)) h hassigned
    | delete filter => exact uniform_of_complete (p := .delete filter) h trivial
    | insert values =>
      have hvalues : values ≠ [] := fun hnil => hp (by rw [hnil])
      exact uniform_of_complete (p := .insert values) h hvalues

theorem ofEntity_people :
    Table.ofEntity (Table.people .document).entity .document = .ok (.people .document) :=
  rfl

theorem uniform_pickyUpdate :
    Table.ofEntity (Table.people .document).entity .document = .ok (.people .document) ∧
      pickyUpdate.Uniform (Table.people .document).entity :=
  ⟨ofEntity_people, ((uniform_iff ofEntity_people).1 pickyUpdate).2 nofun⟩

/-- Not every plan for people is accepted in all dialects or refused in all of them. -/
theorem not_forall_uniform_people :
    ¬∀ p : Plan, p.Uniform (Table.people .document).entity := by
  intro h
  exact not_uniform_insert_nil ofEntity_people (h (.insert []))

end Plan

end Sift
