import Sift.Executor.Context
import Sift.Proofs.Sql.Reading

/-!
# Plans that have a statement

A plan has a statement if it leaves none of the lists empty that its statement spells out and if its
filter can be lowered; it does not matter which dialect the statement is for. `Statement.Says` is
what the statement then tells its store: a relational one reads it as the command of the plan, and a
document store is given the command itself. The table of an entity finds exactly the names that the
entity maps.
-/
namespace Sift

/-! ## Names and fields -/

namespace Table

variable {t : Table} {e : Entity} {d : Dialect}

/-- A table is that of its entity under its dialect. -/
theorem eq_of_ofEntity (h : ofEntity e d = .ok t) : t.entity = e ∧ t.dialect = d := by
  have hbuild : build e d = .ok t := mapError_eq_ok_iff.1 h
  unfold build at hbuild
  split at hbuild
  · cases hbuild
  · split at hbuild
    · cases hbuild
    · split at hbuild
      · cases hbuild
      · cases hbuild
        exact ⟨rfl, rfl⟩
    · cases hbuild

/-- The name of a mapped field finds the field, since no other has it. -/
theorem field?_of_mem {f : Field} (h : f ∈ t.fields) : t.field? f.property = some f := by
  cases hfound : t.field? f.property with
  | none =>
    have hnone := List.find?_eq_none.1 hfound f h
    simp at hnone
  | some g =>
    have hg : g ∈ t.entity.fields := mem_of_field? hfound
    have hname : g.property = f.property := property_of_field? hfound
    rw [List.inj_on_of_nodup_map t.distinct hg h hname]

theorem exists_field_iff {name : String} :
    (∃ f, t.field? name = some f) ↔ name ∈ t.entity.properties := by
  rw [Entity.properties, List.mem_map]
  constructor
  · rintro ⟨f, hf⟩
    exact ⟨f, mem_of_field? hf, property_of_field? hf⟩
  · rintro ⟨f, hf, rfl⟩
    exact ⟨f, field?_of_mem hf⟩

/-- A mapped name has a field. -/
theorem exists_field_of_mem {name : String} (h : name ∈ t.entity.properties) :
    ∃ f, t.field name = .ok f := by
  obtain ⟨f, hf⟩ := exists_field_iff.2 h
  exact ⟨f, field_eq_ok_iff.2 hf⟩

end Table

/-! ## What statements say -/

/-- The filter document of a filter that may be missing; the empty document matches all. -/
def Condition.document : Option Condition → Json
  | none => .object []
  | some c => c.filter

namespace Plan

/-- The operation of a plan. -/
def kind : Plan → StatementKind
  | select _ => .select
  | count _ => .count
  | update .. => .update
  | delete _ => .delete
  | insert _ => .insert

/-- None of the lists is empty that a statement spells out. -/
def Complete : Plan → Prop
  | select s => s.columns ≠ []
  | count _ | delete _ => True
  | update _ assigned => assigned ≠ []
  | insert values => values ≠ []

/-- What a plan asks a document store for, with its filter lowered. -/
def documentCommand (t : Table) (c : Option Condition) : Plan → Command
  | select s => .find t.entity.table (Condition.document c) (s.columns.map Field.column)
    (s.order.map fun k => (k.field.column, k.ascending)) s.skip s.take
  | count _ => .count t.entity.table (Condition.document c)
  | update _ assigned => .update t.entity.table (Condition.document c) (Command.members assigned)
  | delete _ => .delete t.entity.table (Condition.document c)
  | insert values => .insert t.entity.table (Command.members values)

end Plan

/-- What the statement of a plan, whose filter has been lowered, tells the store of a dialect. -/
inductive Statement.Says (t : Table) (p : Plan) (c : Option Condition) : Dialect → Statement → Prop
  | sql {d : SqlDialect} {st : SqlStatement} (read : d.readCommand st = some (p.command d t c)) :
    Says t p c (.sql d) (.sql st)
  | document : Says t p c .document (.document (p.documentCommand t c))

section Acceptance

variable {d : SqlDialect} {t : Table} {p : Plan} {c : Option Condition}

theorem Plan.compile_sql (hd : t.dialect = .sql d) (p : Plan) :
    p.compile t = (d.planTokens t p).map fun (ts, ps) => .sql ⟨d.spell ts, ps⟩ := by
  simp [compile, hd]

theorem Plan.compile_document (hd : t.dialect = .document) (p : Plan) :
    p.compile t = (Command.ofPlan t p).map .document := by
  simp [compile, hd]

theorem Command.filterOf_eq (filter : Option Predicate) :
    Command.filterOf t filter = (Condition.ofFilter t filter).map Condition.document := by
  cases filter with
  | none => rfl
  | some q =>
    rw [Command.filterOf, Table.filterOf, Condition.ofFilter]
    cases Condition.ofPredicate t q with
    | error e => rfl
    | ok c => rfl

/-- The command of a plan is what the plan asks for. -/
theorem Command.ofPlan_eq (h : p.Complete) :
    Command.ofPlan t p = (Condition.ofFilter t p.filter?).map fun c => p.documentCommand t c := by
  have hmap : ∀ (filter : Option Predicate) (f : Json → Command),
      (Command.filterOf t filter).map f =
        (Condition.ofFilter t filter).map fun c => f (Condition.document c) := by
    intro filter f
    rw [Command.filterOf_eq]
    cases Condition.ofFilter t filter with
    | error e => rfl
    | ok c => rfl
  cases p with
  | select s =>
    have hcolumns : ¬s.columns.isEmpty = true := by simpa [Plan.Complete] using h
    rw [Command.ofPlan, if_neg hcolumns, hmap]
    rfl
  | count filter => exact hmap filter _
  | update filter assigned =>
    have hassigned : ¬assigned.isEmpty = true := by simpa [Plan.Complete] using h
    rw [Command.ofPlan, if_neg hassigned]
    exact hmap (some filter) _
  | delete filter => exact hmap (some filter) _
  | insert values => rfl

/-- Whether a complete plan has tokens is up to its filter alone. -/
theorem exists_planTokens_eq_map (d : SqlDialect) (h : p.Complete) :
    ∃ f : Option Condition → List SqlToken × Params,
      d.planTokens t p = (Condition.ofFilter t p.filter?).map f := by
  cases p with
  | select s => exact ⟨_, selectTokens_eq h⟩
  | count filter =>
    rw [SqlDialect.planTokens, SqlDialect.countTokens, Condition.filterTokens_eq, map_map]
    exact ⟨_, rfl⟩
  | update filter assigned =>
    have hassigned : ¬assigned.isEmpty = true := by simpa [Plan.Complete] using h
    obtain ⟨sets, ps, hrun⟩ :
        ∃ sets ps, (SqlDialect.assignments assigned).run .empty = (sets, ps) :=
      ⟨_, _, rfl⟩
    rw [SqlDialect.planTokens, SqlDialect.updateTokens, if_neg hassigned, hrun]
    simp only [Condition.filterTokens_eq, map_map]
    exact ⟨_, rfl⟩
  | delete filter =>
    rw [SqlDialect.planTokens, SqlDialect.deleteTokens, Condition.filterTokens_eq, map_map]
    exact ⟨_, rfl⟩
  | insert values =>
    have hvalues : ¬values.isEmpty = true := by simpa [Plan.Complete] using h
    rw [SqlDialect.planTokens, SqlDialect.insertTokens, if_neg hvalues]
    exact ⟨fun _ => _, rfl⟩

/-- The tokens of a plan whose filter can be lowered. -/
theorem exists_planTokens (d : SqlDialect) (h : p.Complete)
    (hc : Condition.ofFilter t p.filter? = .ok c) : ∃ stmt, d.planTokens t p = .ok stmt := by
  obtain ⟨f, hf⟩ := exists_planTokens_eq_map (t := t) d h
  rw [hf, hc]
  exact ⟨f c, rfl⟩

/-- Whether a complete plan has a statement is up to its filter alone. -/
theorem Plan.exists_compile_eq_map (h : p.Complete) :
    ∃ f : Option Condition → Statement,
      p.compile t = (Condition.ofFilter t p.filter?).map f := by
  cases hd : t.dialect with
  | sql d =>
    obtain ⟨f, hf⟩ := exists_planTokens_eq_map (t := t) d h
    rw [compile_sql hd, hf, map_map]
    exact ⟨_, rfl⟩
  | document =>
    rw [compile_document hd, Command.ofPlan_eq h, map_map]
    exact ⟨_, rfl⟩

/-- A plan with a statement has a filter that can be lowered. -/
theorem Plan.ofFilter_of_compile {s : Statement} (h : p.Complete) (hs : p.compile t = .ok s) :
    ∃ c, Condition.ofFilter t p.filter? = .ok c := by
  unfold Plan.compile at hs
  split at hs
  · obtain ⟨stmt, htokens, -⟩ := map_eq_ok_iff.1 hs
    obtain ⟨c, hc, -⟩ := prepared_planTokens htokens
    exact ⟨c, hc⟩
  · obtain ⟨cmd, hcmd, -⟩ := map_eq_ok_iff.1 hs
    rw [Command.ofPlan_eq h] at hcmd
    obtain ⟨c, hc, -⟩ := map_eq_ok_iff.1 hcmd
    exact ⟨c, hc⟩

/-- A complete plan whose filter can be lowered has a statement, which says what the plan says. -/
theorem Plan.exists_compile (h : p.Complete) (hc : Condition.ofFilter t p.filter? = .ok c) :
    ∃ s, p.compile t = .ok s ∧ s.Says t p c t.dialect := by
  cases hd : t.dialect with
  | sql d =>
    obtain ⟨stmt, htokens⟩ := exists_planTokens d h hc
    obtain ⟨c', hc', hprepared⟩ := prepared_planTokens htokens
    obtain rfl : c = c' := by
      rw [hc] at hc'
      exact Except.ok.inj hc'
    refine ⟨.sql ⟨d.spell stmt.1, stmt.2⟩, ?_, .sql hprepared.readCommand⟩
    simp only [Plan.compile, hd, htokens]
    rfl
  | document =>
    refine ⟨.document (p.documentCommand t c), ?_, .document⟩
    simp only [Plan.compile, hd, Command.ofPlan_eq h, hc]
    rfl

/-- The statement of a complete plan says what the plan says. -/
theorem Plan.says_of_compile {s : Statement} (h : p.Complete)
    (hc : Condition.ofFilter t p.filter? = .ok c) (hs : p.compile t = .ok s) :
    s.Says t p c t.dialect := by
  obtain ⟨s', hs', hsays⟩ := Plan.exists_compile h hc
  obtain rfl : s = s' := by
    rw [hs] at hs'
    exact Except.ok.inj hs'
  exact hsays

end Acceptance

end Sift
