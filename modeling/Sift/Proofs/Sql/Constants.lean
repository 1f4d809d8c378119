import Sift.Proofs.Lowering
import Sift.Proofs.Sql.Phrase

/-!
# What a predicate adds to the parameters

Spelling a predicate either appends its constants to the parameters that are there or leaves the
parameters alone. Which constants these are is read off the predicate, leaf by leaf: `Predicate.bound`
knows nothing of tables, of guards or of the order in which tokens are made.

The main result is `SqlDialect.run_compileInto`. It holds for any parameters, so it says what happens
to a statement that already has assignments, or another filter, in front.
-/
namespace Sift

/-- The constants that one side of a comparison asks to bind: null is tested for by name. -/
def Operand.bound : Operand → List Value
  | field _ => []
  | constant v => if v.isNull then [] else [v]

/-- The pattern that a search for a text asks to bind: none if there is nothing to search for. -/
def TextTest.bound (d : SqlDialect) (test : TextTest) : Value → List Value
  | .text s => if s.isEmpty then [] else [.text (test.wildcards (d.escapeLike s))]
  | _ => []

/-- The values that a predicate asks to bind, leaf by leaf from left to right. -/
def Predicate.bound (d : SqlDialect) : Predicate → List Value
  | comparison _ left right => left.bound ++ right.bound
  | logical _ left right => left.bound d ++ right.bound d
  | membership _ values _ => values.filter fun v => !v.isNull
  | textMatch _ pattern test _ => test.bound d pattern

/-- Some values have been appended under the next numbers of a leading text, and that is all. -/
structure Params.Appended (stem : String) (vs : List Value) (before after : Params) : Prop where
  toList : after.toList = before.toList ++
    vs.zipIdx.map fun (v, i) => ⟨stem ++ toString (before.issued stem + i + 1), v⟩
  issued : after.issued stem = before.issued stem + vs.length
  others : ∀ s ≠ stem, after.counters.lookup s = before.counters.lookup s

theorem Params.appended_bindAll (stem : String) (vs : List Value) (ps : Params) :
    ps.Appended stem vs (ps.bindAll stem vs) where
  toList := toList_bindAll stem vs ps
  issued := issued_bindAll stem vs ps
  others _ h := lookup_counters_bindAll h vs ps

/-! ## The constants of a leaf -/

section Leaves

variable (d : SqlDialect)

theorem Clause.constants_ofComparison (f : Field) (op : Comparator) (v : Value) :
    (ofComparison f op v).constants d = (Operand.constant v).bound := by
  cases hv : v.isNull with
  | true =>
    obtain rfl := Value.isNull_iff.1 hv
    cases op <;> rfl
  | false =>
    rw [ofComparison_of_isNull_eq_false f op hv, Operand.bound, hv]
    rfl

theorem Clause.constants_ofMembership (f : Field) (values : List Value) (negated : Bool) :
    (ofMembership f values negated).constants d = values.filter fun v => !v.isNull := by
  unfold ofMembership
  split
  · rename_i hempty
    rw [List.isEmpty_iff.1 hempty]
    rfl
  · split
    · rename_i hkept
      rw [hkept]
      rfl
    · rename_i first rest hkept
      rw [hkept]
      rfl

theorem Clause.constants_of_ofTextMatch {f : Field} {pattern : Value} {test : TextTest}
    {negated : Bool} {c : Clause} (h : Clause.ofTextMatch f pattern test negated = .ok c) :
    c.constants d = test.bound d pattern := by
  unfold ofTextMatch at h
  split at h
  · split at h
    · cases h
      rfl
    · split at h
      · rename_i hs
        cases h
        rw [TextTest.bound, if_pos hs]
        rfl
      · rename_i hs
        cases h
        rw [TextTest.bound, if_neg hs]
        rfl
    · cases h
  · cases h

/-- Of the two sides of a comparison that can be lowered the constant alone asks to bind. -/
theorem Operand.bound_of_orient {op op' : Comparator} {left right : Operand} {name : String}
    {v : Value} (h : orient op left right = .ok (name, op', v)) :
    left.bound ++ right.bound = (Operand.constant v).bound := by
  cases left with
  | field _ =>
    cases right with
    | field _ => cases h
    | constant _ =>
      cases h
      rfl
  | constant _ =>
    cases right with
    | field _ =>
      cases h
      exact List.append_nil _
    | constant _ => cases h

end Leaves

/-! ## The constants of a predicate -/

/-- What an accepted predicate binds is what it asks to bind. -/
theorem Condition.constants_of_ofPredicate (d : SqlDialect) {t : Table} {p : Predicate}
    {c : Condition} (h : Condition.ofPredicate t p = .ok c) : c.constants d = p.bound d := by
  induction p generalizing c with
  | comparison op left right =>
    obtain ⟨_, op', v, f, ho, -, rfl⟩ := ofPredicate_comparison.1 h
    rw [constants, Clause.constants_ofComparison, Predicate.bound, Operand.bound_of_orient ho]
  | logical op p q ihp ihq =>
    obtain ⟨l, r, hl, hr, rfl⟩ := ofPredicate_logical.1 h
    rw [constants, Predicate.bound, ihp hl, ihq hr]
  | textMatch name pattern test negated =>
    obtain ⟨f, k, -, hk, rfl⟩ := ofPredicate_textMatch.1 h
    exact Clause.constants_of_ofTextMatch d hk
  | membership name values negated =>
    obtain ⟨f, -, rfl⟩ := ofPredicate_membership.1 h
    exact Clause.constants_ofMembership d f values negated

theorem Operand.isNull_of_mem_bound {o : Operand} {v : Value} (h : v ∈ o.bound) :
    v.isNull = false := by
  cases o with
  | field name => cases h
  | constant w =>
    rw [bound] at h
    split at h
    · cases h
    · rename_i hw
      rw [List.mem_singleton.1 h]
      simpa using hw

theorem TextTest.isNull_of_mem_bound {d : SqlDialect} {test : TextTest} {pattern v : Value}
    (h : v ∈ test.bound d pattern) : v.isNull = false := by
  unfold bound at h
  split at h
  · split at h
    · cases h
    · rw [List.mem_singleton.1 h]
      rfl
  · cases h

/-- Null is never bound. -/
theorem Predicate.isNull_of_mem_bound {d : SqlDialect} {p : Predicate} {v : Value}
    (h : v ∈ p.bound d) : v.isNull = false := by
  induction p with
  | comparison op left right =>
    exact (List.mem_append.1 h).elim Operand.isNull_of_mem_bound Operand.isNull_of_mem_bound
  | logical op p q ihp ihq => exact (List.mem_append.1 h).elim ihp ihq
  | textMatch name pattern test negated => exact TextTest.isNull_of_mem_bound h
  | membership name values negated => simpa using (List.mem_filter.1 h).2

/-! ## Parameters that are there already -/

namespace SqlDialect

/-- A predicate that is refused leaves the parameters and their counters as they are. One that is
accepted appends what it asks to bind: behind the parameters that are there, leaf by leaf, never
null, under the next numbers of its leading text; no other counter is touched. -/
theorem run_compileInto (d : SqlDialect) (t : Table) (stem : String) (p : Predicate)
    (ps : Params) :
    (∃ err, Condition.ofPredicate t p = .error err ∧
      (d.compileInto t stem p).run.run ps = (.error err, ps)) ∨
    ∃ c ts after, Condition.ofPredicate t p = .ok c ∧
      d.whereTokens t stem p ps = .ok (ts, after) ∧
      (d.compileInto t stem p).run.run ps = (.ok (d.spell ts), after) ∧
      ps.Appended stem (p.bound d) after ∧ ∀ v ∈ p.bound d, v.isNull = false := by
  rw [run_compileInto_eq]
  cases h : Condition.ofPredicate t p with
  | error err =>
    refine .inl ⟨err, rfl, ?_⟩
    rw [whereTokens, h]
    rfl
  | ok c =>
    have happended : ps.Appended stem (p.bound d) ((c.sql d stem).run ps).2 := by
      rw [Condition.params_sql, Condition.constants_of_ofPredicate d h]
      exact Params.appended_bindAll ..
    rw [d.whereTokens_of_ofPredicate h]
    exact .inr ⟨c, _, _, rfl, rfl, rfl, happended, fun v => Predicate.isNull_of_mem_bound⟩

/-- An assignment and a constant of a filter in front of `pickyPredicate`. -/
def pickyParams : Params :=
  ((Params.empty.bind assignmentStem (.text "cleo")).2.bind filterStem (.int 7)).2

/-- `pickyPredicate`, and behind its constants a comparison that has no meaning. -/
def spoiltPredicate : Predicate :=
  .and pickyPredicate (.comparison .eq (.field "id") (.field "name"))

/-- Two parameters are there. The accepted predicate goes on counting behind them; the refused one
has five constants in front of its fault and binds none of them. -/
theorem run_compileInto_pickyParams :
    (∃ text after,
      (sqlServer.compileInto (.people (.sql .sqlServer)) filterStem pickyPredicate).run.run
        pickyParams = (.ok text, after) ∧
      after.toList = [⟨"U_Parameter1", .text "cleo"⟩, ⟨"Parameter1", .int 7⟩,
        ⟨"Parameter2", .text "ann"⟩, ⟨"Parameter3", .text "bob"⟩, ⟨"Parameter4", .int 20⟩,
        ⟨"Parameter5", .text "rose%"⟩, ⟨"Parameter6", .int 20⟩] ∧
      after.issued assignmentStem = 1) ∧
    ∃ err,
      (sqlServer.compileInto (.people (.sql .sqlServer)) filterStem spoiltPredicate).run.run
        pickyParams = (.error err, pickyParams) := by
  constructor
  · obtain ⟨err, herr, -⟩ | ⟨c, ts, after, -, -, hrun, happended, -⟩ :=
      sqlServer.run_compileInto (.people (.sql .sqlServer)) filterStem pickyPredicate pickyParams
    · cases herr
    · refine ⟨_, after, hrun, happended.toList, ?_⟩
      rw [Params.issued, happended.others assignmentStem (by decide)]
      rfl
  · obtain ⟨err, -, hrun⟩ | ⟨c, ts, after, hc, -⟩ :=
      sqlServer.run_compileInto (.people (.sql .sqlServer)) filterStem spoiltPredicate pickyParams
    · exact ⟨err, hrun⟩
    · cases hc

end SqlDialect

end Sift
