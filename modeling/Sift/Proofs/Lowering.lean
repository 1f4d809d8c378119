import Sift.Condition
import Sift.Proofs.Outcome

/-!
# What lowering does

`Condition.ofPredicate` taken apart: for each kind of predicate, what it was lowered to if it was
accepted. What is said later about accepted predicates is an induction over the predicate with these
lemmas, one for each constructor.
-/
namespace Sift

namespace Table

variable {t : Table}

theorem field_eq_ok_iff {name : String} {f : Field} :
    t.field name = .ok f ↔ t.field? name = some f := by
  unfold field
  cases h : t.field? name with
  | none => simp
  | some g => simp

/-- A table with a key, a text under a column whose name needs quotes, and a number. -/
def people (d : Dialect) : Table where
  entity := ⟨"Person", "people",
    [⟨"id", "id", ⟨.text, false⟩, true⟩, ⟨"name", "na\"m\x60e] = $1", ⟨.text, true⟩, false⟩,
      ⟨"age", "age", ⟨.int32, true⟩, false⟩]⟩
  dialect := d
  key := ⟨"id", "id", ⟨.text, false⟩, true⟩
  keys_eq := rfl
  distinct := by decide

end Table

/-- Whoever is older than twenty or has a name other than two, is not called after a flower and is
not twenty. -/
def pickyPredicate : Predicate :=
  .and
    (.or (.membership "name" [.text "ann", .null, .text "bob"] true)
      (.comparison .lt (.constant (.int 20)) (.field "age")))
    (.and (.textMatch "name" (.text "rose") .startsWith true) (.compare .ne "age" (.int 20)))

namespace Condition

variable {t : Table} {c : Condition}

/-- Both sides of an accepted connective are accepted. -/
theorem ofPredicate_logical {op : Connective} {p q : Predicate} :
    ofPredicate t (.logical op p q) = .ok c ↔
      ∃ l r, ofPredicate t p = .ok l ∧ ofPredicate t q = .ok r ∧ c = .logical op l r := by
  rw [ofPredicate]
  simp only [bind_eq_ok_iff]
  constructor
  · rintro ⟨l, hl, r, hr, h⟩
    cases h
    exact ⟨l, r, hl, hr, rfl⟩
  · rintro ⟨l, r, hl, hr, rfl⟩
    exact ⟨l, hl, r, hr, rfl⟩

/-- An accepted comparison has a mapped field on one side and a constant on the other. -/
theorem ofPredicate_comparison {op : Comparator} {left right : Operand} :
    ofPredicate t (.comparison op left right) = .ok c ↔
      ∃ name op' v f, orient op left right = .ok (name, op', v) ∧ t.field? name = some f ∧
        c = .clause (.ofComparison f op' v) := by
  rw [ofPredicate]
  simp only [bind_eq_ok_iff, mapError_eq_ok_iff, Table.field_eq_ok_iff]
  constructor
  · rintro ⟨⟨name, op', v⟩, ho, f, hf, h⟩
    cases h
    exact ⟨name, op', v, f, ho, hf, rfl⟩
  · rintro ⟨name, op', v, f, ho, hf, rfl⟩
    exact ⟨(name, op', v), ho, f, hf, rfl⟩

/-- An accepted membership test is about a mapped field. -/
theorem ofPredicate_membership {name : String} {values : List Value} {negated : Bool} :
    ofPredicate t (.membership name values negated) = .ok c ↔
      ∃ f, t.field? name = some f ∧ c = .clause (.ofMembership f values negated) := by
  rw [ofPredicate]
  simp only [bind_eq_ok_iff, Table.field_eq_ok_iff]
  constructor
  · rintro ⟨f, hf, h⟩
    cases h
    exact ⟨f, hf, rfl⟩
  · rintro ⟨f, hf, rfl⟩
    exact ⟨f, hf, rfl⟩

/-- An accepted text match is about a mapped field of text and has a clause. -/
theorem ofPredicate_textMatch {name : String} {pattern : Value} {test : TextTest}
    {negated : Bool} :
    ofPredicate t (.textMatch name pattern test negated) = .ok c ↔
      ∃ f k, t.field? name = some f ∧ Clause.ofTextMatch f pattern test negated = .ok k ∧
        c = .clause k := by
  rw [ofPredicate]
  simp only [bind_eq_ok_iff, mapError_eq_ok_iff, Table.field_eq_ok_iff]
  constructor
  · rintro ⟨f, hf, k, hk, h⟩
    cases h
    exact ⟨f, k, hf, hk, rfl⟩
  · rintro ⟨f, k, hf, hk, rfl⟩
    exact ⟨f, hf, k, hk, rfl⟩

end Condition

/-! ## What accepted predicates never become -/

/-- Constants of a clause are not null, lists are not empty and neither are patterns. -/
def Clause.Sound : Clause → Prop
  | always _ | nullTest .. => True
  | compare _ _ v _ => v.isNull = false
  | oneOf _ values _ _ => values ≠ [] ∧ ∀ v ∈ values, v.isNull = false
  | like _ pattern _ _ _ => pattern.isEmpty = false

/-- All clauses of a condition are sound. -/
def Condition.Sound : Condition → Prop
  | clause c => c.Sound
  | logical _ left right => left.Sound ∧ right.Sound

theorem Clause.ofComparison_of_isNull_eq_false (f : Field) (op : Comparator) {v : Value}
    (h : v.isNull = false) : Clause.ofComparison f op v = .compare f op v (compareGuard op) := by
  cases v <;> first | rfl | cases h

theorem Clause.sound_ofComparison (f : Field) (op : Comparator) (v : Value) :
    (Clause.ofComparison f op v).Sound := by
  cases hv : v.isNull with
  | true =>
    obtain rfl := Value.isNull_iff.1 hv
    cases op <;> trivial
  | false =>
    rw [ofComparison_of_isNull_eq_false f op hv]
    exact hv

theorem Clause.sound_ofMembership (f : Field) (values : List Value) (negated : Bool) :
    (Clause.ofMembership f values negated).Sound := by
  unfold ofMembership
  split
  · trivial
  · split
    · trivial
    · rename_i first rest hkept
      refine ⟨List.cons_ne_nil first rest, fun v hv => ?_⟩
      rw [← hkept] at hv
      simpa using (List.mem_filter.1 hv).2

theorem Clause.sound_ofTextMatch {f : Field} {pattern : Value} {test : TextTest} {negated : Bool}
    {c : Clause} (h : Clause.ofTextMatch f pattern test negated = .ok c) : c.Sound := by
  unfold ofTextMatch at h
  split at h
  · split at h
    · cases h
      trivial
    · split at h
      · cases h
        trivial
      · rename_i hs
        cases h
        simpa [Sound] using hs
    · cases h
  · cases h

/-- Lowering leaves no null to be compared with, no empty list and no empty pattern. -/
theorem Condition.sound_of_ofPredicate {t : Table} {p : Predicate} {c : Condition}
    (h : Condition.ofPredicate t p = .ok c) : c.Sound := by
  induction p generalizing c with
  | comparison op left right =>
    obtain ⟨_, op', v, f, -, -, rfl⟩ := ofPredicate_comparison.1 h
    exact Clause.sound_ofComparison f op' v
  | logical op p q ihp ihq =>
    obtain ⟨l, r, hl, hr, rfl⟩ := ofPredicate_logical.1 h
    exact ⟨ihp hl, ihq hr⟩
  | textMatch name pattern test negated =>
    obtain ⟨f, k, -, hk, rfl⟩ := ofPredicate_textMatch.1 h
    exact Clause.sound_ofTextMatch hk
  | membership name values negated =>
    obtain ⟨f, -, rfl⟩ := ofPredicate_membership.1 h
    exact Clause.sound_ofMembership f values negated

end Sift
