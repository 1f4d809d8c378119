import Sift.Proofs.Lowering
import Sift.Proofs.Sql.Pattern

/-!
# The text matches of a predicate

What a predicate searches for: each of its text matches with a pattern that is not empty, on the
column of its field. An empty pattern and a null one are no search, the former being a test for null
and the latter never true. Lowering keeps the searches of a predicate in their order.
-/
namespace Sift

/-- A search for a pattern in the text of a column. -/
structure TextMatch where
  column : String
  test : TextTest
  pattern : String
  negated : Bool

/-- A text is one that is searched for, whether or not the match is negated. -/
def TextMatch.Finds (m : TextMatch) (text : String) : Prop :=
  match m.test with
  | .contains => m.pattern.toList <:+: text.toList
  | .startsWith => m.pattern.toList <+: text.toList
  | .endsWith => m.pattern.toList <:+ text.toList

theorem TextMatch.fits_iff (m : TextMatch) (text : String) :
    m.test.fits m.pattern.toList text.toList = true ↔ m.Finds text := by
  unfold Finds TextTest.fits
  cases m.test <;> simp

/-- The search for a constant, if it is one. -/
def Value.textMatches (f : Field) (test : TextTest) (negated : Bool) : Value → List TextMatch
  | text s => if s.isEmpty then [] else [⟨f.column, test, s, negated⟩]
  | _ => []

/-- The searches of a predicate, in reading order. -/
def Predicate.textMatches (t : Table) : Predicate → List TextMatch
  | comparison .. | membership .. => []
  | logical _ left right => left.textMatches t ++ right.textMatches t
  | textMatch name pattern test negated =>
    (t.field? name).toList.flatMap fun f => pattern.textMatches f test negated

/-- The search of a clause. -/
def Clause.textMatches : Clause → List TextMatch
  | like f pattern test negated _ => [⟨f.column, test, pattern, negated⟩]
  | always _ | nullTest .. | compare .. | oneOf .. => []

/-- The searches of a condition, in reading order. -/
def Condition.textMatches : Condition → List TextMatch
  | clause c => c.textMatches
  | logical _ left right => left.textMatches ++ right.textMatches

namespace Clause

theorem textMatches_ofComparison (f : Field) (op : Comparator) (v : Value) :
    (ofComparison f op v).textMatches = [] := by
  unfold ofComparison
  split
  · cases op <;> rfl
  · rfl

theorem textMatches_ofMembership (f : Field) (values : List Value) (negated : Bool) :
    (ofMembership f values negated).textMatches = [] := by
  unfold ofMembership
  split
  · rfl
  · split <;> rfl

theorem textMatches_ofTextMatch {f : Field} {pattern : Value} {test : TextTest} {negated : Bool}
    {c : Clause} (h : ofTextMatch f pattern test negated = .ok c) :
    c.textMatches = pattern.textMatches f test negated := by
  unfold ofTextMatch at h
  split at h
  · split at h
    · cases h
      rfl
    · rename_i s
      by_cases hs : s.isEmpty
      · rw [if_pos hs] at h
        cases h
        simp [textMatches, Value.textMatches, hs]
      · rw [if_neg hs] at h
        cases h
        simp [textMatches, Value.textMatches, hs]
    · cases h
  · cases h

end Clause

/-- Lowering loses no search and adds none. -/
theorem Condition.textMatches_of_ofPredicate {t : Table} {p : Predicate} {c : Condition}
    (h : Condition.ofPredicate t p = .ok c) : c.textMatches = p.textMatches t := by
  induction p generalizing c with
  | comparison op left right =>
    obtain ⟨_, op', v, f, -, -, rfl⟩ := ofPredicate_comparison.1 h
    exact Clause.textMatches_ofComparison f op' v
  | logical op p q ihp ihq =>
    obtain ⟨l, r, hl, hr, rfl⟩ := ofPredicate_logical.1 h
    rw [textMatches, Predicate.textMatches, ihp hl, ihq hr]
  | textMatch name pattern test negated =>
    obtain ⟨f, k, hf, hk, rfl⟩ := ofPredicate_textMatch.1 h
    rw [textMatches, Clause.textMatches_ofTextMatch hk]
    simp [Predicate.textMatches, hf]
  | membership name values negated =>
    obtain ⟨f, -, rfl⟩ := ofPredicate_membership.1 h
    exact Clause.textMatches_ofMembership f values negated

/-- Someone with all that a pattern could mistake in the middle of the name, whose key does not end
in an escape character. -/
def wildPredicate : Predicate :=
  .and (.textMatch "name" (.text "[50%]_\\^-") .contains false)
    (.or (.textMatch "id" (.text "\\") .endsWith true) (.textMatch "id" (.text "") .endsWith true))

end Sift
