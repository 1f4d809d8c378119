import Sift.Condition.Document
import Sift.Proofs.Document.Agreement

/-!
# Where null stands in a filter document

A condition decides about null by its null checks and has no null among its constants. In a filter
document null could still stand for a constant: a document holds constants as JSON, which has no
form for a float that is not finite, and whose null is a value like any other to a condition.

`Predicate.keepNulls_filterOf_iff` says that this is all that can go wrong. If no constant of a
predicate is of these two kinds, its filter looks for null exactly where its condition does; with
one such constant, it looks for null where the condition does not.
-/
namespace Sift

/-! ## The tests of a filter -/

namespace Json

mutual

/-- The tests of columns that a filter is made of, in order, each with its column. -/
def tests : Json → List (String × Json)
  | .object members => testsOfMembers members
  | _ => []

/-- The tests that several members are made of. -/
def testsOfMembers : List (String × Json) → List (String × Json)
  | [] => []
  | (key, test) :: rest => testsUnder key test ++ testsOfMembers rest

/-- The tests that a member is made of. A joint has those of its filters and a constant has none;
anything else is a test of a column, whatever the column is called. -/
def testsUnder (key : String) : Json → List (String × Json)
  | .array filters =>
    if key = "$and" ∨ key = "$or" then testsOfEach filters else [(key, .array filters)]
  | .bool truth => if key = "$expr" then [] else [(key, .bool truth)]
  | test => [(key, test)]

/-- The tests that several filters are made of. -/
def testsOfEach : List Json → List (String × Json)
  | [] => []
  | filter :: rest => tests filter ++ testsOfEach rest

end

@[simp] theorem tests_member (key : String) (test : Json) :
    (member key test).tests = testsUnder key test := by
  simp [member, tests, testsOfMembers]

@[simp] theorem testsUnder_null (column : String) :
    testsUnder column .null = [(column, .null)] := rfl

@[simp] theorem testsUnder_operator (column key : String) (operand : Json) :
    testsUnder column (.member key operand) = [(column, .member key operand)] := rfl

@[simp] theorem testsUnder_expr (truth : Bool) : testsUnder "$expr" (.bool truth) = [] := rfl

/-- A joint of two filters has the tests of both. -/
theorem testsUnder_pair {key : String} (h : key = "$and" ∨ key = "$or") (left right : Json) :
    testsUnder key (.array [left, right]) = left.tests ++ right.tests := by
  simp [testsUnder, h, testsOfEach]

/-- Null is an operand where a constant belongs: something is equal to it or ordered against it, or
it is listed. Inequality to null is a null check. -/
def hasNullOperand : String → Json → Bool
  | "$in", .array items | "$nin", .array items => items.any isNull
  | key, operand => ["$eq", "$gt", "$gte", "$lt", "$lte"].contains key && operand.isNull

/-- A test has null for a constant. -/
def comparesNull : Json → Bool
  | .object operators => operators.any fun (key, operand) => hasNullOperand key operand
  | _ => false

@[simp] theorem comparesNull_null : comparesNull .null = false := rfl

@[simp] theorem comparesNull_member (key : String) (operand : Json) :
    (member key operand).comparesNull = hasNullOperand key operand := by
  simp [member, comparesNull]

/-- The null check that a test of a column is, if it is one: the column, and whether it must not be
null. -/
def nullCheck? : String × Json → Option (String × Bool)
  | (column, .null) => some (column, false)
  | (column, .object [("$ne", .null)]) => some (column, true)
  | _ => none

@[simp] theorem nullCheck?_null (column : String) :
    nullCheck? (column, .null) = some (column, false) := rfl

@[simp] theorem nullCheck?_member (column key : String) (operand : Json) :
    nullCheck? (column, .member key operand) =
      if key = "$ne" ∧ operand.isNull = true then some (column, true) else none := by
  unfold member nullCheck?
  split
  · rename_i hnull
    cases hnull
  · rename_i hcheck
    cases hcheck
    rfl
  · rename_i hother
    refine (if_neg ?_).symm
    rintro ⟨rfl, hnull⟩
    rw [isNull_iff.1 hnull] at hother
    exact hother column rfl

/-- Some tests have no null for a constant, and their null checks are these. -/
def KeepNulls (tests : List (String × Json)) (checks : List (String × Bool)) : Prop :=
  (∀ test ∈ tests, test.2.comparesNull = false) ∧ tests.filterMap nullCheck? = checks

/-- Tests keep to null checks that are surely among theirs if both of two parts do. -/
theorem keepNulls_append_iff {left right : List (String × Json)}
    {before after : List (String × Bool)} (hleft : before.Sublist (left.filterMap nullCheck?))
    (hright : after.Sublist (right.filterMap nullCheck?)) :
    KeepNulls (left ++ right) (before ++ after) ↔
      KeepNulls left before ∧ KeepNulls right after := by
  have hchecks : (left ++ right).filterMap nullCheck? = before ++ after ↔
      left.filterMap nullCheck? = before ∧ right.filterMap nullCheck? = after := by
    rw [List.filterMap_append]
    constructor
    · intro h
      -- no part has too few checks, so neither has too many
      have hlength := congrArg List.length h
      rw [List.length_append, List.length_append] at hlength
      have hbefore := hleft.length_le
      have hafter := hright.length_le
      exact List.append_inj h (by omega)
    · rintro ⟨hl, hr⟩
      rw [hl, hr]
  unfold KeepNulls
  rw [hchecks]
  simp only [List.mem_append, or_imp, forall_and]
  tauto

end Json

/-! ## The tests of a condition -/

namespace NullGuard

/-- The null check of a guard. -/
def nullChecks (f : Field) : NullGuard → List (String × Bool)
  | none => []
  | orNull => [(f.column, false)]
  | andNotNull => [(f.column, true)]

/-- The test of a guard. -/
def tests (f : Field) : NullGuard → List (String × Json)
  | none => []
  | orNull => [(f.column, .null)]
  | andNotNull => [(f.column, .member "$ne" .null)]

theorem filterMap_tests (f : Field) (guard : NullGuard) :
    (guard.tests f).filterMap Json.nullCheck? = guard.nullChecks f := by
  cases guard <;> rfl

theorem keepNulls_tests (f : Field) (guard : NullGuard) :
    Json.KeepNulls (guard.tests f) (guard.nullChecks f) := by
  refine ⟨fun test htest => ?_, filterMap_tests f guard⟩
  cases guard with
  | none => cases htest
  | orNull =>
    obtain rfl := List.mem_singleton.1 htest
    rfl
  | andNotNull =>
    obtain rfl := List.mem_singleton.1 htest
    rfl

end NullGuard

namespace Clause

/-- The null checks of a clause. -/
def nullChecks : Clause → List (String × Bool)
  | always _ => []
  | nullTest f negated => [(f.column, negated)]
  | compare f _ _ guard | oneOf f _ _ guard | like f _ _ _ guard => guard.nullChecks f

/-- The values that a clause has for operands; a pattern is text and not one of them. -/
def operands : Clause → List Value
  | always _ | nullTest .. | like .. => []
  | compare _ _ v _ => [v]
  | oneOf _ values _ _ => values

/-- The filter document of a guarded core has the tests of both. -/
theorem tests_guardFilter (f : Field) (guard : NullGuard) (key : String) (operand : Json) :
    (guardFilter f guard (.member f.column (.member key operand))).tests =
      guard.tests f ++ [(f.column, .member key operand)] := by
  cases guard <;> simp [guardFilter, nullFilter, Json.testsUnder_pair, NullGuard.tests]

/-- A core with one operator keeps nulls behind any guard as far as it does by itself. -/
theorem keepNulls_guardFilter (f : Field) (guard : NullGuard) (key : String) (operand : Json) :
    Json.KeepNulls (guardFilter f guard (.member f.column (.member key operand))).tests
        (guard.nullChecks f) ↔
      (Json.member key operand).comparesNull = false ∧
        Json.nullCheck? (f.column, .member key operand) = none := by
  have hguard : (guard.nullChecks f).Sublist ((guard.tests f).filterMap Json.nullCheck?) := by
    rw [guard.filterMap_tests]
  have happend := Json.keepNulls_append_iff hguard
    (List.nil_sublist ([(f.column, Json.member key operand)].filterMap Json.nullCheck?))
  rw [List.append_nil] at happend
  rw [tests_guardFilter, happend, and_iff_right (guard.keepNulls_tests f)]
  unfold Json.KeepNulls
  rw [List.filterMap_eq_nil_iff]
  simp

/-- A clause keeps nulls if none of its operands is null as JSON. -/
theorem keepNulls_filter_iff (c : Clause) :
    Json.KeepNulls c.filter.tests c.nullChecks ↔ ∀ v ∈ c.operands, v.toJson.isNull = false := by
  cases c with
  | always truth =>
    simp [filter, Json.KeepNulls, nullChecks, operands]
  | nullTest f negated =>
    cases negated <;>
      simp [filter, nullFilter, Json.KeepNulls, Json.hasNullOperand, Json.isNull, nullChecks,
        operands]
  | compare f op v guard =>
    refine (keepNulls_guardFilter f guard op.filterKey v.toJson).trans ?_
    rw [operands, List.forall_mem_singleton]
    cases op <;> cases v.toJson <;>
      simp [Json.hasNullOperand, Json.isNull, Comparator.filterKey]
  | oneOf f values negated guard =>
    refine (keepNulls_guardFilter f guard _ (.array (values.map Value.toJson))).trans ?_
    cases negated <;>
      simp [Json.hasNullOperand, operands]
  | like f pattern test negated guard =>
    cases negated with
    | false =>
      refine (keepNulls_guardFilter f guard "$regex" (.string (test.regex pattern))).trans ?_
      simp [Json.hasNullOperand, operands]
    | true =>
      refine (keepNulls_guardFilter f guard "$not"
        (.member "$regex" (.string (test.regex pattern)))).trans ?_
      simp [Json.hasNullOperand, operands]

/-- The null checks of a clause are among the tests of its filter. -/
theorem nullChecks_sublist (c : Clause) :
    c.nullChecks.Sublist (c.filter.tests.filterMap Json.nullCheck?) := by
  have hguard : ∀ (f : Field) (guard : NullGuard) (key : String) (operand : Json),
      (guard.nullChecks f).Sublist ((guardFilter f guard
        (.member f.column (.member key operand))).tests.filterMap Json.nullCheck?) := by
    intro f guard key operand
    rw [tests_guardFilter, List.filterMap_append, guard.filterMap_tests]
    exact List.sublist_append_left _ _
  cases c with
  | always truth => exact List.nil_sublist _
  | nullTest f negated =>
    have hkeep : Json.KeepNulls (nullTest f negated).filter.tests (nullTest f negated).nullChecks :=
      (keepNulls_filter_iff _).2 fun v hv => nomatch hv
    rw [hkeep.2]
  | compare f op v guard => exact hguard f guard _ _
  | oneOf f values negated guard => exact hguard f guard _ _
  | like f pattern test negated guard =>
    cases negated with
    | false => exact hguard f guard _ _
    | true => exact hguard f guard _ _

end Clause

namespace Condition

/-- The null checks of a condition: its tests for null and its guards, in order. -/
def nullChecks : Condition → List (String × Bool)
  | clause c => c.nullChecks
  | logical _ left right => left.nullChecks ++ right.nullChecks

/-- The operands of all clauses of a condition. -/
def operands : Condition → List Value
  | clause c => c.operands
  | logical _ left right => left.operands ++ right.operands

theorem tests_filter_logical (op : Connective) (left right : Condition) :
    (logical op left right).filter.tests = left.filter.tests ++ right.filter.tests := by
  rw [filter, Json.tests_member]
  exact Json.testsUnder_pair (by cases op <;> decide) _ _

theorem nullChecks_sublist (c : Condition) :
    c.nullChecks.Sublist (c.filter.tests.filterMap Json.nullCheck?) := by
  induction c with
  | clause c => exact c.nullChecks_sublist
  | logical op left right ihl ihr =>
    rw [tests_filter_logical, List.filterMap_append]
    exact ihl.append ihr

/-- A condition keeps nulls if none of its operands is null as JSON. -/
theorem keepNulls_filter_iff (c : Condition) :
    Json.KeepNulls c.filter.tests c.nullChecks ↔ ∀ v ∈ c.operands, v.toJson.isNull = false := by
  induction c with
  | clause c => exact c.keepNulls_filter_iff
  | logical op left right ihl ihr =>
    rw [tests_filter_logical, nullChecks, operands,
      Json.keepNulls_append_iff left.nullChecks_sublist right.nullChecks_sublist, ihl, ihr]
    simp only [List.mem_append, or_imp, forall_and]

end Condition

/-! ## The constants of a predicate -/

/-- A value is null as JSON if it is null itself, the null of JSON, or a float that is not
finite. -/
theorem Value.isNull_toJson_iff {v : Value} :
    v.toJson.isNull = true ↔
      v = .null ∨ v = .json .null ∨ ∃ x, v = .float x ∧ x.isFinite = false := by
  rw [Json.isNull_iff]
  cases v with
  | float x =>
    rw [toJson, asJson, Json.ofDouble]
    cases hx : x.isFinite <;> simp [hx]
  | null => simp
  | json j => simp
  | _ => simp [toJson, asJson]

theorem Clause.mem_operands_ofComparison {f : Field} {op : Comparator} {v w : Value} :
    w ∈ (ofComparison f op v).operands ↔ w = v ∧ w.isNull = false := by
  cases hv : v.isNull with
  | true =>
    obtain rfl := Value.isNull_iff.1 hv
    have hnone : (ofComparison f op .null).operands = [] := by cases op <;> rfl
    rw [hnone]
    constructor
    · intro hw
      cases hw
    · rintro ⟨rfl, hw⟩
      cases hw
  | false =>
    rw [ofComparison_of_isNull_eq_false f op hv, operands, List.mem_singleton]
    constructor
    · rintro rfl
      exact ⟨rfl, hv⟩
    · exact And.left

theorem Clause.mem_operands_ofMembership {f : Field} {values : List Value} {negated : Bool}
    {w : Value} : w ∈ (ofMembership f values negated).operands ↔ w ∈ values ∧ w.isNull = false := by
  have hfilter : w ∈ values.filter (fun v => !v.isNull) ↔ w ∈ values ∧ w.isNull = false := by
    simp [List.mem_filter]
  rw [← hfilter]
  unfold ofMembership
  split
  · rename_i hnone
    simp [List.isEmpty_iff.1 hnone, operands]
  · split
    · rename_i hkept
      simp [hkept, operands]
    · rename_i first rest hkept
      simp [hkept, operands]

theorem Clause.operands_ofTextMatch {f : Field} {pattern : Value} {test : TextTest} {negated : Bool}
    {c : Clause} (h : ofTextMatch f pattern test negated = .ok c) :
    c.operands = [] ∧ (pattern.isNull = true ∨ ∃ s, pattern = .text s) := by
  unfold ofTextMatch at h
  split at h
  · split at h
    · cases h
      exact ⟨rfl, .inl rfl⟩
    · rename_i s
      split at h
      · cases h
        exact ⟨rfl, .inr ⟨s, rfl⟩⟩
      · cases h
        exact ⟨rfl, .inr ⟨s, rfl⟩⟩
    · cases h
  · cases h

theorem Operand.constants_of_orient {op op' : Comparator} {left right : Operand} {name : String}
    {v : Value} (h : orient op left right = .ok (name, op', v)) :
    left.constants ++ right.constants = [v] := by
  cases left with
  | field n =>
    cases right with
    | field m => cases h
    | constant w =>
      cases h
      rfl
  | constant w =>
    cases right with
    | field m =>
      cases h
      rfl
    | constant u => cases h

/-- The operands of a condition are the constants of its predicate that are neither null nor text:
a text may be a pattern. -/
theorem Condition.mem_operands_iff {t : Table} {p : Predicate} {c : Condition}
    (h : Condition.ofPredicate t p = .ok c) {v : Value} (htext : ∀ s, v ≠ .text s) :
    v ∈ c.operands ↔ v ∈ p.constants ∧ v.isNull = false := by
  induction p generalizing c with
  | comparison op left right =>
    obtain ⟨name, op', w, f, ho, -, rfl⟩ := ofPredicate_comparison.1 h
    rw [Predicate.constants, Operand.constants_of_orient ho, List.mem_singleton]
    exact Clause.mem_operands_ofComparison
  | logical op p q ihp ihq =>
    obtain ⟨l, r, hl, hr, rfl⟩ := ofPredicate_logical.1 h
    rw [operands, Predicate.constants, List.mem_append, List.mem_append, ihp hl, ihq hr,
      or_and_right]
  | textMatch name pattern test negated =>
    obtain ⟨f, k, -, hk, rfl⟩ := ofPredicate_textMatch.1 h
    obtain ⟨hnone, hpattern⟩ := Clause.operands_ofTextMatch hk
    rw [operands, hnone, Predicate.constants, List.mem_singleton]
    constructor
    · intro hv
      cases hv
    · rintro ⟨rfl, hnull⟩
      rcases hpattern with hpattern | ⟨s, rfl⟩
      · rw [hpattern] at hnull
        cases hnull
      · exact absurd rfl (htext s)
  | membership name values negated =>
    obtain ⟨f, -, rfl⟩ := ofPredicate_membership.1 h
    exact Clause.mem_operands_ofMembership

/-- A predicate that is accepted has a filter document. It looks for null exactly where the null
checks of the condition are, and nowhere has null for a constant, if and only if JSON keeps the
constants of the predicate apart from null: none is the null of JSON or a float that is not finite.
-/
theorem Predicate.keepNulls_filterOf_iff {t : Table} {p : Predicate} {c : Condition}
    (h : Condition.ofPredicate t p = .ok c) :
    ∃ filter, t.filterOf p = .ok filter ∧
      (Json.KeepNulls filter.tests c.nullChecks ↔
        ∀ v ∈ p.constants, v ≠ .json .null ∧ ∀ x, v = .float x → x.isFinite = true) := by
  have hfilter : t.filterOf p = .ok c.filter := by
    rw [Table.filterOf, h]
    rfl
  refine ⟨c.filter, hfilter, ?_⟩
  rw [c.keepNulls_filter_iff]
  constructor
  · intro hkept v hv
    constructor
    · rintro rfl
      have hmem := (Condition.mem_operands_iff h (by simp)).2 ⟨hv, rfl⟩
      exact absurd (hkept _ hmem) (by simp [Json.isNull])
    · rintro x rfl
      by_contra hx
      have hmem := (Condition.mem_operands_iff h (by simp)).2 ⟨hv, rfl⟩
      have hnull := Value.isNull_toJson_iff.2 (.inr (.inr ⟨x, rfl, Bool.eq_false_iff.2 hx⟩))
      rw [hkept _ hmem] at hnull
      cases hnull
  · intro hkept v hv
    by_contra hnull
    rw [Bool.not_eq_false, Value.isNull_toJson_iff] at hnull
    rcases hnull with rfl | rfl | ⟨x, rfl, hx⟩
    · obtain ⟨-, hnot⟩ := (Condition.mem_operands_iff h (by simp)).1 hv
      cases hnot
    · obtain ⟨hmem, -⟩ := (Condition.mem_operands_iff h (by simp)).1 hv
      exact (hkept _ hmem).1 rfl
    · obtain ⟨hmem, -⟩ := (Condition.mem_operands_iff h (by simp)).1 hv
      rw [(hkept _ hmem).2 x rfl] at hx
      cases hx

/-- A table of measurements, each with a score and with what else is known. -/
def Table.samples : Table where
  entity := ⟨"Sample", "samples",
    [⟨"id", "id", ⟨.int64, false⟩, true⟩, ⟨"score", "score", ⟨.float64, true⟩, false⟩,
      ⟨"meta", "meta", ⟨.json, true⟩, false⟩]⟩
  dialect := .document
  key := ⟨"id", "id", ⟨.int64, false⟩, true⟩
  keys_eq := rfl
  distinct := by decide

theorem Predicate.keepNulls_pickyPredicate : ∃ filter c,
    Condition.ofPredicate (.people .document) pickyPredicate = .ok c ∧
    (Table.people .document).filterOf pickyPredicate = .ok filter ∧
    Json.KeepNulls filter.tests c.nullChecks ∧
    c.nullChecks = [("na\"m\x60e] = $1", true), ("na\"m\x60e] = $1", false), ("age", false)] := by
  obtain ⟨c, hc⟩ : ∃ c, Condition.ofPredicate (.people .document) pickyPredicate = .ok c := ⟨_, rfl⟩
  obtain ⟨filter, hfilter, hkept⟩ := keepNulls_filterOf_iff hc
  have hconstants : pickyPredicate.constants =
      [.text "ann", .null, .text "bob", .int 20, .text "rose", .int 20] := rfl
  refine ⟨filter, c, hc, hfilter, hkept.2 ?_, ?_⟩
  · simp [hconstants]
  · cases hc
    rfl

/-- The score is not a number. -/
def notANumber : Predicate := .compare .eq "score" (.float ⟨0x7ff8000000000000⟩)

/-- To ask for a score that is not a number is to ask for one that is null, though the condition has
no null check. -/
theorem Predicate.filterOf_notANumber : ∃ c filter,
    Condition.ofPredicate .samples notANumber = .ok c ∧
    Table.samples.filterOf notANumber = .ok filter ∧
    filter = .member "score" (.member "$eq" .null) ∧ c.nullChecks = [] ∧
    ¬ Json.KeepNulls filter.tests c.nullChecks := by
  have hnan : (⟨0x7ff8000000000000⟩ : Binary64).isFinite = false := by decide
  have hjson : (Value.float ⟨0x7ff8000000000000⟩).toJson = .null := by
    rw [Value.toJson, Value.asJson, Json.ofDouble, hnan]
    rfl
  refine ⟨_, _, rfl, rfl, ?_, rfl, ?_⟩
  · rw [← hjson]
    rfl
  · rw [Condition.keepNulls_filter_iff]
    intro hkept
    have hnull := hkept (.float ⟨0x7ff8000000000000⟩) (List.mem_singleton_self _)
    rw [hjson] at hnull
    cases hnull

end Sift
