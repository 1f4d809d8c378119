import Mathlib.Data.List.Infix
import Sift.Proofs.Lowering

/-!
# Predicates and conditions on a row

A row holds in each column nothing or something that is not null. On a row a predicate is simply
true or false: null equals null and nothing else, and nothing is ordered against null. A condition
is evaluated as a relational store does it, where a comparison with a null column is neither true
nor false. `Condition.truth_eq_yes_iff` says that the rows for which an accepted predicate holds are
the rows for which the condition it was lowered to is true.

A condition that does not hold may well be unknown. That does no harm because nothing negates it: in
a tree of conjunctions and disjunctions being true depends only on which leaves are true.
-/
namespace Sift

/-- A truth value of a relational store. -/
inductive Truth where
  | yes
  | no
  | unknown
deriving DecidableEq

namespace Truth

/-- The truth value of a test that is never unknown. -/
def ofBool : Bool → Truth
  | true => yes
  | false => no

/-- Conjunction: a side that is false decides. -/
def and : Truth → Truth → Truth
  | no, _ => no
  | yes, s => s
  | unknown, no => no
  | unknown, _ => unknown

/-- Disjunction: a side that is true decides. -/
def or : Truth → Truth → Truth
  | yes, _ => yes
  | no, s => s
  | unknown, yes => yes
  | unknown, _ => unknown

/-- Negation, if it is asked for. -/
def negate : Bool → Truth → Truth
  | false, s => s
  | true, yes => no
  | true, no => yes
  | true, unknown => unknown

/-- Only rows for which a condition is true are selected. -/
def isYes : Truth → Bool
  | yes => true
  | _ => false

theorem isYes_iff {s : Truth} : s.isYes = true ↔ s = yes := by
  cases s <;> simp [isYes]

@[simp] theorem isYes_unknown : unknown.isYes = false := rfl

@[simp] theorem isYes_ofBool (b : Bool) : (ofBool b).isYes = b := by
  cases b <;> rfl

@[simp] theorem isYes_and (s u : Truth) : (s.and u).isYes = (s.isYes && u.isYes) := by
  cases s <;> cases u <;> rfl

@[simp] theorem isYes_or (s u : Truth) : (s.or u).isYes = (s.isYes || u.isYes) := by
  cases s <;> cases u <;> rfl

@[simp] theorem ofBool_or_ofBool (b c : Bool) : (ofBool b).or (ofBool c) = ofBool (b || c) := by
  cases b <;> rfl

@[simp] theorem negate_ofBool (negated b : Bool) :
    (ofBool b).negate negated = ofBool (b != negated) := by
  cases negated <;> cases b <;> rfl

@[simp] theorem negate_unknown (negated : Bool) : unknown.negate negated = unknown := by
  cases negated <;> rfl

end Truth

/-- How a store reads what is not null: what its constants stand for, which things are equal, in
which order they come and which of them match a pattern. Equality and order need not have to do with
each other; both may be looked at from either side. -/
structure Reading (α : Type) where
  constant : Value → α
  same : α → α → Bool
  order : α → α → Ordering
  fits : TextTest → String → α → Bool
  same_comm : ∀ x y, same x y = same y x
  order_swap : ∀ x y, order x y = (order y x).swap

variable {α : Type}

namespace Reading

variable (r : Reading α)

/-- What a constant puts into a cell. -/
def cell (v : Value) : Option α := if v.isNull then none else some (r.constant v)

/-- Equality with null equal to null. -/
def equal : Option α → Option α → Bool
  | none, none => true
  | some x, some y => r.same x y
  | _, _ => false

/-- A test of the order; null is before nothing and after nothing. -/
def ordered (test : Ordering → Bool) : Option α → Option α → Bool
  | some x, some y => test (r.order x y)
  | _, _ => false

@[simp] theorem cell_null : r.cell .null = none := rfl

theorem cell_eq_some {v : Value} (h : v.isNull = false) : r.cell v = some (r.constant v) := by
  simp [cell, h]

theorem equal_comm (a b : Option α) : r.equal a b = r.equal b a := by
  cases a with
  | none => cases b <;> rfl
  | some x =>
    cases b with
    | none => rfl
    | some y => exact r.same_comm x y

/-- Exchanging the sides of a test of the order turns the test around. -/
theorem ordered_swap {test turned : Ordering → Bool} (h : ∀ o : Ordering, test o.swap = turned o)
    (a b : Option α) : r.ordered test a b = r.ordered turned b a := by
  cases a with
  | none => cases b <;> rfl
  | some x =>
    cases b with
    | none => rfl
    | some y =>
      change test (r.order x y) = turned (r.order y x)
      rw [r.order_swap x y, h]

end Reading

namespace Comparator

variable (r : Reading α)

/-- What an operator says about two cells. -/
def holds : Comparator → Option α → Option α → Bool
  | eq, a, b => r.equal a b
  | ne, a, b => !r.equal a b
  | gt, a, b => r.ordered Ordering.isGT a b
  | ge, a, b => r.ordered Ordering.isGE a b
  | lt, a, b => r.ordered Ordering.isLT a b
  | le, a, b => r.ordered Ordering.isLE a b

/-- What an operator says in three-valued logic: nothing, if one of the cells is null. -/
def truth (op : Comparator) : Option α → Option α → Truth
  | some x, some y => .ofBool (op.holds r (some x) (some y))
  | _, _ => .unknown

/-- Flipping an operator is the same as exchanging its operands. -/
theorem holds_flip (op : Comparator) (a b : Option α) : op.flip.holds r a b = op.holds r b a := by
  cases op with
  | eq => exact r.equal_comm a b
  | ne => exact congrArg (!·) (r.equal_comm a b)
  | gt => exact r.ordered_swap (fun o => by cases o <;> rfl) a b
  | ge => exact r.ordered_swap (fun o => by cases o <;> rfl) a b
  | lt => exact r.ordered_swap (fun o => by cases o <;> rfl) a b
  | le => exact r.ordered_swap (fun o => by cases o <;> rfl) a b

end Comparator

/-- What an operand is on a row. Cells of a row go by their columns. -/
def Operand.cell (r : Reading α) (t : Table) (row : String → Option α) : Operand → Option α
  | field name => (t.field? name).bind fun f => row f.column
  | constant v => r.cell v

/-- What a text match says about a cell. What is not null contains the empty text, and nothing is
known to match or not to match null. -/
def TextTest.holds (r : Reading α) (test : TextTest) (pattern : Value) (negated : Bool)
    (cell : Option α) : Bool :=
  match pattern with
  | .text s => cell.any (fun x => s.isEmpty || r.fits test s x) != negated
  | _ => false

/-- Whether a cell equals one of some constants, null among them or not. -/
def Reading.among (r : Reading α) (values : List Value) (cell : Option α) : Bool :=
  values.any fun v => r.equal (r.cell v) cell

/-- Which rows a predicate is about. -/
def Predicate.holds (r : Reading α) (t : Table) (row : String → Option α) : Predicate → Bool
  | comparison op left right => op.holds r (left.cell r t row) (right.cell r t row)
  | logical .and left right => left.holds r t row && right.holds r t row
  | logical .or left right => left.holds r t row || right.holds r t row
  | textMatch name pattern test negated =>
    test.holds r pattern negated ((Operand.field name).cell r t row)
  | membership name values negated =>
    r.among values ((Operand.field name).cell r t row) != negated

/-- A core with its guard. -/
def NullGuard.truth (cell : Option α) (core : Truth) : NullGuard → Truth
  | none => core
  | orNull => (Truth.ofBool cell.isNone).or core
  | andNotNull => (Truth.ofBool cell.isSome).and core

/-- Whether a cell equals one of some constants. -/
def Reading.listed (r : Reading α) (cell : Option α) : List Value → Truth
  | [] => .no
  | v :: rest => (Comparator.eq.truth r cell (r.cell v)).or (r.listed cell rest)

/-- Whether the text in a cell matches a pattern. -/
def Reading.like (r : Reading α) (test : TextTest) (pattern : String) : Option α → Truth
  | none => .unknown
  | some x => .ofBool (r.fits test pattern x)

/-- What a store makes of a clause on a row. -/
def Clause.truth (r : Reading α) (row : String → Option α) : Clause → Truth
  | always truth => .ofBool truth
  | nullTest f negated => .ofBool ((row f.column).isNone != negated)
  | compare f op v guard => guard.truth (row f.column) (op.truth r (row f.column) (r.cell v))
  | oneOf f values negated guard =>
    guard.truth (row f.column) ((r.listed (row f.column) values).negate negated)
  | like f pattern test negated guard =>
    guard.truth (row f.column) ((r.like test pattern (row f.column)).negate negated)

/-- What a store makes of a condition on a row. -/
def Condition.truth (r : Reading α) (row : String → Option α) : Condition → Truth
  | clause c => c.truth r row
  | logical .and left right => (left.truth r row).and (right.truth r row)
  | logical .or left right => (left.truth r row).or (right.truth r row)

/-! ## Clauses -/

section Clauses

variable (r : Reading α) (row : String → Option α) (f : Field)

/-- A guard that keeps rows whose column is null. -/
@[simp] theorem NullGuard.isYes_orNull (cell : Option α) (core : Truth) :
    (NullGuard.orNull.truth cell core).isYes = (cell.isNone || core.isYes) := by
  simp [NullGuard.truth]

/-- A guard that drops rows whose column is null. -/
@[simp] theorem NullGuard.isYes_andNotNull (cell : Option α) (core : Truth) :
    (NullGuard.andNotNull.truth cell core).isYes = (cell.isSome && core.isYes) := by
  simp [NullGuard.truth]

@[simp] theorem NullGuard.truth_none (cell : Option α) (core : Truth) :
    NullGuard.none.truth cell core = core := rfl

/-- The guard of a comparison makes up for what is unknown. -/
theorem Clause.isYes_ofComparison (op : Comparator) (v : Value) :
    ((Clause.ofComparison f op v).truth r row).isYes = op.holds r (row f.column) (r.cell v) := by
  cases hv : v.isNull with
  | true =>
    obtain rfl := Value.isNull_iff.1 hv
    rw [r.cell_null]
    cases op <;> cases h : row f.column <;>
      simp [ofComparison, truth, h, Comparator.holds, Reading.equal, Reading.ordered]
  | false =>
    rw [ofComparison_of_isNull_eq_false f op hv, r.cell_eq_some hv, truth, r.cell_eq_some hv]
    cases op <;> cases h : row f.column <;>
      simp [compareGuard, Comparator.truth, Comparator.holds, Reading.equal, Reading.ordered]

@[simp] theorem Reading.among_nil (cell : Option α) : r.among [] cell = false := rfl

/-- Nothing can be said about whether a null is among some constants. -/
theorem Reading.listed_none {values : List Value} (h : values ≠ []) :
    r.listed none values = .unknown := by
  induction values with
  | nil => exact absurd rfl h
  | cons v rest ih =>
    cases rest with
    | nil => rfl
    | cons w rest =>
      rw [listed, ih (List.cons_ne_nil w rest)]
      rfl

/-- Among constants that are not null, something that is not null is found or not. -/
theorem Reading.listed_some (x : α) {values : List Value} (h : ∀ v ∈ values, v.isNull = false) :
    r.listed (some x) values = .ofBool (r.among values (some x)) := by
  induction values with
  | nil => rfl
  | cons v rest ih =>
    have hv : v.isNull = false := h v (List.mem_cons_self ..)
    have hrest := ih fun w hw => h w (List.mem_cons_of_mem v hw)
    rw [listed, hrest, among, among, List.any_cons, r.cell_eq_some hv]
    simp [Comparator.truth, Comparator.holds, Reading.equal, r.same_comm]

/-- Nulls among the constants matter only to a cell that is null. -/
theorem Reading.among_some (x : α) (values : List Value) :
    r.among values (some x) = r.among (values.filter fun v => !v.isNull) (some x) := by
  rw [among, among, List.any_filter]
  congr 1
  funext v
  cases hv : v.isNull with
  | true =>
    obtain rfl := Value.isNull_iff.1 hv
    rfl
  | false => simp

/-- A cell that is null is among the constants if null is. -/
theorem Reading.among_none (values : List Value) :
    r.among values none = values.any Value.isNull := by
  rw [among]
  congr 1
  funext v
  cases hv : v.isNull with
  | true =>
    obtain rfl := Value.isNull_iff.1 hv
    rfl
  | false => simp [r.cell_eq_some hv, Reading.equal]

/-- The guard of a membership test makes up for what is unknown and for the nulls left out. -/
theorem Clause.isYes_ofMembership (values : List Value) (negated : Bool) :
    ((Clause.ofMembership f values negated).truth r row).isYes =
      (r.among values (row f.column) != negated) := by
  unfold ofMembership
  cases hempty : values.isEmpty with
  | true =>
    obtain rfl := List.isEmpty_iff.1 hempty
    simp [truth]
  | false =>
    have hsome := fun x => r.among_some x values
    have hnone := r.among_none values
    cases hkept : values.filter (fun v => !v.isNull) with
    | nil =>
      have hall : values.any Value.isNull = true := by
        obtain ⟨v, hv⟩ := List.exists_mem_of_ne_nil values (by simpa using hempty)
        have hnull := List.filter_eq_nil_iff.1 hkept v hv
        exact List.any_eq_true.2 ⟨v, hv, by simpa using hnull⟩
      cases h : row f.column with
      | none => simp [truth, h, hnone, hall]
      | some x => simp [truth, h, hsome, hkept]
    | cons first rest =>
      have hnot : ∀ v ∈ first :: rest, v.isNull = false := by
        intro v hv
        rw [← hkept] at hv
        simpa using (List.mem_filter.1 hv).2
      cases h : row f.column with
      | none =>
        rw [hnone]
        cases negated <;> cases hn : values.any Value.isNull <;>
          simp [truth, h, membershipGuard, r.listed_none]
      | some x =>
        rw [hsome, hkept]
        cases negated <;> cases hn : values.any Value.isNull <;>
          simp [truth, h, membershipGuard, r.listed_some x hnot]

/-- A negated match makes up for what is unknown; the empty pattern is a test for null. -/
theorem Clause.isYes_ofTextMatch {pattern : Value} {test : TextTest} {negated : Bool} {c : Clause}
    (h : Clause.ofTextMatch f pattern test negated = .ok c) :
    (c.truth r row).isYes = test.holds r pattern negated (row f.column) := by
  unfold ofTextMatch at h
  split at h
  · split at h
    · cases h
      rfl
    · rename_i s
      split at h
      · rename_i hs
        cases h
        cases hc : row f.column <;> simp [truth, TextTest.holds, hc, hs]
      · rename_i hs
        cases h
        cases negated <;> cases hc : row f.column <;>
          simp [truth, TextTest.holds, hc, hs, Reading.like]
    · cases h
  · cases h

end Clauses

/-! ## Predicates -/

/-- Turning a comparison so that its field comes first keeps its meaning. -/
theorem Operand.holds_of_orient (r : Reading α) (t : Table) (row : String → Option α)
    {op op' : Comparator} {left right : Operand} {name : String} {v : Value}
    (h : orient op left right = .ok (name, op', v)) :
    op.holds r (left.cell r t row) (right.cell r t row) =
      op'.holds r ((Operand.field name).cell r t row) (r.cell v) := by
  cases left with
  | field n =>
    cases right with
    | field m => cases h
    | constant w =>
      cases h
      rfl
  | constant w =>
    cases right with
    | field m =>
      cases h
      rw [Comparator.holds_flip]
      rfl
    | constant u => cases h

theorem Operand.cell_field {r : Reading α} {t : Table} {row : String → Option α} {name : String}
    {f : Field} (h : t.field? name = some f) :
    (Operand.field name).cell r t row = row f.column := by
  simp [cell, h]

/-- Being true, what a predicate was lowered to says the same as the predicate. -/
theorem Condition.isYes_truth (r : Reading α) (row : String → Option α) {t : Table} {p : Predicate}
    {c : Condition} (h : Condition.ofPredicate t p = .ok c) :
    (c.truth r row).isYes = p.holds r t row := by
  induction p generalizing c with
  | comparison op left right =>
    obtain ⟨name, op', v, f, ho, hf, rfl⟩ := ofPredicate_comparison.1 h
    rw [Predicate.holds, Operand.holds_of_orient r t row ho, Operand.cell_field hf]
    exact Clause.isYes_ofComparison r row f op' v
  | logical op p q ihp ihq =>
    obtain ⟨left, right, hl, hr, rfl⟩ := ofPredicate_logical.1 h
    -- both joints are monotone, so what is unknown below may count as false
    cases op with
    | and => rw [truth, Truth.isYes_and, ihp hl, ihq hr, Predicate.holds]
    | or => rw [truth, Truth.isYes_or, ihp hl, ihq hr, Predicate.holds]
  | textMatch name pattern test negated =>
    obtain ⟨f, k, hf, hk, rfl⟩ := ofPredicate_textMatch.1 h
    rw [Predicate.holds, Operand.cell_field hf]
    exact Clause.isYes_ofTextMatch r row f hk
  | membership name values negated =>
    obtain ⟨f, hf, rfl⟩ := ofPredicate_membership.1 h
    rw [Predicate.holds, Operand.cell_field hf]
    exact Clause.isYes_ofMembership r row f values negated

/-- The rows for which an accepted predicate holds are the rows for which the condition it was
lowered to is true, however a store reads its constants and whatever is null. -/
theorem Condition.truth_eq_yes_iff {t : Table} {p : Predicate} {c : Condition}
    (h : Condition.ofPredicate t p = .ok c) (r : Reading α) (row : String → Option α) :
    c.truth r row = .yes ↔ p.holds r t row = true := by
  rw [← Truth.isYes_iff, isYes_truth r row h]

/-- Constants read as their JSON text, compared character by character. -/
def Reading.ofText : Reading String where
  constant v := v.text?.getD v.toJson.render
  same x y := x == y
  order x y := compare x y
  fits
    | .contains, pattern, x => decide (pattern.toList <:+: x.toList)
    | .startsWith, pattern, x => decide (pattern.toList <+: x.toList)
    | .endsWith, pattern, x => decide (pattern.toList <:+ x.toList)
  same_comm _ _ := Bool.beq_comm
  order_swap _ _ := Std.OrientedCmp.eq_swap

/-- Someone without a name, thirty years old. -/
def namelessRow (column : String) : Option String :=
  if column = "id" then some "p1" else if column = "age" then some "30" else none

theorem truth_pickyPredicate :
    ∃ c, Condition.ofPredicate (.people (.sql .postgres)) pickyPredicate = .ok c ∧
      c.truth .ofText namelessRow = .yes := by
  have h : pickyPredicate.holds .ofText (.people (.sql .postgres)) namelessRow = true := rfl
  exact ⟨_, rfl, (Condition.truth_eq_yes_iff rfl .ofText namelessRow).2 h⟩

end Sift
