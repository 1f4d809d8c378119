import Sift.Proofs.NullLogic
import Sift.Proofs.Sql.Expression
import Sift.Proofs.Sql.Pattern

/-!
# Conditions evaluated by a relational store

`SqlExpr.truth` is what a store makes of the text of a condition on a row, once the text has been
read: a test of a null is neither true nor false, patterns are matched by the rules of the dialect,
and `AND` and `OR` are those of three-valued logic. How values that are not null compare is left to
the store; `Comparison` is all that is known of it.
-/
namespace Sift

/-- How a store compares what is not null. The operators need not have to do with each other, apart
from equality and its opposite. -/
structure Comparison where
  test : Comparator → Value → Value → Bool
  test_ne : ∀ v w, test .ne v w = !test .eq v w
  /-- The text in which a pattern is looked for; there need not be one. -/
  text? : Value → Option String

/-- What an operator says of an order; values that are not ordered are different. -/
def Comparator.admits : Comparator → Option Ordering → Bool
  | eq, o => o == some .eq
  | ne, o => !(o == some .eq)
  | gt, o => o.any Ordering.isGT
  | ge, o => o.any Ordering.isGE
  | lt, o => o.any Ordering.isLT
  | le, o => o.any Ordering.isLE

/-- Values are ordered within their type. -/
def Value.order? : Value → Value → Option Ordering
  | bool b, bool c => some (compare b c)
  | int m, int n => some (compare m.toInt n.toInt)
  | text s, text u => some (compare s u)
  | _, _ => none

namespace Comparison

/-- A store that compares values of the same type and searches in texts alone. -/
def withinTypes : Comparison where
  test op v w := op.admits (v.order? w)
  test_ne _ _ := rfl
  text? := Value.text?

variable (cmp : Comparison)

/-- What an operator says in three-valued logic: nothing, if one of its sides is null. -/
def truth (op : Comparator) (v w : Value) : Truth :=
  if v.isNull || w.isNull then .unknown else .ofBool (cmp.test op v w)

/-- Whether a value equals one of several. -/
def listed (v : Value) : List Value → Truth
  | [] => .no
  | w :: rest => (cmp.truth .eq v w).or (listed v rest)

/-- Whether a value passes a text test; what is null does not. -/
def passes (v : Value) (test : TextTest) (pattern : List Char) : Bool :=
  !v.isNull && (cmp.text? v).any fun text => test.fits pattern text.toList

/-- Whether a value matches the text of a pattern; nothing can be said of what is no pattern. -/
def like (d : SqlDialect) (declared : Option String) (v pattern : Value) : Truth :=
  match pattern.text?.bind (LikePattern.read? d declared) with
  | none => .unknown
  | some items =>
    if v.isNull then .unknown
    else .ofBool ((cmp.text? v).any fun text => LikePattern.fits items text.toList)

theorem truth_of_isNull (op : Comparator) {v : Value} (h : v.isNull = true) (w : Value) :
    cmp.truth op v w = .unknown := by
  simp [truth, h]

theorem truth_of_isNull_eq_false (op : Comparator) {v w : Value} (hv : v.isNull = false)
    (hw : w.isNull = false) : cmp.truth op v w = .ofBool (cmp.test op v w) := by
  simp [truth, hv, hw]

/-- Nothing can be said about whether a null is one of some values. -/
theorem listed_of_isNull {v : Value} (h : v.isNull = true) {values : List Value}
    (hne : values ≠ []) : cmp.listed v values = .unknown := by
  induction values with
  | nil => exact absurd rfl hne
  | cons w rest ih =>
    rw [listed, cmp.truth_of_isNull .eq h]
    cases rest with
    | nil => rfl
    | cons next rest =>
      rw [ih (List.cons_ne_nil next rest)]
      rfl

/-- Among values that are not null, something that is not null is found or not. -/
theorem listed_of_isNull_eq_false {v : Value} (h : v.isNull = false) {values : List Value}
    (hvalues : ∀ w ∈ values, w.isNull = false) :
    cmp.listed v values = .ofBool (values.any fun w => cmp.test .eq v w) := by
  induction values with
  | nil => rfl
  | cons w rest ih =>
    have hw := hvalues w (List.mem_cons_self ..)
    have hrest := ih fun u hu => hvalues u (List.mem_cons_of_mem w hu)
    rw [listed, hrest, cmp.truth_of_isNull_eq_false .eq h hw, Truth.ofBool_or_ofBool,
      List.any_cons]

/-- The pattern of a test, matched by the rules of the dialect, is the test. -/
theorem like_wildcards (d : SqlDialect) (test : TextTest) (pattern : String) (v : Value) :
    cmp.like d d.declaredEscape v (.text (test.wildcards (d.escapeLike pattern))) =
      if v.isNull then .unknown else .ofBool (cmp.passes v test pattern.toList) := by
  rw [like]
  simp only [Value.text?, Option.bind_some, LikePattern.read?_wildcards, LikePattern.fits_ofTest]
  cases h : v.isNull with
  | true => rfl
  | false => simp [passes, h]

end Comparison

namespace SqlExpr

/-- What a store makes of a condition on a row. -/
def truth (d : SqlDialect) (cmp : Comparison) (row : String → Value) : SqlExpr → Truth
  | always truth => .ofBool truth
  | nullTest column negated => .ofBool ((row column).isNull != negated)
  | compare column op v => cmp.truth op (row column) v
  | oneOf column values negated => (cmp.listed (row column) values).negate negated
  | like column pattern escape negated => (cmp.like d escape (row column) pattern).negate negated
  | logical .and left right => (left.truth d cmp row).and (right.truth d cmp row)
  | logical .or left right => (left.truth d cmp row).or (right.truth d cmp row)

end SqlExpr

namespace NullGuard

variable (d : SqlDialect) (cmp : Comparison) (row : String → Value) (f : Field) (core : SqlExpr)

/-- A guard that keeps rows whose column is null. -/
theorem isYes_truth_written_orNull :
    ((orNull.written f core).truth d cmp row).isYes =
      ((row f.column).isNull || (core.truth d cmp row).isYes) := by
  simp [written, SqlExpr.truth]

/-- A guard that drops rows whose column is null. -/
theorem isYes_truth_written_andNotNull :
    ((andNotNull.written f core).truth d cmp row).isYes =
      (!(row f.column).isNull && (core.truth d cmp row).isYes) := by
  simp [written, SqlExpr.truth]

end NullGuard

end Sift
