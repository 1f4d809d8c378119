import Sift.Table

/-!
# Conditions

A condition is a predicate whose names have been resolved against a table and whose nulls have been
thought through. Stores disagree about null: in a relational one a comparison with a null column is
neither true nor false. A condition therefore says itself what happens to rows whose column is null,
by tests for null and by guards around the core of a clause, and every store that spells it out
selects the same rows. `name != x` holds where the name is null; `age < 5` does not hold where the
age is null; nothing is ordered against the null constant.

`Condition.ofPredicate` lowers a predicate or reports the first leaf that has no meaning.
-/
namespace Sift

/-- What is done about a null column around the core of a clause. -/
inductive NullGuard where
  /-- The core alone. -/
  | none
  /-- The column is null, or the core holds. -/
  | orNull
  /-- The column is not null, and the core holds. -/
  | andNotNull
deriving DecidableEq

/-- A leaf of a condition. -/
inductive Clause where
  /-- A constant truth value. -/
  | always (truth : Bool)
  /-- The column is null, or is not null. -/
  | nullTest (field : Field) (negated : Bool)
  /-- The column against a constant that is not null. -/
  | compare (field : Field) (op : Comparator) (value : Value) (guard : NullGuard)
  /-- The column is one of some constants, at least one and none of them null. -/
  | oneOf (field : Field) (values : List Value) (negated : Bool) (guard : NullGuard)
  /-- The column's text matches a pattern that is not empty. -/
  | like (field : Field) (pattern : String) (test : TextTest) (negated : Bool) (guard : NullGuard)

/-- A predicate with its names resolved and its nulls decided. -/
inductive Condition where
  | clause (c : Clause)
  | logical (op : Connective) (left right : Condition)

/-- Why a leaf has no meaning, its names apart. -/
inductive Unsupported where
  | twoFields
  | noField
  | notTextField (property : String)
  | notTextPattern
deriving DecidableEq

/-- The message of a leaf without a meaning. -/
def Unsupported.message (p : Predicate) : Unsupported → String
  | twoFields => "comparison between two fields is not supported: " ++ p.text
  | noField => "comparison does not reference a field: " ++ p.text
  | notTextField property => s!"text match on non-text field '{property}': " ++ p.text
  | notTextPattern => "text match pattern must be a string: " ++ p.text

namespace Clause

/-- The guard of a comparison with a constant that is not null. -/
def compareGuard : Comparator → NullGuard
  | .eq | .gt | .ge => .none
  | .ne => .orNull
  | .lt | .le => .andNotNull

/-- A field against a constant. -/
def ofComparison (f : Field) (op : Comparator) (v : Value) : Clause :=
  match v with
  | .null =>
    match op with
    | .eq => .nullTest f false
    | .ne => .nullTest f true
    | .gt | .ge | .lt | .le => .always false
  | v => .compare f op v (compareGuard op)

/-- The guard of a membership test over constants that are not null; `withNull` says whether null
was listed too. -/
def membershipGuard (negated withNull : Bool) : NullGuard :=
  match negated, withNull with
  | false, false => .none
  | false, true => .orNull
  | true, false => .orNull
  | true, true => .andNotNull

/-- A field among constants. -/
def ofMembership (f : Field) (values : List Value) (negated : Bool) : Clause :=
  if values.isEmpty then .always negated
  else
    match values.filter fun v => !v.isNull with
    | [] => .nullTest f negated
    | first :: rest =>
      .oneOf f (first :: rest) negated (membershipGuard negated (values.any Value.isNull))

/-- A field's text against a pattern. Every text contains the empty one. -/
def ofTextMatch (f : Field) (pattern : Value) (test : TextTest) (negated : Bool) :
    Except Unsupported Clause :=
  if f.type.scalar.valueType = .text then
    match pattern with
    | .null => .ok (.always false)
    | .text s =>
      if s.isEmpty then .ok (.nullTest f !negated)
      else .ok (.like f s test negated (if negated then .orNull else .none))
    | _ => .error .notTextPattern
  else .error (.notTextField f.property)

end Clause

/-- A comparison as field, operator and constant, whichever side the field is on. -/
def orient (op : Comparator) : Operand → Operand → Except Unsupported (String × Comparator × Value)
  | .field name, .constant v => .ok (name, op, v)
  | .constant v, .field name => .ok (name, op.flip, v)
  | .field _, .field _ => .error .twoFields
  | .constant _, .constant _ => .error .noField

namespace Condition

/-- Report a leaf without a meaning. -/
def refuse (p : Predicate) (u : Unsupported) : Error := .unsupported (u.message p)

/-- Lower a predicate. -/
def ofPredicate (t : Table) : Predicate → Except Error Condition
  | .logical op left right => do
    let l ← ofPredicate t left
    let r ← ofPredicate t right
    .ok (.logical op l r)
  | p@(.comparison op left right) => do
    let (name, op, v) ← (orient op left right).mapError (refuse p)
    let f ← t.field name
    .ok (.clause (.ofComparison f op v))
  | .membership field values negated => do
    let f ← t.field field
    .ok (.clause (.ofMembership f values negated))
  | p@(.textMatch field pattern test negated) => do
    let f ← t.field field
    let c ← (Clause.ofTextMatch f pattern test negated).mapError (refuse p)
    .ok (.clause c)

end Condition

end Sift
