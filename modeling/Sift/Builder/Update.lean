import Sift.Builder.Scope
import Sift.Plan

/-!
# Updates and deletions

An update assigns values to fields of the rows under a filter. A field that is assigned again takes
its last value at the place of its first assignment. A deletion removes the rows under a filter.
Neither runs without a filter, nor an update without an assignment.
-/
namespace Sift

/-- An update under construction; the assignments are kept by property. -/
structure Update (e : Entity) where
  scope : Scope e
  assigned : Record

namespace Update

variable {e : Entity}

/-- An update of nothing. -/
def new (scope : Scope e) : Update e := ⟨scope, .empty⟩

/-- Add a filter. -/
def filter (u : Update e) (p : Predicate) : Update e := { u with scope := u.scope.addFilter p }

/-- Assign a value to a field. -/
def set (u : Update e) (property : String) (v : Value) : Update e :=
  ⟨u.scope.checkField property, u.assigned.set property v⟩

/-- Assign several values in order. -/
def setMany (u : Update e) (values : List (String × Value)) : Update e :=
  values.foldl (fun u (p, v) => u.set p v) u

/-- The statement of the update. -/
def toStatement (u : Update e) : Except Error Statement := do
  let t ← u.scope.state
  let p ← u.scope.requiredFilter "update"
  if u.assigned.isEmpty then
    .error (.unconditional s!"update on '{t.entity.name}' has no assignments")
  else
    let assigned ← u.assigned.columns.mapM fun (name, v) => do
      let f ← t.field name
      .ok (f, v)
    Plan.compile t (.update p assigned)

/-- Update the rows, in a transaction, and say how many there were. -/
def run {m : Type → Type} [Monad m] (u : Update e) (x : Executor m) : m (Except Error UInt64) :=
  match u.toStatement with
  | .error err => pure (.error err)
  | .ok s => x.sendExecute s (u.scope.context .update .write).inTransaction

@[simp] theorem setMany_nil (u : Update e) : u.setMany [] = u := rfl

@[simp] theorem setMany_cons (u : Update e) (p : String) (v : Value) (vs : List (String × Value)) :
    u.setMany ((p, v) :: vs) = (u.set p v).setMany vs := rfl

end Update

/-- A deletion under construction. -/
structure Deletion (e : Entity) where
  scope : Scope e

namespace Deletion

variable {e : Entity}

/-- Add a filter. -/
def filter (d : Deletion e) (p : Predicate) : Deletion e := ⟨d.scope.addFilter p⟩

/-- The statement of the deletion. -/
def toStatement (d : Deletion e) : Except Error Statement := do
  let t ← d.scope.state
  let p ← d.scope.requiredFilter "delete"
  Plan.compile t (.delete p)

/-- Delete the rows and say how many there were. -/
def run {m : Type → Type} [Monad m] (d : Deletion e) (x : Executor m) : m (Except Error UInt64) :=
  match d.toStatement with
  | .error err => pure (.error err)
  | .ok s => x.sendExecute s (d.scope.context .delete .write)

end Deletion

end Sift
