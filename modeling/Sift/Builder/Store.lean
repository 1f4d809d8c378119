import Sift.Executor.Basic
import Sift.Plan

/-!
# Storing whole entities

An entity is inserted as one row, or saved by replacing the row of its primary key: deleting that
row and inserting the new one, as one. The values are taken out of the entity's record, field by
field; a field whose column is missing is stored as null.
-/
namespace Sift

namespace Table

/-- The values of some fields, each taken out of a record by its column. -/
def takeValues : List Field → Record → List Value
  | [], _ => []
  | f :: fs, r => (r.get? f.column).getD .null :: takeValues fs (r.erase f.column)

/-- Each field of a table with its value. -/
def fieldValues (t : Table) (r : Record) : List (Field × Value) :=
  t.fields.zip (takeValues t.fields r)

/-- The statement that inserts a record. -/
def insertStatement (t : Table) (r : Record) : Except Error Statement :=
  Plan.compile t (.insert (t.fieldValues r))

/-- The value of the primary key. -/
def keyValue (values : List (Field × Value)) : Value :=
  match values.find? fun fv => fv.1.isKey with
  | some (_, v) => v
  | none => .null

/-- The statements that replace the row of a record's key, to be run as one. -/
def saveStatements (t : Table) (r : Record) : Except Error (List Statement) := do
  let values := t.fieldValues r
  let key := keyValue values
  if key.isNull then
    .error (.unconditional
      s!"save on '{t.entity.name}' requires a value for primary key '{t.key.property}'")
  else
    let delete ← Plan.compile t (.delete (.compare .eq t.key.property key))
    let insert ← Plan.compile t (.insert values)
    .ok [delete, insert]

@[simp] theorem takeValues_nil (r : Record) : takeValues [] r = [] := rfl

@[simp] theorem length_takeValues (fs : List Field) (r : Record) :
    (takeValues fs r).length = fs.length := by
  induction fs generalizing r with
  | nil => rfl
  | cons f fs ih => simp [takeValues, ih]

end Table

namespace Executor

variable {m : Type → Type} [Monad m]

/-- Insert a record into a table, if there is one. -/
def insert (x : Executor m) (table : Except Error Table) (r : Record) : m (Except Error UInt64) :=
  match table, table.bind fun t => t.insertStatement r with
  | .ok t, .ok s => x.sendExecute s (.of .insert .write t.entity.name)
  | .error err, _ => pure (.error err)
  | _, .error err => pure (.error err)

/-- Save a record in a table, if there is one. -/
def save (x : Executor m) (table : Except Error Table) (r : Record) : m (Except Error UInt64) :=
  match table, table.bind fun t => t.saveStatements r with
  | .ok t, .ok ss => x.sendBatch ss (Context.of .insert .write t.entity.name).inTransaction
  | .error err, _ => pure (.error err)
  | _, .error err => pure (.error err)

end Executor

end Sift
