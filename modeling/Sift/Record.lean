import Sift.Error
import Sift.Value.Field

/-!
# Records

A record is a row on its way in or out: values by column name, in the order in which the columns
were first set. Setting a column again replaces its value where it stands; taking a column removes
it. A record is read cell by cell, either keeping the cell or taking it out.
-/
namespace Sift

/-- Values by column name. -/
structure Record where
  columns : List (String × Value)
deriving Inhabited

namespace Record

/-- The record without columns. -/
def empty : Record := ⟨[]⟩

/-- Replace the value of a column, or add the column at the end. -/
def setIn (column : String) (value : Value) : List (String × Value) → List (String × Value)
  | [] => [(column, value)]
  | (c, v) :: rest =>
    if c = column then (c, value) :: rest else (c, v) :: setIn column value rest

/-- Set a column. -/
def set (r : Record) (column : String) (value : Value) : Record := ⟨setIn column value r.columns⟩

/-- The record of a list of cells; of two cells of one column the later gives the value. -/
def ofList (cells : List (String × Value)) : Record :=
  cells.foldl (fun r (c, v) => r.set c v) empty

/-- The value of a column. -/
def get? (r : Record) (column : String) : Option Value := r.columns.lookup column

/-- Remove the first cell of a column. -/
def eraseIn (column : String) : List (String × Value) → List (String × Value)
  | [] => []
  | (c, v) :: rest => if c = column then rest else (c, v) :: eraseIn column rest

/-- Remove a column. -/
def erase (r : Record) (column : String) : Record := ⟨eraseIn column r.columns⟩

/-- The value of a column, and the record without it. -/
def take (r : Record) (column : String) : Option Value × Record := (r.get? column, r.erase column)

/-- The number of columns. -/
def size (r : Record) : Nat := r.columns.length

/-- The record has no columns. -/
def isEmpty (r : Record) : Bool := r.columns.isEmpty

/-- Read a cell and keep it; its column must be there. -/
def read (t : FieldType) (r : Record) (column : String) : Except Error t.Carrier :=
  match r.get? column with
  | none => .error (.decode column "column not present in record")
  | some v => (t.read v).mapError fun fault => .decode column fault.message

/-- Read a cell and take it out; a missing column gives the default of its type. -/
def takeField (t : FieldType) (r : Record) (column : String) :
    Except Error t.Carrier × Record :=
  match r.get? column with
  | none => (.ok t.default, r)
  | some v =>
    ((t.read v).mapError fun fault => .decode column fault.message, r.erase column)

@[simp] theorem columns_set (r : Record) (c : String) (v : Value) :
    (r.set c v).columns = setIn c v r.columns := rfl

@[simp] theorem columns_erase (r : Record) (c : String) :
    (r.erase c).columns = eraseIn c r.columns := rfl

theorem isEmpty_iff {r : Record} : r.isEmpty = true ↔ r.columns = [] := List.isEmpty_iff

@[simp] theorem get?_empty (c : String) : get? empty c = none := rfl

theorem get?_set (r : Record) (c d : String) (v : Value) :
    (r.set c v).get? d = if d = c then some v else r.get? d := by
  obtain ⟨columns⟩ := r
  simp only [get?, set]
  induction columns with
  | nil => by_cases h : d = c <;> simp [setIn, List.lookup_cons, h, beq_eq_false_iff_ne.2]
  | cons cell rest ih =>
    obtain ⟨e, w⟩ := cell
    by_cases he : e = c
    · subst he
      by_cases h : d = e
      · simp [setIn, h]
      · simp [setIn, List.lookup_cons, beq_eq_false_iff_ne.2 h, h]
    · by_cases hd : d = e
      · subst hd
        simp [setIn, he]
      · simpa [setIn, he, List.lookup_cons, beq_eq_false_iff_ne.2 hd] using ih

end Record

end Sift
