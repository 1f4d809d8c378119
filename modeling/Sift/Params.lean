import Sift.Value

/-!
# Bound parameters

The values of a statement, each under a generated name, in the order in which their placeholders
stand in the text. A name is a leading text and a number; the numbers of each leading text count
from one by themselves. Positions count all parameters together.
-/
namespace Sift

/-- One bound parameter. -/
structure Param where
  name : String
  value : Value

/-- Parameters in the order of binding, and how many names each leading text has given out. -/
structure Params where
  entries : Array Param
  counters : List (String × Nat)

namespace Params

/-- No parameters. -/
def empty : Params := ⟨#[], []⟩

/-- How many names a leading text has given out. -/
def issued (ps : Params) (stem : String) : Nat := (ps.counters.lookup stem).getD 0

/-- Raise the counter of a leading text to `n`; a new one goes to the end. -/
def setCounter (stem : String) (n : Nat) : List (String × Nat) → List (String × Nat)
  | [] => [(stem, n)]
  | (s, m) :: rest => if s = stem then (s, n) :: rest else (s, m) :: setCounter stem n rest

/-- A bound value's name and its position, counted from one. -/
structure Slot where
  name : String
  position : Nat
deriving DecidableEq

/-- Bind a value under the next name of `stem`. -/
def bind (stem : String) (value : Value) (ps : Params) : Slot × Params :=
  let n := ps.issued stem + 1
  let name := stem ++ toString n
  (⟨name, ps.entries.size + 1⟩,
    ⟨ps.entries.push ⟨name, value⟩, setCounter stem n ps.counters⟩)

/-- The number of parameters. -/
def size (ps : Params) : Nat := ps.entries.size

/-- No parameters are bound. -/
def isEmpty (ps : Params) : Bool := ps.entries.isEmpty

/-- The parameters in order. -/
def toList (ps : Params) : List Param := ps.entries.toList

/-- The values in order. -/
def values (ps : Params) : List Value := ps.toList.map Param.value

/-- The value of the first parameter of a name. -/
def get? (ps : Params) (name : String) : Option Value :=
  (ps.toList.find? fun p => p.name = name).map Param.value

/-- The parameters of several statements in one list, each name behind the number of its
statement. -/
def merge (maps : List Params) : Params :=
  let numbered := maps.zipIdx.flatMap fun (ps, i) =>
    ps.toList.map fun p => ⟨toString (i + 1) ++ "." ++ p.name, p.value⟩
  ⟨numbered.toArray, []⟩

/-- The list of names and values as JSON. -/
def toJson (ps : Params) : Json :=
  .array (ps.toList.map fun p =>
    .object [("name", .string p.name), ("value", p.value.toParamJson)])

@[simp] theorem toList_empty : toList empty = [] := rfl

@[simp] theorem size_empty : size empty = 0 := rfl

@[simp] theorem toList_bind (stem : String) (v : Value) (ps : Params) :
    (bind stem v ps).2.toList = ps.toList ++ [⟨(bind stem v ps).1.name, v⟩] := by
  simp [bind, toList]

@[simp] theorem size_bind (stem : String) (v : Value) (ps : Params) :
    (bind stem v ps).2.size = ps.size + 1 := by
  simp [bind, size]

@[simp] theorem position_bind (stem : String) (v : Value) (ps : Params) :
    (bind stem v ps).1.position = ps.size + 1 := rfl

@[simp] theorem name_bind (stem : String) (v : Value) (ps : Params) :
    (bind stem v ps).1.name = stem ++ toString (ps.issued stem + 1) := rfl

end Params

end Sift
