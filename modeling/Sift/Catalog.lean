import Sift.Executor.Basic
import Sift.Table

/-!
# The catalog of tables

A mapping is checked once for each dialect and its table kept. A `Shelf` belongs to one entity: it
has a cell for each dialect, at the place of its index, and counts how often the mapping was
consulted. A cell is filled once and for all. A mapping that is not sound fills none, so it is
consulted, and found unsound, each time.
-/
namespace Sift

/-- The tables of one entity that have been built so far. -/
structure Shelf where
  cells : Vector (Option Table) Dialect.all.length
  consulted : Nat

namespace Shelf

/-- Nothing built. -/
def empty : Shelf := ⟨.replicate _ none, 0⟩

/-- The table kept for a dialect. -/
def get? (s : Shelf) (d : Dialect) : Option Table :=
  have := d.index_lt
  s.cells[d.index]

/-- The mapping is consulted once more. -/
def consult (s : Shelf) : Shelf := { s with consulted := s.consulted + 1 }

/-- Fill the cell of a dialect. -/
def fill (s : Shelf) (d : Dialect) (t : Table) : Shelf :=
  { s with cells := s.cells.set d.index (some t) d.index_lt }

/-- The table in the cell of a dialect, which is filled with `t` if nothing is in it. -/
def getOrFill (s : Shelf) (d : Dialect) (t : Table) : Table × Shelf :=
  match s.get? d with
  | some kept => (kept, s)
  | none => (t, s.fill d t)

/-- Build the table of an entity under a dialect, unless someone else has built it meanwhile, and
tell of it. -/
def build (s : Shelf) (e : Entity) (d : Dialect) : Except Error Table × Shelf × Option Event :=
  match s.get? d with
  | some t => (.ok t, s, none)
  | none =>
    match Table.ofEntity e d with
    | .error err => (.error err, s.consult, none)
    | .ok t =>
      let (kept, s) := s.consult.getOrFill d t
      (.ok kept, s, some (.tableBuilt t.entity.name t.dialect t.quotedName t.fields.length))

/-- The table of an entity under a dialect, from the shelf or built anew, and the event of
building. -/
def table (s : Shelf) (e : Entity) (d : Dialect) : Except Error Table × Shelf × Option Event :=
  match s.get? d with
  | some t => (.ok t, s, none)
  | none => s.build e d

@[simp] theorem get?_empty (d : Dialect) : empty.get? d = none := by
  simp [empty, get?]

@[simp] theorem consulted_empty : empty.consulted = 0 := rfl

/-- Each cell belongs to the dialect that its place is the index of. -/
theorem getElem?_cells_eq_some_iff {s : Shelf} {k : Nat} {t : Table} :
    s.cells[k]? = some (some t) ↔ ∃ d : Dialect, d.index = k ∧ s.get? d = some t := by
  constructor
  · intro h
    obtain ⟨hk, ht⟩ := Vector.getElem?_eq_some_iff.1 h
    obtain ⟨d, rfl⟩ := Dialect.exists_index_eq hk
    exact ⟨d, rfl, ht⟩
  · rintro ⟨d, rfl, ht⟩
    exact Vector.getElem?_eq_some_iff.2 ⟨d.index_lt, ht⟩

@[simp] theorem get?_consult (s : Shelf) (d : Dialect) : s.consult.get? d = s.get? d := rfl

@[simp] theorem consulted_consult (s : Shelf) : s.consult.consulted = s.consulted + 1 := rfl

/-- Filling a cell changes no other. -/
theorem get?_fill (s : Shelf) (d d' : Dialect) (t : Table) :
    (s.fill d t).get? d' = if d = d' then some t else s.get? d' := by
  simp [fill, get?, Vector.getElem_set, Dialect.index_inj]

@[simp] theorem consulted_fill (s : Shelf) (d : Dialect) (t : Table) :
    (s.fill d t).consulted = s.consulted := rfl

end Shelf

/-- The table of an entity under the dialect of an executor, logging the first use. -/
def Executor.resolve {m : Type → Type} [Monad m] (x : Executor m) (e : Entity) (s : Shelf) :
    m (Except Error Table × Shelf) := do
  let (t, s, event) := s.table e x.dialect
  match event with
  | some ev => x.emit ev
  | none => pure ()
  pure (t, s)

end Sift
