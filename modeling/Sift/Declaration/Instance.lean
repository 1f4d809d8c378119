import Sift.Declaration.Mapping

/-!
# Values of mapped types

A value of a mapped type has contents in each of its fields: those that are stored, a row of the
entity, and those that are skipped. Only the row is written to a record. A value that is made of a
record has the default of its type in each skipped field.
-/
namespace Sift

/-- A value of a type with a mapping; `σ` gives the types of the skipped fields. -/
structure Instance (m : Mapping FieldType) (σ : String → Type) where
  row : Row m.toEntity.fields
  skipped : (name : String) → name ∈ m.skipped → σ name

namespace Instance

variable {m : Mapping FieldType} {σ : String → Type}

/-- A value as a record. -/
def toRecord (x : Instance m σ) : Record := x.row.toRecord

/-- Read a value out of a record. -/
def ofRecord [∀ name, Inhabited (σ name)] (r : Record) : Except Error (Instance m σ) :=
  (Row.ofRecord m.toEntity.fields r).map fun row => ⟨row, fun _ _ => default⟩

end Instance

end Sift
