import Sift.Declaration.Options
import Sift.Entity
import Sift.Text.SnakeCase

/-!
# Mappings of declarations

A declared struct is mapped to a table: under the name that its attributes give or else its own name
in snake case, with every field that is not skipped. A field is stored in the column that its
options name or else in one of its own name. If no field is marked as the key, the one named `id`
is.

The mapping has three views: the fields that describe it, where each field is read from when a value
is made of a record, and where each is written to. The types of fields are left open.
-/
namespace Sift

namespace Declaration

/-- A mapped field. -/
structure MappedField (τ : Type) where
  property : String
  column : String
  isKey : Bool
  type : τ
deriving DecidableEq

/-- What becomes of a declared field. -/
inductive Placement (τ : Type) where
  | mapped (f : MappedField τ)
  | skipped (name : String)

variable {τ : Type}

/-- The mapping of a field with the given options. -/
def place (name : String) (type : τ) (o : Options) : Except Fault (Placement τ) :=
  if o.isSkipped then
    if o.isKey then .error .keySkipped else .ok (.skipped name)
  else .ok (.mapped ⟨name, o.column.getD name, o.isKey, type⟩)

/-- What becomes of a field by its attributes. -/
def DeclaredField.placement (f : DeclaredField τ) : Except Fault (Placement τ) := do
  let os ← FieldOption.ofAttributes f.attributes
  place f.name f.type (.ofList os)

/-- The mapped field of a placement. -/
def Placement.mapped? : Placement τ → Option (MappedField τ)
  | mapped f => some f
  | skipped _ => none

/-- The name of a skipped field. -/
def Placement.skipped? : Placement τ → Option String
  | mapped _ => none
  | skipped name => some name

/-- Mark the first field of a name as the key. -/
def markKey (name : String) : List (MappedField τ) → List (MappedField τ)
  | [] => []
  | f :: rest =>
    if f.property = name then { f with isKey := true } :: rest else f :: markKey name rest

/-- Mark the field named `id` as the key if no field is marked. -/
def inferKey (fs : List (MappedField τ)) : List (MappedField τ) :=
  if fs.any MappedField.isKey then fs else markKey "id" fs

end Declaration

/-- A declared type. -/
structure Declaration (τ : Type) where
  shape : Declaration.Shape
  name : String
  isGeneric : Bool
  attributes : List Declaration.Attribute
  fields : List (Declaration.DeclaredField τ)

/-- The mapping of a declared struct. -/
structure Mapping (τ : Type) where
  name : String
  table : String
  mapped : List (Declaration.MappedField τ)
  skipped : List String

variable {τ : Type}

/-- The mapping of a declaration. -/
def Declaration.mapping (d : Declaration τ) : Except Declaration.Fault (Mapping τ) :=
  if d.isGeneric then .error .generic
  else
    match d.shape with
    | .tuple | .unit => .error .unnamedFields
    | .enumeration | .union => .error .notStruct
    | .named => do
      let table ← tableOfAttributes d.attributes
      let placements ← d.fields.mapM DeclaredField.placement
      .ok {
        name := d.name
        table := table.getD (Text.SnakeCase.ofName d.name)
        mapped := inferKey (placements.filterMap Placement.mapped?)
        skipped := placements.filterMap Placement.skipped? }

namespace Mapping

/-- The fields that describe the mapping. -/
def described (m : Mapping τ) : List (Declaration.MappedField τ) := m.mapped

/-- The field and the column that it is read from; a skipped field is read from none. -/
def reads (m : Mapping τ) : List (String × Option String) :=
  m.mapped.map (fun f => (f.property, some f.column)) ++ m.skipped.map (·, none)

/-- The column and the field that is written to it. -/
def writes (m : Mapping τ) : List (String × String) :=
  m.mapped.map fun f => (f.column, f.property)

/-- The mapping when the types of its fields are told. -/
def typed (types : τ → FieldType) (m : Mapping τ) : Mapping FieldType :=
  { m with mapped := m.mapped.map fun f => ⟨f.property, f.column, f.isKey, types f.type⟩ }

/-- The entity of a mapping whose field types are known. -/
def toEntity (m : Mapping FieldType) : Entity :=
  ⟨m.name, m.table, m.described.map fun f => ⟨f.property, f.column, f.type, f.isKey⟩⟩

@[simp] theorem columns_toEntity (m : Mapping FieldType) :
    m.toEntity.fields.map Field.column = m.mapped.map Declaration.MappedField.column := by
  simp [toEntity, described]

theorem fields_typed (types : τ → FieldType) (m : Mapping τ) :
    (m.typed types).toEntity.fields =
      m.mapped.map fun f => ⟨f.property, f.column, types f.type, f.isKey⟩ := by
  rw [toEntity, described, typed, List.map_map]
  rfl

end Mapping

namespace Declaration

@[simp] theorem inferKey_nil : inferKey ([] : List (MappedField τ)) = [] := rfl

/-- Marking a key changes no column. -/
@[simp] theorem column_markKey (name : String) (fs : List (MappedField τ)) :
    (markKey name fs).map MappedField.column = fs.map MappedField.column := by
  induction fs with
  | nil => rfl
  | cons f rest ih => by_cases h : f.property = name <;> simp [markKey, h, ih]

/-- Marking a key changes no property. -/
@[simp] theorem property_markKey (name : String) (fs : List (MappedField τ)) :
    (markKey name fs).map MappedField.property = fs.map MappedField.property := by
  induction fs with
  | nil => rfl
  | cons f rest ih => by_cases h : f.property = name <;> simp [markKey, h, ih]

end Declaration

end Sift
