import Sift.Dialect
import Sift.Entity
import Sift.Predicate

/-!
# Tables

A table is an entity whose mapping has been found sound, together with the dialect that it is used
under: it has exactly one primary key, and no property is mapped twice. `Table.build` checks this
and reports the first of the faults, in the order of `MappingFault`.
-/
namespace Sift

/-- Why a mapping cannot be used. -/
inductive MappingFault where
  | noFields
  | noKey
  | manyKeys (properties : List String)
  | repeated (property : String)
deriving DecidableEq

/-- The message of a fault in the mapping of the entity `name`. -/
def MappingFault.message (name : String) : MappingFault → String
  | noFields => s!"entity '{name}' declares no fields"
  | noKey => s!"entity '{name}' declares no primary key"
  | manyKeys properties =>
    s!"entity '{name}' declares {properties.length} primary keys (" ++
      ", ".intercalate properties ++ "); exactly one is supported"
  | repeated property => s!"entity '{name}' maps property '{property}' twice"

/-- The first name that repeats an earlier one, when `seen` came before. -/
def firstRepeat? (seen : List String) : List String → Option String
  | [] => none
  | p :: rest => if p ∈ seen then some p else firstRepeat? (p :: seen) rest

theorem firstRepeat?_eq_none_iff {seen names : List String} :
    firstRepeat? seen names = none ↔ names.Nodup ∧ ∀ p ∈ names, p ∉ seen := by
  induction names generalizing seen with
  | nil => simp [firstRepeat?]
  | cons p rest ih =>
    simp only [firstRepeat?]
    by_cases h : p ∈ seen
    · simp [h]
    · simp only [h, if_false, ih, List.nodup_cons, List.mem_cons, not_or, forall_eq_or_imp,
        not_false_eq_true, true_and]
      constructor
      · rintro ⟨nodup, apart⟩
        exact ⟨⟨fun hp => (apart p hp).1 rfl, nodup⟩, fun q hq => (apart q hq).2⟩
      · rintro ⟨⟨hp, nodup⟩, apart⟩
        exact ⟨nodup, fun q hq => ⟨fun e => hp (e ▸ hq), apart q hq⟩⟩

/-- A sound mapping under a dialect. -/
structure Table where
  entity : Entity
  dialect : Dialect
  key : Field
  keys_eq : entity.keys = [key]
  distinct : entity.properties.Nodup

namespace Table

/-- Check a mapping. -/
def build (e : Entity) (d : Dialect) : Except MappingFault Table :=
  if e.fields.isEmpty then .error .noFields
  else match keys_eq : e.keys with
    | [] => .error .noKey
    | [key] =>
      match once : firstRepeat? [] e.properties with
      | some property => .error (.repeated property)
      | none => .ok ⟨e, d, key, keys_eq, (firstRepeat?_eq_none_iff.1 once).1⟩
    | first :: second :: more => .error (.manyKeys ((first :: second :: more).map Field.property))

/-- Check a mapping, with the fault as an error. -/
def ofEntity (e : Entity) (d : Dialect) : Except Error Table :=
  (build e d).mapError fun fault => .configuration (fault.message e.name)

/-- The fields in declaration order. -/
def fields (t : Table) : List Field := t.entity.fields

/-- The table name as it stands in a statement. -/
def quotedName (t : Table) : String := t.dialect.quote t.entity.table

/-- A column name as it stands in a statement. -/
def quotedColumn (t : Table) (f : Field) : String := t.dialect.quote f.column

/-- The field of a property. -/
def field? (t : Table) (property : String) : Option Field :=
  t.fields.find? fun f => f.property = property

/-- The field of a property; an unmapped name is an error. -/
def field (t : Table) (property : String) : Except Error Field :=
  match t.field? property with
  | some f => .ok f
  | none => .error (.fieldNotFound t.entity.name property)

/-- The first field of a column. -/
def fieldOfColumn? (t : Table) (column : String) : Option Field :=
  t.fields.find? fun f => f.column = column

/-- The first of some names that is not mapped. -/
def firstUnmapped? (t : Table) (names : List String) : Option String :=
  names.find? fun name => (t.field? name).isNone

/-- Check that every field that a predicate names is mapped. -/
def validate (t : Table) (p : Predicate) : Except Error Unit :=
  match t.firstUnmapped? p.fields with
  | some name => .error (.fieldNotFound t.entity.name name)
  | none => .ok ()

theorem key_mem (t : Table) : t.key ∈ t.fields := by
  have h : t.key ∈ t.entity.keys := by simp [t.keys_eq]
  exact (List.mem_filter.1 h).1

theorem isKey_key (t : Table) : t.key.isKey = true := by
  have h : t.key ∈ t.entity.keys := by simp [t.keys_eq]
  exact (List.mem_filter.1 h).2

theorem eq_key_of_isKey (t : Table) {f : Field} (hf : f ∈ t.fields) (hk : f.isKey = true) :
    f = t.key := by
  have h : f ∈ t.entity.keys := List.mem_filter.2 ⟨hf, hk⟩
  simpa [t.keys_eq] using h

theorem fields_ne_nil (t : Table) : t.fields ≠ [] :=
  List.ne_nil_of_mem t.key_mem

theorem property_of_field? {t : Table} {p : String} {f : Field} (h : t.field? p = some f) :
    f.property = p := by
  simpa using List.find?_some h

theorem mem_of_field? {t : Table} {p : String} {f : Field} (h : t.field? p = some f) :
    f ∈ t.fields :=
  List.mem_of_find?_eq_some h

end Table

end Sift
