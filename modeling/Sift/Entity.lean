import Sift.Record

/-!
# Entities

An entity says how a type of the application is stored: in which table, with which fields, each with
its property name, its column and its type. A `Row` of an entity holds one value per field; it is
written as a record, field by field, and read from one by taking its columns out in the same order.
-/
namespace Sift

/-- A mapped field. -/
structure Field where
  property : String
  column : String
  type : FieldType
  isKey : Bool
deriving DecidableEq

/-- A mapping of a type to a table, as it is declared. -/
structure Entity where
  name : String
  table : String
  fields : List Field
deriving DecidableEq

namespace Entity

/-- The fields that are marked as primary key. -/
def keys (e : Entity) : List Field := e.fields.filter Field.isKey

/-- The property names in declaration order. -/
def properties (e : Entity) : List String := e.fields.map Field.property

end Entity

/-- One value for each of a list of fields. -/
inductive Row : List Field → Type where
  | nil : Row []
  | cons {f : Field} {fs : List Field} (head : f.type.Carrier) (tail : Row fs) : Row (f :: fs)

namespace Row

/-- The cells of a row, each under its column. -/
def cells : {fs : List Field} → Row fs → List (String × Value)
  | [], .nil => []
  | f :: _, .cons x rest => (f.column, f.type.write x) :: rest.cells

/-- A row as a record. -/
def toRecord {fs : List Field} (r : Row fs) : Record := Record.ofList r.cells

/-- Read a row out of a record. The first column that cannot be read is the error. -/
def ofRecord : (fs : List Field) → Record → Except Error (Row fs)
  | [], _ => .ok .nil
  | f :: fs, r =>
    match r.takeField f.type f.column with
    | (.error e, _) => .error e
    | (.ok x, rest) => (ofRecord fs rest).map (.cons x)

@[simp] theorem cells_nil : cells .nil = [] := rfl

@[simp] theorem cells_cons {f : Field} {fs : List Field} (x : f.type.Carrier) (r : Row fs) :
    cells (.cons x r) = (f.column, f.type.write x) :: r.cells := rfl

/-- The cells of a row stand in the columns of its fields. -/
theorem map_fst_cells {fs : List Field} (r : Row fs) :
    r.cells.map Prod.fst = fs.map Field.column := by
  induction r with
  | nil => rfl
  | cons x rest ih => simp [ih]

end Row

end Sift
