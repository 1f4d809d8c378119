import Sift.Value

/-!
# Field types

A field holds values of one scalar kind, or nothing at all if it is optional. `Carrier` gives the
values such a field can hold; `write` turns one into a `Value` and `read` turns a `Value` back,
failing with a `ReadFault`. Reading is more generous than writing: a double is read from an integer,
a UUID from its text and JSON from anything.
-/
namespace Sift

/-- The kinds of scalar that a field can hold. -/
inductive Scalar where
  | bool
  | int16
  | int32
  | int64
  | uint32
  | float32
  | float64
  | text
  | bytes
  | uuid
  | timestamp
  | json
deriving DecidableEq

namespace Scalar

/-- The values of a kind. -/
abbrev Carrier : Scalar → Type
  | bool => Bool
  | int16 => Int16
  | int32 => Int32
  | int64 => Int64
  | uint32 => UInt32
  | float32 => Binary32
  | float64 => Binary64
  | text => String
  | bytes => List UInt8
  | uuid => Uuid
  | timestamp => Instant
  | json => Json

/-- The declared type of a kind. -/
def valueType : Scalar → ValueType
  | bool => .bool
  | int16 | int32 | int64 | uint32 => .int
  | float32 | float64 => .float
  | text => .text
  | bytes => .bytes
  | uuid => .uuid
  | timestamp => .timestamp
  | json => .json

/-- The name of a kind in messages. -/
def name : Scalar → String
  | bool => "bool"
  | int16 => "i16"
  | int32 => "i32"
  | int64 => "i64"
  | uint32 => "u32"
  | float32 => "f32"
  | float64 => "f64"
  | text => "text"
  | bytes => "bytes"
  | uuid => "uuid"
  | timestamp => "timestamp"
  | json => "json"

/-- What a field holds when its column is missing. -/
def default : (s : Scalar) → s.Carrier
  | bool => false
  | int16 => 0
  | int32 => 0
  | int64 => 0
  | uint32 => 0
  | float32 => .zero
  | float64 => .zero
  | text => ""
  | bytes => []
  | uuid => .nil
  | timestamp => .epoch
  | json => .null

/-- A scalar as a value. -/
def write : (s : Scalar) → s.Carrier → Value
  | bool, b => .bool b
  | int16, n => .int n.toInt64
  | int32, n => .int n.toInt64
  | int64, n => .int n
  | uint32, n => .int (Int64.ofNat n.toNat)
  | float32, x => .float x.toDouble
  | float64, x => .float x
  | text, s => .text s
  | bytes, bs => .bytes bs
  | uuid, u => .uuid u
  | timestamp, t => .timestamp t
  | json, j => .json j

end Scalar

/-- Why a value cannot be read as a field. -/
inductive ReadFault where
  /-- The value is of another type, or null. -/
  | mismatch (expected : Scalar) (found : Option ValueType)
  /-- The integer does not fit. -/
  | outOfRange (found : Int64) (target : Scalar)
  /-- The text is no UUID. -/
  | uuid (fault : UuidFault)
deriving DecidableEq

/-- The message of a fault. -/
def ReadFault.message : ReadFault → String
  | mismatch expected (some t) => s!"expected {expected.name}, got {t.name}"
  | mismatch expected none => s!"expected {expected.name}, got NULL"
  | outOfRange found target => s!"{found.toInt} out of range for {target.name}"
  | uuid fault => fault.message

namespace Scalar

/-- Read an integer that lies between two bounds. -/
def readInt (s : Scalar) (low high : Int) (v : Value) : Except ReadFault Int :=
  match v with
  | .int n => if low ≤ n.toInt ∧ n.toInt ≤ high then .ok n.toInt else .error (.outOfRange n s)
  | other => .error (.mismatch s other.valueType?)

/-- Read a double; an integer is rounded. -/
def readDouble (v : Value) : Except ReadFault Binary64 :=
  match v with
  | .float x => .ok x
  | .int n => .ok (.ofInt n.toInt)
  | other => .error (.mismatch .float64 other.valueType?)

/-- Read a value as a scalar. -/
def read : (s : Scalar) → Value → Except ReadFault s.Carrier
  | bool, v => match v with
    | .bool b => .ok b
    | other => .error (.mismatch .bool other.valueType?)
  | int16, v => (readInt int16 (-32768) 32767 v).map Int16.ofInt
  | int32, v => (readInt int32 (-2147483648) 2147483647 v).map Int32.ofInt
  | int64, v => (readInt int64 (-9223372036854775808) 9223372036854775807 v).map Int64.ofInt
  | uint32, v => (readInt uint32 0 4294967295 v).map fun n => UInt32.ofNat n.toNat
  | float32, v => (readDouble v).map Binary64.toSingle
  | float64, v => readDouble v
  | text, v => match v with
    | .text s => .ok s
    | other => .error (.mismatch .text other.valueType?)
  | bytes, v => match v with
    | .bytes bs => .ok bs
    | other => .error (.mismatch .bytes other.valueType?)
  | uuid, v => match v with
    | .uuid u => .ok u
    | .text s => (Uuid.parse s).mapError ReadFault.uuid
    | other => .error (.mismatch .uuid other.valueType?)
  | timestamp, v => match v with
    | .timestamp t => .ok t
    | other => .error (.mismatch .timestamp other.valueType?)
  | json, v => .ok v.toJson

end Scalar

/-- The type of a field. -/
structure FieldType where
  scalar : Scalar
  optional : Bool
deriving DecidableEq

namespace FieldType

/-- The values of a field. -/
abbrev Carrier : FieldType → Type
  | ⟨s, true⟩ => Option s.Carrier
  | ⟨s, false⟩ => s.Carrier

/-- What a field holds when its column is missing. -/
def default : (t : FieldType) → t.Carrier
  | ⟨_, true⟩ => none
  | ⟨s, false⟩ => s.default

/-- A field's content as a value; nothing is null. -/
def write : (t : FieldType) → t.Carrier → Value
  | ⟨s, true⟩, some x => s.write x
  | ⟨_, true⟩, none => .null
  | ⟨s, false⟩, x => s.write x

/-- Read a value as a field's content. Null is nothing to an optional field. -/
def read : (t : FieldType) → Value → Except ReadFault t.Carrier
  | ⟨_, true⟩, .null => .ok none
  | ⟨s, true⟩, v => (s.read v).map some
  | ⟨s, false⟩, v => s.read v

/-- Read a value and write it back. -/
def normalize (t : FieldType) (v : Value) : Except ReadFault Value := (t.read v).map t.write

@[simp] theorem write_default_optional (s : Scalar) : write ⟨s, true⟩ (default ⟨s, true⟩) = .null := rfl

@[simp] theorem read_null_optional (s : Scalar) : read ⟨s, true⟩ .null = .ok none := rfl

end FieldType

end Sift
