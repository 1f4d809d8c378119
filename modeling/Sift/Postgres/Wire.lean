import Sift.BigEndian
import Sift.Json.Reader
import Sift.Postgres.CellType
import Sift.Value

/-!
# Cells on the wire

`encode` writes a value as a cell of a column type, and `decode` reads a cell back. Null is written
as no cell at all, under every type. Integers are narrowed to the width of the type and refused when
they do not fit; doubles are rounded where the type is single precision. Instants count microseconds
from the start of 2000, cut off toward it; a leap second counts on from the second before it.
-/
namespace Sift

/-- The second at which 2000 starts. -/
def millennium : Int := 946684800

/-- The whole microseconds between the start of 2000 and an instant. -/
def Instant.micros (t : Instant) : Int :=
  Int.tdiv ((t.second - millennium) * 1000000000 + t.nano) 1000

/-- The instant so many microseconds after the start of 2000, if there is one. -/
def Instant.ofMicros? (n : Int) : Option Instant :=
  Instant.ofUnix? (millennium + n / 1000000) ((n % 1000000).toNat * 1000)

namespace Postgres

/-- The content of a cell; a null cell has none. -/
abbrev Cell := Option (List UInt8)

/-- Why a value cannot be written as a cell. -/
inductive WireFault where
  /-- Values of this type have no form under the column type. -/
  | unlike (source : ValueType) (target : CellType)
  | tooLarge
  | tooSmall
deriving DecidableEq

/-- The name in messages of what a value of a type holds. -/
def contentName : ValueType → String
  | .bool => "bool"
  | .int => "i64"
  | .float => "f64"
  | .text => "alloc::string::String"
  | .bytes => "alloc::vec::Vec<u8>"
  | .uuid => "uuid::Uuid"
  | .timestamp => "chrono::datetime::DateTime<chrono::offset::utc::Utc>"
  | .json => "serde_json::value::Value"

/-- The message of a fault. -/
def WireFault.message : WireFault → String
  | unlike source target =>
    s!"cannot convert between the Rust type `{contentName source}` and the Postgres type `{target.label}`"
  | tooLarge => "number too large to fit in target type"
  | tooSmall => "number too small to fit in target type"

/-- An integer in so many bytes. -/
def integerCell (width : Nat) (n : Int) : Except WireFault (List UInt8) :=
  let bound := 128 * Nat.pow 256 (width - 1)
  if n < -bound then .error .tooSmall
  else if (bound : Int) ≤ n then .error .tooLarge
  else .ok (BigEndian.ofInt width n)

/-- A double as its bytes. -/
def doubleCell (x : Binary64) : List UInt8 := BigEndian.ofNat 8 x.bits.toNat

/-- A single precision number as its bytes. -/
def singleCell (x : Binary32) : List UInt8 := BigEndian.ofNat 4 x.bits.toNat

/-- A text as its bytes. -/
def textCell (s : String) : List UInt8 := s.toUTF8.toList

/-- Write a value as a cell. -/
def encode (v : Value) (t : CellType) : Except WireFault Cell :=
  match v, t.form? with
  | .bool b, some .bool => .ok (some [if b then 1 else 0])
  | .int n, some (.integer width) => (integerCell width n.toInt).map some
  | .int n, some .double => .ok (some (doubleCell (.ofInt n.toInt)))
  | .float x, some .single => .ok (some (singleCell x.toSingle))
  | .float x, some .double => .ok (some (doubleCell x))
  | .text s, some .text => .ok (some (textCell s))
  | .bytes bs, some .bytes => .ok (some bs)
  | .uuid u, some .uuid => .ok (some u.bytes)
  | .timestamp i, some .instant => .ok (some (BigEndian.ofInt 8 i.micros))
  | .json j, some (.json versioned) =>
    .ok (some ((if versioned then [1] else []) ++ textCell j.render))
  | v, _ =>
    match v.valueType? with
    | some source => .error (.unlike source t)
    | none => .ok none

/-- Read a text. -/
def readText (bytes : List UInt8) : Option String := String.fromUTF8? ⟨bytes.toArray⟩

/-- Read the bytes of a cell. -/
def CellForm.read : CellForm → List UInt8 → Option Value
  | bool, [b] => some (.bool (b ≠ 0))
  | bool, _ => none
  | integer width, bs =>
    if bs.length = width then some (.int (Int64.ofInt (BigEndian.toInt bs))) else none
  | single, bs =>
    if bs.length = 4 then
      some (.float (Binary32.toDouble ⟨UInt32.ofNat (BigEndian.toNat bs)⟩))
    else none
  | double, bs =>
    if bs.length = 8 then some (.float ⟨UInt64.ofNat (BigEndian.toNat bs)⟩) else none
  | text, bs => (readText bs).map .text
  | bytes, bs => some (.bytes bs)
  | uuid, bs => (Uuid.ofBytes? bs).map .uuid
  | instant, bs =>
    if bs.length = 8 then (Instant.ofMicros? (BigEndian.toInt bs)).map .timestamp else none
  | json true, b :: bs =>
    if b = 1 then ((readText bs).bind Json.parse?).map .json else none
  | json true, [] => none
  | json false, bs => ((readText bs).bind Json.parse?).map .json

/-- Why a cell cannot be read. -/
inductive CellFault where
  /-- No value has the form of this type. -/
  | unsupported (type : CellType)
  /-- The bytes are not those of the column's type. -/
  | malformed (index : Nat)
deriving DecidableEq

/-- The message of a fault. -/
def CellFault.message : CellFault → String
  | unsupported type => "unsupported column type " ++ type.label
  | malformed index => s!"error deserializing column {index}"

/-- Read the cell of a column; columns are counted from zero. -/
def decode (index : Nat) (t : CellType) (cell : Cell) : Except CellFault Value :=
  match t.form?, cell with
  | none, _ => .error (.unsupported t)
  | some _, none => .ok .null
  | some form, some bytes =>
    match form.read bytes with
    | some v => .ok v
    | none => .error (.malformed index)

@[simp] theorem encode_null (t : CellType) : encode .null t = .ok none := by
  cases t <;> rfl

@[simp] theorem decode_none (index : Nat) {t : CellType} {form : CellForm}
    (h : t.form? = some form) : decode index t none = .ok .null := by
  simp [decode, h]

end Postgres

end Sift
