import Sift.Instant
import Sift.Json
import Sift.Uuid

/-!
# Values

A `Value` is a typed constant: what a predicate compares with, what an assignment stores and what a
fetched record holds. Values travel beside a statement and never inside its text. `Value.toJson` is
the form in which a document store holds a value; a statement written out with its parameters uses
`Value.toParamJson`, which differs in the spelling of the zone alone.
-/
namespace Sift

/-- A typed constant. -/
inductive Value where
  | null
  | bool (b : Bool)
  | int (n : Int64)
  | float (x : Binary64)
  | text (s : String)
  | bytes (bs : List UInt8)
  | uuid (u : Uuid)
  | timestamp (t : Instant)
  | json (j : Json)
deriving Inhabited

/-- The declared type of a field. -/
inductive ValueType where
  | bool
  | int
  | float
  | text
  | bytes
  | uuid
  | timestamp
  | json
deriving DecidableEq

/-- The name of a type in messages. -/
def ValueType.name : ValueType → String
  | bool => "Bool"
  | int => "Int"
  | float => "Float"
  | text => "Text"
  | bytes => "Bytes"
  | uuid => "Uuid"
  | timestamp => "Timestamp"
  | json => "Json"

namespace Value

/-- The null constant. A JSON `null` is a value like any other. -/
def isNull : Value → Bool
  | null => true
  | _ => false

/-- The type that a value satisfies; null has none. -/
def valueType? : Value → Option ValueType
  | null => none
  | bool _ => some .bool
  | int _ => some .int
  | float _ => some .float
  | text _ => some .text
  | bytes _ => some .bytes
  | uuid _ => some .uuid
  | timestamp _ => some .timestamp
  | json _ => some .json

/-- The text of a text value. -/
def text? : Value → Option String
  | text s => some s
  | _ => none

/-- A value as JSON, with a given spelling of the zone of instants. -/
def asJson (zone : String) : Value → Json
  | null => .null
  | bool b => .bool b
  | int n => .int n.toInt
  | float x => .ofDouble x
  | text s => .string s
  | bytes bs => .array (bs.map fun b => .int b.toNat)
  | uuid u => .string u.text
  | timestamp t => .string (t.text zone)
  | json j => j

/-- The form in which a document holds a value. -/
def toJson (v : Value) : Json := v.asJson "+00:00"

/-- The form in which a parameter list shows a value. -/
def toParamJson (v : Value) : Json := v.asJson "Z"

@[simp] theorem isNull_null : isNull null = true := rfl

theorem isNull_iff {v : Value} : v.isNull = true ↔ v = null := by
  cases v <;> simp [isNull]

theorem valueType?_eq_none_iff {v : Value} : v.valueType? = none ↔ v = null := by
  cases v <;> simp [valueType?]

@[simp] theorem toJson_null : toJson null = .null := rfl

@[simp] theorem toJson_text (s : String) : toJson (text s) = .string s := rfl

@[simp] theorem toJson_json (j : Json) : toJson (json j) = j := rfl

end Value

end Sift
