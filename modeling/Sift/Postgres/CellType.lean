/-!
# Column types

The types that a column or a parameter of a PostgreSQL server can have here, and the form in which
the cells of a type travel. Several types share one form; some types have none and are only known by
name.
-/
namespace Sift.Postgres

/-- The type of a column or of a parameter. -/
inductive CellType where
  | bool
  | int2
  | int4
  | int8
  | float4
  | float8
  | text
  | varchar
  | bpchar
  | name
  | bytea
  | uuid
  | timestamp
  | timestamptz
  | date
  | json
  | jsonb
  | numeric
  | oid
  | int4Array
deriving DecidableEq

/-- The binary form of a cell. -/
inductive CellForm where
  | bool
  /-- A signed number of so many bytes. -/
  | integer (width : Nat)
  | single
  | double
  | text
  | bytes
  | uuid
  | instant
  /-- A JSON text, behind a version byte or not. -/
  | json (versioned : Bool)
deriving DecidableEq

namespace CellType

/-- The name of a type at the server. -/
def label : CellType → String
  | bool => "bool"
  | int2 => "int2"
  | int4 => "int4"
  | int8 => "int8"
  | float4 => "float4"
  | float8 => "float8"
  | text => "text"
  | varchar => "varchar"
  | bpchar => "bpchar"
  | name => "name"
  | bytea => "bytea"
  | uuid => "uuid"
  | timestamp => "timestamp"
  | timestamptz => "timestamptz"
  | date => "date"
  | json => "json"
  | jsonb => "jsonb"
  | numeric => "numeric"
  | oid => "oid"
  | int4Array => "_int4"

/-- The form in which cells of a type travel, if values have one for it. -/
def form? : CellType → Option CellForm
  | bool => some .bool
  | int2 => some (.integer 2)
  | int4 => some (.integer 4)
  | int8 => some (.integer 8)
  | float4 => some .single
  | float8 => some .double
  | text | varchar | bpchar | name => some .text
  | bytea => some .bytes
  | uuid => some .uuid
  | timestamp | timestamptz => some .instant
  | json => some (.json false)
  | jsonb => some (.json true)
  | date | numeric | oid | int4Array => none

end CellType

end Sift.Postgres
