import Sift.Error
import Sift.Postgres.Wire
import Sift.Statement

/-!
# Connections

A connection prepares statements, performs them with serialized parameters, and takes transaction
control in between. Parameters are serialized under the types that the server names, before
anything is performed. `Connection.inTransaction` commits what its body has done, or has it rolled
back if the body fails; a commit that fails is the end of the transaction too.
-/
namespace Sift.Postgres

/-- Transaction control. -/
inductive Control where
  | start
  | commit
  | rollback
deriving DecidableEq

/-- The text of a control statement. -/
def Control.text : Control → String
  | start => "START TRANSACTION"
  | commit => "COMMIT"
  | rollback => "ROLLBACK"

/-- Why a request fails. -/
inductive Fault where
  /-- The server answers with an error. -/
  | rejected
  /-- The connection is lost. -/
  | closed
  /-- The server never answers. -/
  | stalled
  /-- A statement has another number of parameters than values. -/
  | parameterCount (expected found : Nat)
  /-- A value cannot be written under its parameter's type. -/
  | parameter (index : Nat)
deriving DecidableEq

/-- The message of a fault. An answer that never comes is waited for until the connection is
lost. -/
def Fault.message : Fault → String
  | rejected => "db error"
  | closed | stalled => "connection closed"
  | parameterCount expected found => s!"expected {expected} parameters but got {found}"
  | parameter index => s!"error serializing parameter {index}"

/-- What the server answers to a performed statement. -/
structure Outcome where
  rows : List (List Cell)
  /-- What the server says it did. -/
  tag : String

/-- A statement that the server knows. -/
structure Prepared (m : Type → Type) where
  parameters : List CellType
  columns : List (String × CellType)
  perform : List Cell → m (Except Fault Outcome)

/-- A line to a server. -/
structure Connection (m : Type → Type) where
  control : Control → m (Except Fault Unit)
  prepare : String → m (Except Fault (Prepared m))

/-- Read a number of at most 64 bits, with or without a plus sign. -/
def number? (word : List Char) : Option UInt64 :=
  let digits := if word.head? = some '+' then word.tail else word
  let n : Nat := digits.foldl (fun n c => n * 10 + (c.toNat - 48)) 0
  if digits ≠ [] ∧ digits.all Char.isDigit ∧ n < UInt64.size then some (UInt64.ofNat n) else none

/-- The number at the end of a tag, or zero. -/
def affectedOfTag (tag : String) : UInt64 :=
  (number? (tag.toList.reverse.takeWhile (· ≠ ' ')).reverse).getD 0

namespace Outcome

/-- The number of rows that a statement affected. -/
def affected (o : Outcome) : UInt64 := affectedOfTag o.tag

end Outcome

/-- Serialize values under their parameters' types, counted from `index`. -/
def serializeFrom (index : Nat) : List (CellType × Value) → Except Fault (List Cell)
  | [] => .ok []
  | (t, v) :: rest =>
    match encode v t, serializeFrom (index + 1) rest with
    | .error _, _ => .error (.parameter index)
    | .ok _, .error f => .error f
    | .ok cell, .ok cells => .ok (cell :: cells)

/-- Serialize the values of a statement. -/
def serialize (types : List CellType) (values : List Value) : Except Fault (List Cell) :=
  if types.length = values.length then serializeFrom 0 (types.zip values)
  else .error (.parameterCount types.length values.length)

namespace Connection

variable {m : Type → Type} [Monad m] {α : Type}

/-- Prepare a statement and perform it. -/
def run (c : Connection m) (q : SqlStatement) : m (Except Fault (Prepared m × Outcome)) := do
  match ← c.prepare q.text with
  | .error f => pure (.error f)
  | .ok p =>
    match serialize p.parameters q.params.values with
    | .error f => pure (.error f)
    | .ok cells =>
      match ← p.perform cells with
      | .error f => pure (.error f)
      | .ok o => pure (.ok (p, o))

/-- Do `body` in a transaction. What fails at its start or its end is told by `blame`. -/
def inTransaction (c : Connection m) (blame : Fault → Error) (body : m (Except Error α)) :
    m (Except Error α) := do
  match ← c.control .start with
  | .error f =>
    let _ ← c.control .rollback
    pure (.error (blame f))
  | .ok () =>
    match ← body with
    | .error e =>
      let _ ← c.control .rollback
      pure (.error e)
    | .ok x =>
      match ← c.control .commit with
      | .error f => pure (.error (blame f))
      | .ok () => pure (.ok x)

end Connection

@[simp] theorem serializeFrom_nil (index : Nat) : serializeFrom index [] = .ok [] := rfl

end Sift.Postgres
