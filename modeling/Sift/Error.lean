import Sift.Duration
import Sift.Params

/-!
# Errors

What can go wrong between building a request and reading its answer. The first five causes are found
while a statement is made, before anything is sent; they are the *compile errors*, and a builder
that meets one keeps the first of them for its terminal call. The others come from the executor.
-/
namespace Sift

/-- The causes of failure. -/
inductive Error where
  /-- A mapping that cannot be used. -/
  | configuration (message : String)
  /-- A name that the entity does not map. -/
  | fieldNotFound (entity field : String)
  /-- A predicate of a shape that has no statement. -/
  | unsupported (message : String)
  /-- An operation that must be narrowed by a filter, an assignment or a key. -/
  | unconditional (message : String)
  /-- A continuation token that cannot be read or continued. -/
  | invalidCursor (message : String)
  /-- A statement that its executor failed to run. -/
  | execution (statement : String) (params : Params) (source : String)
  /-- A cell that does not hold what was expected. -/
  | decode (column message : String)
  /-- A connection that cannot be made. -/
  | connection (message : String)
  /-- A pool that gives no connection. -/
  | pool (message : String)
  /-- A statement that took too long. -/
  | timeout (after : Duration)
  /-- Anything else. -/
  | other (message : String)

namespace Error

/-- The message of an error. -/
def message : Error → String
  | configuration m => "Configuration error: " ++ m
  | fieldNotFound entity field => s!"Field '{field}' not found on entity '{entity}'"
  | unsupported m => "Unsupported predicate: " ++ m
  | unconditional m => "Unconditional operation rejected: " ++ m
  | invalidCursor m => "Invalid cursor token: " ++ m
  | execution statement _ source => s!"Execution error: {source} (statement: {statement})"
  | decode column m => s!"Decode error on column '{column}': {m}"
  | connection m => "Connection error: " ++ m
  | pool m => "Pool error: " ++ m
  | timeout after => "Statement timeout after " ++ after.text
  | other m => m

/-- The cause underneath, where there is one. -/
def source? : Error → Option String
  | execution _ _ source => some source
  | _ => none

/-- An operation was rejected for lack of a condition. -/
def isUnconditional : Error → Bool
  | unconditional _ => true
  | _ => false

/-- A name is not mapped. -/
def isFieldNotFound : Error → Bool
  | fieldNotFound .. => true
  | _ => false

/-- A statement took too long. -/
def isTimeout : Error → Bool
  | timeout _ => true
  | _ => false

/-- The error arises before anything is sent. -/
def isCompileError : Error → Bool
  | configuration _ | fieldNotFound .. | unsupported _ | unconditional _ | invalidCursor _ => true
  | _ => false

end Error

end Sift
