import Sift.Dialect
import Sift.Error
import Sift.Executor.Context
import Sift.Statement

/-!
# Logged events

What is logged while statements are made and run. Statement text is logged up to a limit in bytes:
`clip` cuts it at the last character boundary within the limit and marks the cut. Bound values are
not logged.
-/
namespace Sift

/-- The longest beginning of at most `limit` bytes. -/
def takeBytes (limit : Nat) : List Char → List Char
  | [] => []
  | c :: rest => if c.utf8Size ≤ limit then c :: takeBytes (limit - c.utf8Size) rest else []

/-- A text cut to at most `limit` bytes, with dots where it was cut. -/
def clip (limit : Option Nat) (text : String) : String :=
  match limit with
  | none => text
  | some n =>
    if text.utf8ByteSize ≤ n then text else String.ofList (takeBytes n text.toList) ++ "..."

/-- A logged event. -/
inductive Event where
  /-- A mapping was checked for the first time under a dialect. -/
  | tableBuilt (entity : String) (dialect : Dialect) (table : String) (fields : Nat)
  /-- A statement is about to be sent. -/
  | dispatched (context : Context) (paramCount : Nat) (sql : String)
  /-- A statement failed. -/
  | failed (context : Context) (sql : String) (error : String)
  /-- A statement took longer than it should. -/
  | slow (context : Context) (sql : String)
deriving DecidableEq

namespace Event

/-- The event of sending a statement. -/
def ofDispatch (limit : Option Nat) (s : Statement) (c : Context) : Event :=
  .dispatched c s.params.size (clip limit s.text)

/-- The severity of an event. -/
def level : Event → String
  | tableBuilt .. => "TRACE"
  | dispatched .. => "DEBUG"
  | failed .. => "ERROR"
  | slow .. => "WARN"

/-- The log that an event goes to. -/
def target : Event → String
  | tableBuilt .. => "polyorm.metadata"
  | _ => "polyorm.sql"

/-- What happened. -/
def message : Event → String
  | tableBuilt .. => "built table descriptor"
  | dispatched .. => "dispatching statement"
  | failed .. => "statement failed"
  | slow .. => "slow statement"

/-- The particulars of an event. -/
def attributes : Event → List (String × Json)
  | tableBuilt entity dialect table fields =>
    [("entity", .string entity), ("dialect", .string dialect.name), ("table", .string table),
      ("fields", .int fields)]
  | dispatched c paramCount sql =>
    [("kind", .string c.kind.name), ("entity", .string c.entity),
      ("routing_key", .string (c.routingKey.getD "-")), ("param_count", .int paramCount),
      ("sql", .string sql)]
  | failed c sql error =>
    [("kind", .string c.kind.name), ("entity", .string c.entity), ("sql", .string sql),
      ("error", .string error)]
  | slow c sql =>
    [("kind", .string c.kind.name), ("entity", .string c.entity), ("sql", .string sql)]

end Event

@[simp] theorem takeBytes_nil (limit : Nat) : takeBytes limit [] = [] := rfl

@[simp] theorem clip_none (text : String) : clip none text = text := rfl

theorem takeBytes_begins (limit : Nat) (cs : List Char) : takeBytes limit cs <+: cs := by
  induction cs generalizing limit with
  | nil => simp
  | cons c rest ih =>
    simp only [takeBytes]
    split
    · exact List.cons_prefix_cons.2 ⟨rfl, ih _⟩
    · exact List.nil_prefix

end Sift
