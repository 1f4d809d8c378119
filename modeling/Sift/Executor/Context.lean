import Sift.Duration

/-!
# Execution contexts and settings

A context travels beside a statement to its executor: which operation made it, whether it reads or
writes, whether it must run in a transaction, which entity it is about, and a routing key that is
passed through untouched. The settings of an executor bound how long a statement may run, from when
on it counts as slow, and how many bytes of its text are logged.
-/
namespace Sift

/-- The operation that made a statement. -/
inductive StatementKind where
  | select
  | count
  | update
  | delete
  | insert
deriving DecidableEq

/-- The name of an operation in logs. -/
def StatementKind.name : StatementKind → String
  | select => "Select"
  | count => "Count"
  | update => "Update"
  | delete => "Delete"
  | insert => "Insert"

/-- Whether a statement changes anything. -/
inductive Access where
  | read
  | write
deriving DecidableEq

/-- The name of an access in answers. -/
def Access.name : Access → String
  | read => "Read"
  | write => "Write"

/-- What an executor is told about a statement. -/
structure Context where
  kind : StatementKind
  access : Access
  transactional : Bool
  entity : String
  routingKey : Option String
deriving DecidableEq

namespace Context

/-- A context outside transactions and without a routing key. -/
def of (kind : StatementKind) (access : Access) (entity : String) : Context :=
  ⟨kind, access, false, entity, none⟩

/-- The same in a transaction. -/
def inTransaction (c : Context) : Context := { c with transactional := true }

/-- The same under a routing key, or under none. -/
def routed (c : Context) (key : Option String) : Context := { c with routingKey := key }

@[simp] theorem transactional_of (k : StatementKind) (a : Access) (e : String) :
    (of k a e).transactional = false := rfl

@[simp] theorem transactional_inTransaction (c : Context) :
    c.inTransaction.transactional = true := rfl

@[simp] theorem routingKey_routed (c : Context) (key : Option String) :
    (c.routed key).routingKey = key := rfl

end Context

/-- The number of bytes of statement text that is logged unless another is set. -/
def defaultLogLimit : Nat := 200

/-- The settings of an executor; `none` sets no bound. -/
structure ExecutorSettings where
  timeout : Option Duration
  slowAfter : Option Duration
  logLimit : Option Nat
deriving DecidableEq

namespace ExecutorSettings

/-- No timeout, nothing slow, and the default log limit. -/
def initial : ExecutorSettings := ⟨none, none, some defaultLogLimit⟩

/-- A setting in the text of the settings. -/
def optionText {α : Type} (text : α → String) : Option α → String
  | none => "None"
  | some x => "Some(" ++ text x ++ ")"

/-- The settings in full. -/
def text (c : ExecutorSettings) : String :=
  "ExecutorConfig \x7b query_timeout: " ++ optionText Duration.text c.timeout ++
    ", slow_query_threshold: " ++ optionText Duration.text c.slowAfter ++
    ", max_logged_sql_length: " ++ optionText toString c.logLimit ++ " \x7d"

end ExecutorSettings

end Sift
