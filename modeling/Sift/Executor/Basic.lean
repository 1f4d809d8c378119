import Sift.Executor.Event
import Sift.Record

/-!
# Executors

An executor runs statements of one dialect: it fetches rows, executes a statement for its number of
affected rows, or executes several as one. It runs in a monad `m`, which holds whatever lies behind
it. A statement is logged before it is handed over.
-/
namespace Sift

/-- Something that runs statements. -/
structure Executor (m : Type → Type) where
  dialect : Dialect
  /-- How many bytes of statement text are logged; `none` is all of it. -/
  logLimit : Option Nat
  emit : Event → m Unit
  fetch : Statement → Context → m (Except Error (List Record))
  execute : Statement → Context → m (Except Error UInt64)
  /-- Run all statements in order, or have none of them run. -/
  executeBatch : List Statement → Context → m (Except Error UInt64)

namespace Executor

variable {m : Type → Type} [Monad m]

/-- Log that a statement is sent. -/
def announce (x : Executor m) (s : Statement) (c : Context) : m Unit :=
  x.emit (Event.ofDispatch x.logLimit s c)

/-- Log and fetch. -/
def sendFetch (x : Executor m) (s : Statement) (c : Context) : m (Except Error (List Record)) := do
  x.announce s c
  x.fetch s c

/-- Log and execute. -/
def sendExecute (x : Executor m) (s : Statement) (c : Context) : m (Except Error UInt64) := do
  x.announce s c
  x.execute s c

/-- Log each and execute all. -/
def sendBatch (x : Executor m) (ss : List Statement) (c : Context) : m (Except Error UInt64) := do
  ss.forM fun s => x.announce s c
  x.executeBatch ss c

end Executor

end Sift
