import Sift.Executor.Basic

/-!
# The recording executor

An executor without a store: it writes down every event and every call, and answers all calls alike,
from a script. What a builder sends, and when it sends nothing, can be read off its journal.
-/
namespace Sift

/-- The three ways to call an executor. -/
inductive CallKind where
  | fetch
  | execute
  | executeBatch
deriving DecidableEq

/-- The name of a call in answers. -/
def CallKind.name : CallKind → String
  | fetch => "fetch"
  | execute => "execute"
  | executeBatch => "execute_batch"

/-- One call of an executor. -/
structure Call where
  kind : CallKind
  context : Context
  statements : List Statement

/-- What has been logged and called so far. -/
structure Journal where
  events : List Event
  calls : List Call

namespace Journal

/-- Nothing yet. -/
def empty : Journal := ⟨[], []⟩

/-- Write down an event. -/
def event (e : Event) (j : Journal) : Journal := { j with events := j.events ++ [e] }

/-- Write down a call. -/
def call (c : Call) (j : Journal) : Journal := { j with calls := j.calls ++ [c] }

end Journal

/-- The answers of a recording executor. -/
structure Script where
  rows : List Record
  /-- Rows affected by each statement. -/
  affected : UInt64
  /-- If set, every call fails for this reason. -/
  failure : Option String

namespace Script

/-- The answer of a script: a value, or its failure on the statement of the call. -/
def answer {α : Type} (script : Script) (ss : List Statement) (x : α) : Except Error α :=
  match script.failure, ss.head? with
  | some source, some s => .error (.execution s.text s.params source)
  | some source, none => .error (.execution "" .empty source)
  | none, _ => .ok x

end Script

/-- The executor that records its calls and answers from a script. -/
def recorder (d : Dialect) (logLimit : Option Nat) (script : Script) :
    Executor (StateM Journal) where
  dialect := d
  logLimit := logLimit
  emit e := modify (Journal.event e)
  fetch s c := do
    modify (Journal.call ⟨.fetch, c, [s]⟩)
    pure (script.answer [s] script.rows)
  execute s c := do
    modify (Journal.call ⟨.execute, c, [s]⟩)
    pure (script.answer [s] script.affected)
  executeBatch ss c := do
    modify (Journal.call ⟨.executeBatch, c, ss⟩)
    pure (script.answer ss (script.affected * UInt64.ofNat ss.length))

end Sift
