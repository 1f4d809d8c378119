import Sift.Executor.Basic
import Sift.Table

/-!
# What all builders share

A builder collects what an operation is to do and finds its faults on the way: its mapping may be
unsound, and the names it is given may not be mapped. The first fault stays and is reported when the
operation is compiled. Filters add up: a row has to pass all of them. Collecting goes on after a
fault, so that an operation without any filter can be told from one whose filter is at fault.
-/
namespace Sift

/-- The state of a builder for the entity `e`, apart from what its operation adds. -/
structure Scope (e : Entity) where
  /-- The entity's name; if its mapping is unsound, the name of the type that it maps. -/
  name : String
  routingKey : Option String
  /-- The table, or the first fault. -/
  state : Except Error Table
  /-- All filters so far. -/
  filter : Option Predicate

namespace Scope

variable {e : Entity}

/-- Start from a table or from the fault of its mapping. -/
def start (typeName : String) (table : Except Error Table) (routingKey : Option String) : Scope e :=
  { name := match table with
      | .ok t => t.entity.name
      | .error _ => typeName
    routingKey := routingKey
    state := table
    filter := none }

/-- Keep the table if a check of it passes, and its error otherwise. -/
def check (s : Scope e) (test : Table → Except Error Unit) : Scope e :=
  { s with state := s.state.bind fun t => (test t).map fun _ => t }

/-- Note that a property is used. -/
def checkField (s : Scope e) (property : String) : Scope e :=
  s.check fun t => (t.field property).map fun _ => ()

/-- Add a filter. -/
def addFilter (s : Scope e) (p : Predicate) : Scope e :=
  let checked := s.check fun t => t.validate p
  { checked with filter := some (match s.filter with
      | some q => .and q p
      | none => p) }

/-- The filter that an operation cannot do without. -/
def requiredFilter (s : Scope e) (operation : String) : Except Error Predicate :=
  match s.filter with
  | some p => .ok p
  | none =>
    .error (.unconditional (operation ++ s!" on '{s.name}' requires at least one filter"))

/-- The context of an operation. -/
def context (s : Scope e) (kind : StatementKind) (access : Access) : Context :=
  (Context.of kind access s.name).routed s.routingKey

@[simp] theorem filter_start (n : String) (t : Except Error Table) (k : Option String) :
    (start n t k : Scope e).filter = none := rfl

@[simp] theorem state_start (n : String) (t : Except Error Table) (k : Option String) :
    (start n t k : Scope e).state = t := rfl

@[simp] theorem filter_checkField (s : Scope e) (p : String) :
    (s.checkField p).filter = s.filter := rfl

@[simp] theorem name_checkField (s : Scope e) (p : String) : (s.checkField p).name = s.name := rfl

@[simp] theorem name_addFilter (s : Scope e) (p : Predicate) : (s.addFilter p).name = s.name := rfl

@[simp] theorem routingKey_checkField (s : Scope e) (p : String) :
    (s.checkField p).routingKey = s.routingKey := rfl

@[simp] theorem routingKey_addFilter (s : Scope e) (p : Predicate) :
    (s.addFilter p).routingKey = s.routingKey := rfl

end Scope

end Sift
