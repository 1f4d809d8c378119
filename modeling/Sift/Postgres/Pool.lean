import Sift.Error
import Sift.Executor.Context
import Sift.Postgres.Address

/-!
# Connection pools

A pool is made from a connection string, which is only checked then: connections are made when they
are first asked for.
-/
namespace Sift.Postgres

/-- What is told of a connection string that is not valid. -/
def invalidAddress : String := "invalid connection string"

/-- The state of a pool of connections. -/
structure Pool where
  /-- The most connections that it holds. -/
  maxSize : Nat
  /-- The connections that it has made. -/
  size : Nat
  /-- The connections that wait in it. -/
  available : Nat
deriving DecidableEq

namespace Pool

/-- A pool for the server of a connection string; it starts without connections. -/
def create (address : String) : Except Error Pool :=
  if Address.isValid address then .ok ⟨16, 0, 0⟩ else .error (.connection invalidAddress)

@[simp] theorem size_of_create {address : String} {p : Pool} (h : create address = .ok p) :
    p.size = 0 := by
  unfold create at h
  split at h <;> cases h
  rfl

end Pool

/-- The description of an executor that takes its connections from a pool. -/
def poolExecutorText (settings : ExecutorSettings) : String :=
  "PgExecutor \x7b source: \"pool\", config: " ++ settings.text ++ " \x7d"

end Sift.Postgres
