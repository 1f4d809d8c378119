import Sift.Executor.Basic
import Sift.Postgres.Connection

/-!
# The PostgreSQL executor

An executor that runs statements over connections. Each call takes a connection from its backend,
does its work on it, and has failed and slow work logged. A command for a document store is refused
before a connection is taken. Several statements are executed in one transaction, so that either all
of them take effect or none does; faults at its start and its end are told of all of them together.
-/
namespace Sift.Postgres

/-- Why no connection is had. -/
inductive PoolFault where
  /-- No new connection can be made. -/
  | refused (cause : String)
  | closed
deriving DecidableEq

/-- The message of a fault. -/
def PoolFault.message : PoolFault → String
  | refused cause => "Error occurred while creating a new object: " ++ cause
  | closed => "Pool has been closed"

/-- Where an executor gets its connections, its log and its time. -/
structure Backend (m : Type → Type) where
  connect : m (Except PoolFault (Connection m))
  emit : Event → m Unit
  /-- How long the work just done has taken. -/
  elapsed : m Duration

/-- The error of a fault in a statement. -/
def faultError (settings : ExecutorSettings) (text : String) (params : Params) (f : Fault) :
    Error :=
  match f, settings.timeout with
  | .stalled, some limit => .timeout limit
  | _, _ => .execution text params f.message

/-- The record of a row; its cells are counted from `index`. -/
def decodeCells (index : Nat) :
    List (String × CellType) → List Cell → Record → Except Error Record
  | (name, t) :: columns, cell :: cells, r =>
    match decode index t cell with
    | .error fault => .error (.decode name fault.message)
    | .ok v => decodeCells (index + 1) columns cells (r.set name v)
  | _, _, r => .ok r

/-- The records of all rows. -/
def decodeRows (columns : List (String × CellType)) (rows : List (List Cell)) :
    Except Error (List Record) :=
  rows.mapM fun cells => decodeCells 0 columns cells .empty

/-- The refusal of a command for another store. -/
def documentRefused : Error :=
  .configuration "PgExecutor received a document command; compile with a relational dialect"

/-- The text of a statement with its parameters. -/
def sqlOf : Statement → Except Error SqlStatement
  | .sql q => .ok q
  | .document _ => .error documentRefused

namespace Backend

variable {m : Type → Type} [Monad m] {α : Type}

/-- Do some work and log it if it fails or is slow. -/
def observe (b : Backend m) (settings : ExecutorSettings) (text : String) (c : Context)
    (work : m (Except Error α)) : m (Except Error α) := do
  let result ← work
  let sql := clip settings.logLimit text
  match result, settings.slowAfter with
  | .error e, _ => b.emit (.failed c sql e.message)
  | .ok _, some limit =>
    if limit.nanos < (← b.elapsed).nanos then b.emit (.slow c sql)
  | .ok _, none => pure ()
  pure result

/-- Do some work on a connection. -/
def withConnection (b : Backend m) (work : Connection m → m (Except Error α)) :
    m (Except Error α) := do
  match ← b.connect with
  | .error fault => pure (.error (.pool fault.message))
  | .ok line => work line

/-- Run one statement, in a transaction if the context asks for one. -/
def runOne (settings : ExecutorSettings) (q : SqlStatement) (c : Context) (line : Connection m) :
    m (Except Error (Prepared m × Outcome)) :=
  let blame := faultError settings q.text q.params
  let body := (·.mapError blame) <$> line.run q
  if c.transactional then line.inTransaction blame body else body

/-- Execute statements in order up to the first that fails, adding up the rows they affect. -/
def executeAll (settings : ExecutorSettings) (line : Connection m) :
    List SqlStatement → UInt64 → m (Except Error UInt64)
  | [], total => pure (.ok total)
  | q :: rest, total => do
    match ← line.run q with
    | .error f => pure (.error (faultError settings q.text q.params f))
    | .ok (_, o) => executeAll settings line rest (total + o.affected)

/-- The texts of several statements together. -/
def summary (qs : List SqlStatement) : String := "; ".intercalate (qs.map SqlStatement.text)

/-- Fetch the rows of a statement. -/
def fetch (b : Backend m) (settings : ExecutorSettings) (s : Statement) (c : Context) :
    m (Except Error (List Record)) :=
  match sqlOf s with
  | .error e => pure (.error e)
  | .ok q =>
    b.observe settings q.text c <| b.withConnection fun line => do
      match ← runOne settings q c line with
      | .error e => pure (.error e)
      | .ok (p, o) => pure (decodeRows p.columns o.rows)

/-- Execute a statement for the number of rows it affects. -/
def execute (b : Backend m) (settings : ExecutorSettings) (s : Statement) (c : Context) :
    m (Except Error UInt64) :=
  match sqlOf s with
  | .error e => pure (.error e)
  | .ok q =>
    b.observe settings q.text c <| b.withConnection fun line => do
      match ← runOne settings q c line with
      | .error e => pure (.error e)
      | .ok (_, o) => pure (.ok o.affected)

/-- Execute several statements in one transaction, whatever the context asks. -/
def executeBatch (b : Backend m) (settings : ExecutorSettings) (ss : List Statement) (c : Context) :
    m (Except Error UInt64) :=
  match ss.mapM sqlOf with
  | .error e => pure (.error e)
  | .ok qs =>
    b.observe settings (summary qs) c <| b.withConnection fun line =>
      line.inTransaction (faultError settings (summary qs) (.merge (qs.map SqlStatement.params)))
        (executeAll settings line qs 0)

/-- The executor over a backend. -/
def executor (b : Backend m) (settings : ExecutorSettings) : Executor m where
  dialect := .sql .postgres
  logLimit := settings.logLimit
  emit := b.emit
  fetch := b.fetch settings
  execute := b.execute settings
  executeBatch := b.executeBatch settings

end Backend

@[simp] theorem sqlOf_sql (q : SqlStatement) : sqlOf (.sql q) = .ok q := rfl

@[simp] theorem sqlOf_document (c : Command) : sqlOf (.document c) = .error documentRefused := rfl

end Sift.Postgres
