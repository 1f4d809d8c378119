import Sift.Postgres.Executor
import Sift.Postgres.Pool

/-!
# The scripted server

A server without data: it answers from a script and writes down every request that reaches it. Each
prepared statement takes the next reply of the script, or a plain one when the script is at its end.
Transaction control succeeds unless the script says otherwise. A request on a closed connection
reaches nobody; a pool replaces a closed connection, a client keeps it.
-/
namespace Sift.Postgres

/-- How a performed statement ends. -/
inductive Ending where
  | success
  | error
  /-- No answer comes. -/
  | silence
  /-- The connection is closed instead of an answer. -/
  | hangup
deriving DecidableEq

/-- The server's part in one statement. -/
structure Reply where
  /-- The statement is accepted when it is prepared. -/
  accepted : Bool
  parameters : List CellType
  columns : List (String × CellType)
  rows : List (List Cell)
  tag : String
  ending : Ending

/-- No parameters, no rows and nothing affected. -/
def Reply.plain : Reply := ⟨true, [], [], [], "SELECT 0", .success⟩

/-- A request as it reaches the server. -/
inductive Request where
  | control (c : Control)
  | prepare (text : String)
  | bind (cells : List Cell)
deriving DecidableEq

/-- A server: the replies and refusals to come, and what has happened so far. -/
structure Server where
  replies : List Reply
  refused : List Control
  closed : Bool
  requests : List Request
  events : List Event

namespace Server

/-- A server at the start of a script. -/
def start (replies : List Reply) (refused : List Control) (closed : Bool) : Server :=
  ⟨replies, refused, closed, [], []⟩

/-- Write down a request. -/
def receive (r : Request) (s : Server) : Server := { s with requests := s.requests ++ [r] }

/-- Write down an event. -/
def log (e : Event) (s : Server) : Server := { s with events := s.events ++ [e] }

/-- Answer a control statement. -/
def control (c : Control) : StateM Server (Except Fault Unit) := do
  if (← get).closed then pure (.error .closed)
  else
    modify (receive (.control c))
    if c ∈ (← get).refused then pure (.error .rejected) else pure (.ok ())

/-- Answer a performed statement. -/
def perform (reply : Reply) (cells : List Cell) : StateM Server (Except Fault Outcome) := do
  if (← get).closed then pure (.error .closed)
  else
    modify (receive (.bind cells))
    match reply.ending with
    | .success => pure (.ok ⟨reply.rows, reply.tag⟩)
    | .error => pure (.error .rejected)
    | .silence => pure (.error .stalled)
    | .hangup =>
      modify fun s => { s with closed := true }
      pure (.error .closed)

/-- Take the next reply and answer a prepared statement with it. -/
def prepare (text : String) : StateM Server (Except Fault (Prepared (StateM Server))) := do
  if (← get).closed then pure (.error .closed)
  else
    let reply := (← get).replies.headD .plain
    modify fun s => receive (.prepare text) { s with replies := s.replies.tail }
    if reply.accepted then pure (.ok ⟨reply.parameters, reply.columns, perform reply⟩)
    else pure (.error .rejected)

/-- The line to a scripted server. -/
def line : Connection (StateM Server) := ⟨control, prepare⟩

/-- Where connections to a scripted server come from. -/
inductive Source where
  /-- One connection for all calls. -/
  | client
  | pool
  /-- A pool that has no connection and can make none. -/
  | refusedPool
  | closedPool
deriving DecidableEq

/-- Take a connection. -/
def connect : Source → StateM Server (Except PoolFault (Connection (StateM Server)))
  | .client => pure (.ok line)
  | .pool => do
    modify fun s => { s with closed := false }
    pure (.ok line)
  | .refusedPool => pure (.error (.refused invalidAddress))
  | .closedPool => pure (.error .closed)

/-- A scripted server as a backend. All work on it takes a moment. -/
def backend (source : Source) : Backend (StateM Server) where
  connect := connect source
  emit e := modify (log e)
  elapsed := pure ⟨1⟩

/-- The executor over a scripted server. -/
def executor (source : Source) (settings : ExecutorSettings) : Executor (StateM Server) :=
  (backend source).executor settings

end Server

end Sift.Postgres
