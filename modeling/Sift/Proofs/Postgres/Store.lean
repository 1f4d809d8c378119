import Sift.Postgres.Executor

/-!
# A server with data

A server that keeps data and has transactions. What it answers is left open, `Behavior`: any request
may succeed or fail, whatever has been asked before. What an answer means for the data is not: a
statement takes effect if it succeeds; within a transaction only the transaction sees the effect,
until it is committed; and a transaction that is rolled back leaves nothing behind.

The state of the server is that of its exchanges, `Behavior.after`, and one statement is exchanged
as `Connection.run_line` says.
-/
namespace Sift.Postgres

/-- A request with its answer. -/
inductive Exchange where
  | control (c : Control) (answer : Except Fault Unit)
  | prepare (text : String) (answer : Except Fault (List CellType × List (String × CellType)))
  | perform (text : String) (cells : List Cell) (answer : Except Fault Outcome)

/-- How a server behaves. Its answers may depend on all exchanges before. -/
structure Behavior (σ : Type) where
  control : List Exchange → Control → Except Fault Unit
  /-- The types of the parameters, and the columns of the rows. -/
  prepare : List Exchange → String → Except Fault (List CellType × List (String × CellType))
  perform : List Exchange → String → List Cell → Except Fault Outcome
  /-- What a statement does to the data when it succeeds. -/
  effect : String → List Cell → σ → σ
  /-- A transaction whose commit fails is committed all the same. -/
  lands : List Exchange → Bool
  /-- The time that work takes. -/
  elapsed : List Exchange → Duration

/-- A server with data. -/
structure Store (σ : Type) where
  /-- The data as everyone sees them. -/
  stored : σ
  /-- The data as the open transaction sees them, if one is open. -/
  pending : Option σ
  exchanges : List Exchange

namespace Behavior

variable {σ : Type} (x : Behavior σ)

/-- The data of a server after an exchange. -/
def settle (s : Store σ) : Exchange → Store σ
  | .control .start (.ok ()) => { s with pending := some s.stored }
  | .control .start (.error _) => s
  | .control .commit (.ok ()) => { s with stored := s.pending.getD s.stored, pending := none }
  | .control .commit (.error _) =>
    { s with
      stored := if x.lands s.exchanges then s.pending.getD s.stored else s.stored
      pending := none }
  | .control .rollback _ => { s with pending := none }
  | .prepare .. => s
  | .perform text cells (.ok _) =>
    match s.pending with
    | some data => { s with pending := some (x.effect text cells data) }
    | none => { s with stored := x.effect text cells s.stored }
  | .perform _ _ (.error _) => s

/-- A server after an exchange. -/
def receive (s : Store σ) (e : Exchange) : Store σ :=
  { x.settle s e with exchanges := s.exchanges ++ [e] }

/-- A server after several exchanges. -/
def after (s : Store σ) (es : List Exchange) : Store σ := es.foldl x.receive s

/-- Some data with the effects of all statements that succeed. -/
def work (data : σ) (es : List Exchange) : σ :=
  es.foldl (fun data e =>
    match e with
    | .perform text cells (.ok _) => x.effect text cells data
    | _ => data) data

/-- Answer with what is exchanged in the present state. -/
def answer {α : Type} (reply : List Exchange → α) (exchange : α → Exchange) :
    StateM (Store σ) α :=
  fun s => (reply s.exchanges, x.receive s (exchange (reply s.exchanges)))

/-- A statement as a server knows it. -/
def prepared (text : String) (types : List CellType) (columns : List (String × CellType)) :
    Prepared (StateM (Store σ)) :=
  ⟨types, columns, fun cells => x.answer (x.perform · text cells) (.perform text cells)⟩

/-- The line to a server. -/
def line : Connection (StateM (Store σ)) where
  control c := x.answer (x.control · c) (.control c)
  prepare text := do
    let kinds ← x.answer (x.prepare · text) (.prepare text)
    pure (kinds.map fun (types, columns) => x.prepared text types columns)

/-- A server as a backend that always has a connection. What is logged goes elsewhere. -/
def backend : Backend (StateM (Store σ)) where
  connect := pure (.ok x.line)
  emit _ := pure ()
  elapsed := fun s => (x.elapsed s.exchanges, s)

@[simp] theorem after_nil (s : Store σ) : x.after s [] = s := rfl

@[simp] theorem after_cons (s : Store σ) (e : Exchange) (es : List Exchange) :
    x.after s (e :: es) = x.after (x.receive s e) es := rfl

theorem after_append (s : Store σ) (es fs : List Exchange) :
    x.after s (es ++ fs) = x.after (x.after s es) fs :=
  List.foldl_append

theorem after_concat (s : Store σ) (es : List Exchange) (e : Exchange) :
    x.after s (es ++ [e]) = x.receive (x.after s es) e :=
  x.after_append s es [e]

theorem work_append (data : σ) (es fs : List Exchange) :
    x.work data (es ++ fs) = x.work (x.work data es) fs :=
  List.foldl_append

/-- A commit ends a transaction, and if it succeeds its work is stored. -/
theorem receive_commit {s : Store σ} {data : σ} (answer : Except Fault Unit)
    (hopen : s.pending = some data) :
    (x.receive s (.control .commit answer)).pending = none ∧
    ((x.receive s (.control .commit answer)).stored = s.stored ∨
      (x.receive s (.control .commit answer)).stored = data) ∧
    (answer = .ok () → (x.receive s (.control .commit answer)).stored = data) := by
  cases answer with
  | error f =>
    rw [receive, settle, hopen]
    cases x.lands s.exchanges with
    | false => exact ⟨rfl, .inl rfl, nofun⟩
    | true => exact ⟨rfl, .inr rfl, nofun⟩
  | ok u =>
    rw [receive, settle, hopen]
    exact ⟨rfl, .inr rfl, fun _ => rfl⟩

/-- A statement that succeeds within a transaction. -/
theorem receive_perform {s : Store σ} {data : σ} (text : String) (cells : List Cell) (o : Outcome)
    (hopen : s.pending = some data) :
    x.receive s (.perform text cells (.ok o)) =
      ⟨s.stored, some (x.effect text cells data),
        s.exchanges ++ [.perform text cells (.ok o)]⟩ := by
  rw [receive, settle, hopen]

theorem exchanges_after (s : Store σ) (es : List Exchange) :
    (x.after s es).exchanges = s.exchanges ++ es := by
  induction es generalizing s with
  | nil => exact (List.append_nil _).symm
  | cons e es ih =>
    rw [after_cons, ih, receive, List.append_assoc]
    rfl

end Behavior

/-- One action after another: the second starts where the first ends. -/
theorem run_bind {S α β : Type} (first : StateM S α) (next : α → StateM S β) (s : S) :
    (first >>= next).run s = (next (first.run s).1).run (first.run s).2 := rfl

/-! ## One statement -/

/-- Statements that succeed one after the other: how many rows each of them affects, and all that is
exchanged. -/
inductive Performed : List SqlStatement → List UInt64 → List Exchange → Prop
  | nil : Performed [] [] []
  | cons {q : SqlStatement} {types : List CellType} {columns : List (String × CellType)}
      {cells : List Cell} {o : Outcome} {rest : List SqlStatement} {counts : List UInt64}
      {es : List Exchange} (written : serialize types q.params.values = .ok cells)
      (later : Performed rest counts es) :
      Performed (q :: rest) (o.affected :: counts)
        (.prepare q.text (.ok (types, columns)) :: .perform q.text cells (.ok o) :: es)

/-- A statement that fails: why, and what is exchanged until then. -/
inductive Fails (q : SqlStatement) : Fault → List Exchange → Prop
  | refused {f : Fault} : Fails q f [.prepare q.text (.error f)]
  | unwritten {types : List CellType} {columns : List (String × CellType)} {f : Fault}
      (fault : serialize types q.params.values = .error f) :
      Fails q f [.prepare q.text (.ok (types, columns))]
  | failed {types : List CellType} {columns : List (String × CellType)} {cells : List Cell}
      {f : Fault} (written : serialize types q.params.values = .ok cells) :
      Fails q f [.prepare q.text (.ok (types, columns)), .perform q.text cells (.error f)]

section Line

variable {σ : Type} (x : Behavior σ)

@[simp] theorem Behavior.run_control (c : Control) (s : Store σ) :
    (x.line.control c).run s =
      (x.control s.exchanges c, x.receive s (.control c (x.control s.exchanges c))) := rfl

@[simp] theorem Behavior.run_prepare (text : String) (s : Store σ) :
    (x.line.prepare text).run s =
      ((x.prepare s.exchanges text).map fun (types, columns) => x.prepared text types columns,
        x.receive s (.prepare text (x.prepare s.exchanges text))) := rfl

@[simp] theorem Behavior.run_perform (text : String) (types : List CellType)
    (columns : List (String × CellType)) (cells : List Cell) (s : Store σ) :
    ((x.prepared text types columns).perform cells).run s =
      (x.perform s.exchanges text cells,
        x.receive s (.perform text cells (x.perform s.exchanges text cells))) := rfl

@[simp] theorem Behavior.parameters_prepared (text : String) (types : List CellType)
    (columns : List (String × CellType)) : (x.prepared text types columns).parameters = types := rfl

/-- One statement, whatever comes of it. -/
theorem Connection.run_line (q : SqlStatement) (s : Store σ) : ∃ es,
    ((x.line.run q).run s).2 = x.after s es ∧
    ((∃ p o, ((x.line.run q).run s).1 = .ok (p, o) ∧ Performed [q] [o.affected] es) ∨
      ∃ f, ((x.line.run q).run s).1 = .error f ∧ Fails q f es) := by
  rw [Connection.run, run_bind, Behavior.run_prepare]
  cases hprepare : x.prepare s.exchanges q.text with
  | error f => exact ⟨[.prepare q.text (.error f)], rfl, .inr ⟨f, rfl, .refused⟩⟩
  | ok kinds =>
    obtain ⟨types, columns⟩ := kinds
    simp only [Except.map, Behavior.parameters_prepared]
    cases hcells : serialize types q.params.values with
    | error f =>
      exact ⟨[.prepare q.text (.ok (types, columns))], rfl, .inr ⟨f, rfl, .unwritten hcells⟩⟩
    | ok cells =>
      simp only [run_bind, Behavior.run_perform]
      cases x.perform (x.receive s (.prepare q.text (.ok (types, columns)))).exchanges q.text
          cells with
      | error f =>
        exact ⟨[.prepare q.text (.ok (types, columns)), .perform q.text cells (.error f)], rfl,
          .inr ⟨f, rfl, .failed hcells⟩⟩
      | ok o =>
        exact ⟨[.prepare q.text (.ok (types, columns)), .perform q.text cells (.ok o)], rfl,
          .inl ⟨_, o, rfl, .cons hcells .nil⟩⟩

/-- Within a transaction, statements that succeed change what it sees and nothing else. -/
theorem Performed.after {qs : List SqlStatement} {counts : List UInt64} {es : List Exchange}
    (h : Performed qs counts es) {s : Store σ} {data : σ} (hopen : s.pending = some data) :
    (x.after s es).pending = some (x.work data es) ∧ (x.after s es).stored = s.stored := by
  induction h generalizing s data with
  | nil => exact ⟨hopen, rfl⟩
  | @cons q types columns cells o rest counts es written later ih =>
    have hopen' : (x.receive s (.prepare q.text (.ok (types, columns)))).pending = some data :=
      hopen
    have hreceive := x.receive_perform q.text cells o hopen'
    obtain ⟨hpending, hstored⟩ := ih (congrArg Store.pending hreceive)
    refine ⟨hpending, hstored.trans ?_⟩
    rw [hreceive]
    rfl

/-- A statement that fails changes nothing. -/
theorem Fails.after {q : SqlStatement} {f : Fault} {es : List Exchange} (h : Fails q f es)
    (s : Store σ) :
    (x.after s es).pending = s.pending ∧ (x.after s es).stored = s.stored := by
  cases h with
  | refused => exact ⟨rfl, rfl⟩
  | unwritten fault => exact ⟨rfl, rfl⟩
  | failed written => exact ⟨rfl, rfl⟩

end Line

end Sift.Postgres
