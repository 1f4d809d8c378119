import Sift.Builder.Scope
import Sift.Cursor
import Sift.Plan

/-!
# Queries

A query reads rows: filtered, sorted, projected and paged. Filters, sort keys and projected fields
add up; of several starts or limits the last counts. A start can be given by a continuation token,
and a token that cannot be read is reported when the query is compiled.

`Query.toList` and `Query.toPage` read all matching rows and insist on a filter; `Query.first` and
`Query.any` ask for one row; `Query.count` counts, whatever the order and the page.
-/
namespace Sift

/-- A read under construction. -/
structure Query (e : Entity) where
  scope : Scope e
  order : List (String × Bool)
  selected : List String
  unselected : List String
  start : Option (Except CursorFault UInt64)
  limit : Option UInt64

/-- Some rows, and the token of the page after them. -/
structure Page (e : Entity) where
  items : List (Row e.fields)
  next : String

namespace Query

variable {e : Entity}

/-- A query without any restriction. -/
def new (scope : Scope e) : Query e := ⟨scope, [], [], [], none, none⟩

/-- Add a filter. -/
def filter (q : Query e) (p : Predicate) : Query e := { q with scope := q.scope.addFilter p }

/-- Add a sort key. -/
def sortBy (q : Query e) (property : String) (ascending : Bool) : Query e :=
  { q with scope := q.scope.checkField property, order := q.order ++ [(property, ascending)] }

/-- Add a field to the projection. -/
def select (q : Query e) (property : String) : Query e :=
  { q with scope := q.scope.checkField property, selected := q.selected ++ [property] }

/-- Take a field out of the projection. -/
def unselect (q : Query e) (property : String) : Query e :=
  { q with scope := q.scope.checkField property, unselected := q.unselected ++ [property] }

/-- Start after some rows. -/
def skip (q : Query e) (offset : UInt64) : Query e := { q with start := some (.ok offset) }

/-- Start where a page ended. -/
def skipCursor (q : Query e) (token : String) : Query e :=
  { q with start := some (Cursor.decode token) }

/-- Read at most some rows. -/
def take (q : Query e) (limit : UInt64) : Query e := { q with limit := some limit }

/-- The start of the query. -/
def resolvedStart (q : Query e) : Except Error (Option UInt64) :=
  match q.start with
  | none => .ok none
  | some (.ok offset) => .ok (some offset)
  | some (.error fault) => .error fault.toError

/-- Resolve names, keeping the first of several of one property. -/
def resolveDistinct (t : Table) (chosen : List Field) : List String → Except Error (List Field)
  | [] => .ok chosen
  | name :: rest => do
    let f ← t.field name
    let seen := chosen.any fun g => g.property = f.property
    resolveDistinct t (if seen then chosen else chosen ++ [f]) rest

/-- The fields to read: those selected, or all, less those unselected, and all if none is left. -/
def projection (q : Query e) (t : Table) : Except Error (List Field) := do
  let chosen ← if q.selected.isEmpty then .ok t.fields else resolveDistinct t [] q.selected
  let kept := chosen.filter fun f => !q.unselected.contains f.property
  .ok (if kept.isEmpty then t.fields else kept)

/-- The sort keys, resolved. -/
def sortKeys (q : Query e) (t : Table) : Except Error (List SortKey) :=
  q.order.mapM fun (name, ascending) => do
    let f ← t.field name
    .ok ⟨f, ascending⟩

/-- The statement that reads at most `limit` rows: their projection, or the key alone. -/
def compileSelect (q : Query e) (limit : Option UInt64) (keyOnly : Bool) :
    Except Error Statement := do
  let t ← q.scope.state
  let skip ← q.resolvedStart
  let columns ← if keyOnly then .ok [t.key] else q.projection t
  let order ← q.sortKeys t
  Plan.compile t (.select ⟨q.scope.filter, columns, order, skip, limit⟩)

/-- The statement of the query as it stands. -/
def toStatement (q : Query e) : Except Error Statement := q.compileSelect q.limit false

/-- The statement that counts the matching rows. -/
def compileCount (q : Query e) : Except Error Statement := do
  let t ← q.scope.state
  Plan.compile t (.count q.scope.filter)

/-- The statement of an operation that insists on a filter. -/
def compileFiltered (q : Query e) (operation : String) : Except Error Statement := do
  let _ ← q.scope.requiredFilter operation
  q.toStatement

/-- The statement of a page, and the offset at which the page starts. -/
def compilePage (q : Query e) : Except Error (UInt64 × Statement) := do
  let _ ← q.scope.requiredFilter "to_result"
  let start ← q.resolvedStart
  let s ← q.toStatement
  .ok (start.getD 0, s)

/-- The count in the first cell of the first row; no cell is no rows. -/
def countOf (rows : List Record) : Except Error UInt64 :=
  match rows with
  | [] => .ok 0
  | r :: _ =>
    match r.columns with
    | [] => .ok 0
    | (column, _) :: _ => do
      let n : Int64 ← r.read ⟨.int64, false⟩ column
      if n.toInt < 0 then .error (.decode column "negative count")
      else .ok (UInt64.ofNat n.toInt.toNat)

/-- Read each record as a row. -/
def rowsOf (e : Entity) (rows : List Record) : Except Error (List (Row e.fields)) :=
  rows.mapM (Row.ofRecord e.fields)

/-- The page of some rows that start at an offset. -/
def pageOf (offset : UInt64) (items : List (Row e.fields)) : Except Error (Page e) :=
  if offset.toNat + items.length < UInt64.size then
    .ok ⟨items, Cursor.encode (UInt64.ofNat (offset.toNat + items.length))⟩
  else
    .error (.invalidCursor s!"offset {offset.toNat} leaves no room for another page")

section Terminals

variable {m : Type → Type} [Monad m]

/-- Fetch the rows of a statement, if it could be compiled. -/
def fetch (q : Query e) (x : Executor m) (kind : StatementKind) (s : Except Error Statement) :
    m (Except Error (List Record)) :=
  match s with
  | .error err => pure (.error err)
  | .ok s => x.sendFetch s (q.scope.context kind .read)

/-- How many rows match. -/
def count (q : Query e) (x : Executor m) : m (Except Error UInt64) := do
  let rows ← q.fetch x .count q.compileCount
  pure (rows.bind countOf)

/-- Whether any row matches. -/
def any (q : Query e) (x : Executor m) : m (Except Error Bool) := do
  let rows ← q.fetch x .select (q.compileSelect (some 1) true)
  pure (rows.map fun rs => !rs.isEmpty)

/-- The first row, if there is one. -/
def first (q : Query e) (x : Executor m) : m (Except Error (Option (Row e.fields))) := do
  let rows ← q.fetch x .select (q.compileSelect (some 1) false)
  pure (rows.bind fun rs =>
    match rs with
    | [] => .ok none
    | r :: _ => (Row.ofRecord e.fields r).map some)

/-- All matching rows. -/
def toList (q : Query e) (x : Executor m) : m (Except Error (List (Row e.fields))) := do
  let rows ← q.fetch x .select (q.compileFiltered "to_list")
  pure (rows.bind (rowsOf e))

/-- A page of matching rows. -/
def toPage (q : Query e) (x : Executor m) : m (Except Error (Page e)) := do
  let compiled := q.compilePage
  let rows ← q.fetch x .select (compiled.map Prod.snd)
  pure (do
    let (offset, _) ← compiled
    let items ← rows.bind (rowsOf e)
    pageOf offset items)

end Terminals

@[simp] theorem scope_skip (q : Query e) (n : UInt64) : (q.skip n).scope = q.scope := rfl

@[simp] theorem scope_skipCursor (q : Query e) (t : String) : (q.skipCursor t).scope = q.scope := rfl

@[simp] theorem scope_take (q : Query e) (n : UInt64) : (q.take n).scope = q.scope := rfl

@[simp] theorem scope_filter (q : Query e) (p : Predicate) :
    (q.filter p).scope = q.scope.addFilter p := rfl

end Query

end Sift
