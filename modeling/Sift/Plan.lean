import Sift.Condition.Document
import Sift.Condition.Sql
import Sift.Statement

/-!
# Plans

A plan says what a statement is to do, with its fields resolved against a table: read some columns
of the rows under a filter, count rows, assign values, delete rows, or insert one row. `compile`
turns it into the statement of a dialect. Relational dialects share the layout of the statements and
differ in spelling; the document store has its own commands.

A dialect that refuses to fetch zero rows gets a query that holds for none instead.
-/
namespace Sift

/-- One key of an order. -/
structure SortKey where
  field : Field
  ascending : Bool
deriving DecidableEq

/-- Read columns of rows. -/
structure SelectPlan where
  filter : Option Predicate
  columns : List Field
  order : List SortKey
  skip : Option UInt64
  take : Option UInt64

/-- What to do with the rows of a table. -/
inductive Plan where
  | select (s : SelectPlan)
  | count (filter : Option Predicate)
  | update (filter : Predicate) (assigned : List (Field × Value))
  | delete (filter : Predicate)
  | insert (values : List (Field × Value))

namespace SqlDialect

open SqlToken

/-- The tokens of columns with commas between them. -/
def columnList (fields : List Field) : List SqlToken :=
  commaList (fields.map fun f => [.ident f.column])

/-- One key of an order. -/
def sortTokens (k : SortKey) : List SqlToken :=
  [.ident k.field.column, .blank, .word (if k.ascending then "ASC" else "DESC")]

/-- The order of a query. One that has none is given a meaningless one where paging needs it. -/
def orderTokens (d : SqlDialect) (s : SelectPlan) : List SqlToken :=
  let orderBy := .blank :: words ["ORDER", "BY"] ++ [.blank]
  if !s.order.isEmpty then orderBy ++ commaList (s.order.map sortTokens)
  else if (s.skip.isSome || s.take.isSome) && d.pagingRequiresOrder then
    orderBy ++ parens (words ["SELECT", "NULL"])
  else []

/-- The paging of a query. -/
def pagingTokens (d : SqlDialect) (s : SelectPlan) : List SqlToken :=
  match d.paging? s.skip s.take with
  | some ts => .blank :: ts
  | none => []

/-- The beginning of a filter. -/
def whereWord : List SqlToken := [.blank, .word "WHERE", .blank]

/-- A filter, if there is one, behind its word. -/
def filterTokens (d : SqlDialect) (t : Table) (filter : Option Predicate) (ps : Params) :
    Except Error (List SqlToken × Params) :=
  match filter with
  | none => .ok ([], ps)
  | some p => (d.whereTokens t filterStem p ps).map fun (ts, ps) => (whereWord ++ ts, ps)

/-- A filter that no row passes, beside the one that is there. -/
def neverTokens (d : SqlDialect) (t : Table) (filter : Option Predicate) (ps : Params) :
    Except Error (List SqlToken × Params) :=
  match filter with
  | none => .ok (whereWord ++ always false, ps)
  | some p => (d.whereTokens t filterStem p ps).map fun (ts, ps) =>
    (whereWord ++ parens ts ++ .blank :: .word "AND" :: .blank :: parens (always false), ps)

/-- The tokens of a query. -/
def selectTokens (d : SqlDialect) (t : Table) (s : SelectPlan) :
    Except Error (List SqlToken × Params) :=
  let head := .word "SELECT" :: .blank :: columnList s.columns ++
    [.blank, .word "FROM", .blank, .ident t.entity.table]
  if s.columns.isEmpty then
    .error (.configuration s!"select on '{t.entity.name}' has an empty projection")
  else if s.take = some 0 ∧ d.rejectsZeroFetch then
    (d.neverTokens t s.filter .empty).map fun (ts, ps) => (head ++ ts, ps)
  else
    (d.filterTokens t s.filter .empty).map fun (ts, ps) =>
      (head ++ ts ++ d.orderTokens s ++ d.pagingTokens s, ps)

/-- The tokens of a count. -/
def countTokens (d : SqlDialect) (t : Table) (filter : Option Predicate) :
    Except Error (List SqlToken × Params) :=
  let head := [.word "SELECT", .blank, .word "COUNT", .mark "(", .number 1, .mark ")", .blank,
    .word "FROM", .blank, .ident t.entity.table]
  (d.filterTokens t filter .empty).map fun (ts, ps) => (head ++ ts, ps)

/-- Assignments in order, each binding its value. -/
def assignments (assigned : List (Field × Value)) : StateM Params (List (List SqlToken)) := do
  let ts ← bindParams assignmentStem (assigned.map Prod.snd)
  pure ((assigned.zip ts).map fun ((f, _), t) =>
    [.ident f.column, .blank, .mark "=", .blank, t])

/-- The tokens of an update. -/
def updateTokens (d : SqlDialect) (t : Table) (filter : Predicate)
    (assigned : List (Field × Value)) : Except Error (List SqlToken × Params) :=
  if assigned.isEmpty then
    .error (.unconditional s!"update on '{t.entity.name}' has no assignments")
  else
    let (sets, ps) := (assignments assigned).run .empty
    let head := [.word "UPDATE", .blank, .ident t.entity.table, .blank, .word "SET", .blank] ++
      commaList sets
    (d.filterTokens t (some filter) ps).map fun (ts, ps) => (head ++ ts, ps)

/-- The tokens of a deletion. -/
def deleteTokens (d : SqlDialect) (t : Table) (filter : Predicate) :
    Except Error (List SqlToken × Params) :=
  let head := words ["DELETE", "FROM"] ++ [.blank, .ident t.entity.table]
  (d.filterTokens t (some filter) .empty).map fun (ts, ps) => (head ++ ts, ps)

/-- The tokens of an insertion. -/
def insertTokens (t : Table) (values : List (Field × Value)) :
    Except Error (List SqlToken × Params) :=
  if values.isEmpty then
    .error (.configuration s!"insert into '{t.entity.name}' has no values")
  else
    let (ts, ps) := (bindParams filterStem (values.map Prod.snd)).run .empty
    .ok (words ["INSERT", "INTO"] ++ [.blank, .ident t.entity.table, .blank] ++
      parens (columnList (values.map Prod.fst)) ++ [.blank, .word "VALUES", .blank] ++
      parens (commaList (ts.map fun t => [t])), ps)

/-- The tokens of a plan. -/
def planTokens (d : SqlDialect) (t : Table) : Plan → Except Error (List SqlToken × Params)
  | .select s => d.selectTokens t s
  | .count filter => d.countTokens t filter
  | .update filter assigned => d.updateTokens t filter assigned
  | .delete filter => d.deleteTokens t filter
  | .insert values => insertTokens t values

end SqlDialect

namespace Command

/-- Fields and values as members of a document. -/
def members (values : List (Field × Value)) : List (String × Json) :=
  values.map fun (f, v) => (f.column, v.toJson)

/-- The filter of a command; the empty document matches all. -/
def filterOf (t : Table) : Option Predicate → Except Error Json
  | none => .ok (.object [])
  | some p => t.filterOf p

/-- The command of a plan. -/
def ofPlan (t : Table) : Plan → Except Error Command
  | .select s =>
    if s.columns.isEmpty then
      .error (.configuration s!"find on '{t.entity.name}' has an empty projection")
    else
      (filterOf t s.filter).map fun filter =>
        .find t.entity.table filter (s.columns.map Field.column)
          (s.order.map fun k => (k.field.column, k.ascending)) s.skip s.take
  | .count filter => (filterOf t filter).map (.count t.entity.table)
  | .update filter assigned =>
    if assigned.isEmpty then
      .error (.unconditional s!"update on '{t.entity.name}' has no assignments")
    else
      (t.filterOf filter).map fun filter => .update t.entity.table filter (members assigned)
  | .delete filter => (t.filterOf filter).map (.delete t.entity.table)
  | .insert values => .ok (.insert t.entity.table (members values))

end Command

namespace Plan

/-- The statement of a plan under the dialect of its table. -/
def compile (t : Table) (p : Plan) : Except Error Statement :=
  match t.dialect with
  | .sql d => (d.planTokens t p).map fun (ts, ps) => .sql ⟨d.spell ts, ps⟩
  | .document => (Command.ofPlan t p).map .document

end Plan

end Sift
