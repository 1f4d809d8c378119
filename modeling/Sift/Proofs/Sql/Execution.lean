import Sift.Proofs.Acceptance
import Sift.Proofs.Record
import Sift.Proofs.Sql.Evaluation

/-!
# Statements run by a relational store

A store holds rows by table, in an order; a row has a value for every column, and null where nothing
was stored. `SqlCommand.run` is what a statement does to the rows once it has been read: it removes
or changes the rows that its filter holds for, or adds one at the end. A row for which nothing can
be said is not met by a filter. `SqlDialect.runAll` reads and runs statements one after the other.
-/
namespace Sift

/-- The rows of each table. -/
abbrev Database := String → List (String → Value)

/-- Put other rows in the place of those of a table. -/
def Database.replace (db : Database) (table : String) (rows : List (String → Value)) : Database :=
  fun other => if other = table then rows else db other

@[simp] theorem Database.replace_same (db : Database) (table : String)
    (rows : List (String → Value)) : db.replace table rows table = rows := by
  simp [Database.replace]

@[simp] theorem Database.replace_of_ne (db : Database) {table other : String}
    (rows : List (String → Value)) (h : other ≠ table) :
    db.replace table rows other = db other := by
  simp [Database.replace, h]

namespace SqlCommand

/-- The row with some values under some columns and with null everywhere else. -/
def newRow (columns : List String) (values : List Value) : String → Value :=
  fun column => ((columns.zip values).lookup column).getD .null

/-- The row with some of its values changed. -/
def changedRow (assigned : List (String × Value)) (row : String → Value) : String → Value :=
  fun column => (assigned.lookup column).getD (row column)

section Run

variable (d : SqlDialect) (cmp : Comparison)

/-- Whether a filter holds for a row; all rows are met where there is none. -/
def meets (filter : Option SqlExpr) (row : String → Value) : Bool :=
  filter.all fun e => (e.truth d cmp row).isYes

/-- The rows after a statement; a query leaves them as they are. -/
def run (db : Database) : SqlCommand → Database
  | select .. | count .. => db
  | update table assigned filter => db.replace table ((db table).map fun row =>
    if meets d cmp filter row then changedRow assigned row else row)
  | delete table filter => db.replace table ((db table).filter fun row => !meets d cmp filter row)
  | insert table columns values => db.replace table (db table ++ [newRow columns values])

end Run

/-- The table that a statement is about. -/
def table : SqlCommand → String
  | select _ table _ _ | count table _ => table
  | update table _ _ | delete table _ | insert table _ _ => table

/-- A statement leaves all other tables as they are. -/
theorem run_of_ne (d : SqlDialect) (cmp : Comparison) (db : Database) {cmd : SqlCommand}
    {other : String} (h : other ≠ cmd.table) : cmd.run d cmp db other = db other := by
  cases cmd with
  | select => rfl
  | count => rfl
  | update table assigned filter => exact db.replace_of_ne _ h
  | delete table filter => exact db.replace_of_ne _ h
  | insert table columns values => exact db.replace_of_ne _ h

theorem run_delete_same (d : SqlDialect) (cmp : Comparison) (db : Database) (table : String)
    (filter : Option SqlExpr) :
    (delete table filter).run d cmp db table =
      (db table).filter fun row => !meets d cmp filter row :=
  db.replace_same table _

theorem run_insert_same (d : SqlDialect) (cmp : Comparison) (db : Database) (table : String)
    (columns : List String) (values : List Value) :
    (insert table columns values).run d cmp db table = db table ++ [newRow columns values] :=
  db.replace_same table _

/-- A row that was changed has each value under its column, if no column is assigned twice. -/
theorem changedRow_of_mem {assigned : List (String × Value)}
    (hnodup : (assigned.map Prod.fst).Nodup) (row : String → Value) {column : String} {v : Value}
    (h : (column, v) ∈ assigned) : changedRow assigned row column = v := by
  rw [changedRow, Record.lookup_of_nodup hnodup h, Option.getD_some]

/-- What is not assigned stays as it is. -/
theorem changedRow_of_notMem {assigned : List (String × Value)} (row : String → Value)
    {column : String} (h : column ∉ assigned.map Prod.fst) :
    changedRow assigned row column = row column := by
  rw [changedRow, Record.lookup_eq_none h, Option.getD_none]

/-- A row that was added has each value under its column, if no column is named twice. -/
theorem newRow_of_mem {columns : List String} {values : List Value} (hnodup : columns.Nodup)
    {column : String} {v : Value} (h : (column, v) ∈ columns.zip values) :
    newRow columns values column = v := by
  suffices hlookup : (columns.zip values).lookup column = some v by
    simp [newRow, hlookup]
  induction columns generalizing values with
  | nil => cases h
  | cons c columns ih =>
    cases values with
    | nil => cases h
    | cons w values =>
      obtain ⟨hc, hrest⟩ := List.nodup_cons.1 hnodup
      rw [List.zip_cons_cons] at h ⊢
      rcases List.mem_cons.1 h with heq | hmem
      · cases heq
        simp
      · have hne : column ≠ c := by
          rintro rfl
          exact hc (List.of_mem_zip hmem).1
        rw [List.lookup_cons, beq_eq_false_iff_ne.2 hne]
        exact ih hrest hmem

end SqlCommand

/-- Read and run statements one after the other; there is no result if one of them is not read. -/
def SqlDialect.runAll (d : SqlDialect) (cmp : Comparison) (db : Database) :
    List SqlStatement → Option Database
  | [] => some db
  | st :: rest => do
    let cmd ← d.readCommand st
    d.runAll cmp (cmd.run d cmp db) rest

@[simp] theorem SqlDialect.runAll_nil (d : SqlDialect) (cmp : Comparison) (db : Database) :
    d.runAll cmp db [] = some db := rfl

theorem SqlDialect.runAll_cons {d : SqlDialect} {st : SqlStatement} {cmd : SqlCommand}
    (h : d.readCommand st = some cmd) (cmp : Comparison) (db : Database)
    (rest : List SqlStatement) :
    d.runAll cmp db (st :: rest) = d.runAll cmp (cmd.run d cmp db) rest := by
  rw [SqlDialect.runAll, h]
  rfl

end Sift
