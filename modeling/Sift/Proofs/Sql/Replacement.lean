import Sift.Builder.Store
import Sift.Proofs.Record
import Sift.Proofs.Sql.Execution

/-!
# Saving replaces the row of a key

An entity is saved by two statements, a deletion by its key and an insertion. The values travel from
the row of the entity through its record, from which they are taken again column by column, so that
each field gets its own value as long as no column is used twice. The key of the deletion is then
the key of the insertion: the rows that had it are gone and one row with it has come.
-/
namespace Sift

/-! ## From a row to the values of its fields -/

namespace Row

/-- Taking the columns out of the cells one by one gives the values. -/
theorem takeValues_cells {fs : List Field} (r : Row fs) :
    Table.takeValues fs ⟨r.cells⟩ = r.cells.map Prod.snd := by
  induction r with
  | nil => rfl
  | @cons f fs x rest ih =>
    have hget : (⟨cells (.cons x rest)⟩ : Record).get? f.column = some (f.type.write x) := by
      simp [Record.get?]
    have herase : (⟨cells (.cons x rest)⟩ : Record).erase f.column = ⟨rest.cells⟩ := by
      simp [Record.erase, Record.eraseIn]
    rw [Table.takeValues, hget, herase, ih]
    rfl

end Row

namespace Table

variable {t : Table}

/-- Each field gets its own value if no column is used twice. -/
theorem fieldValues_toRecord (hcolumns : (t.fields.map Field.column).Nodup) (r : Row t.fields) :
    t.fieldValues r.toRecord = t.fields.zip (r.cells.map Prod.snd) := by
  rw [fieldValues, r.toRecord_eq hcolumns, r.takeValues_cells]

/-- The value of the key is that of the key's field. -/
theorem key_keyValue_mem {values : List (Field × Value)} (h : values.map Prod.fst = t.fields) :
    (t.key, keyValue values) ∈ values := by
  have hfields : ∀ fv ∈ values, fv.1 ∈ t.fields := by
    intro fv hfv
    rw [← h]
    exact List.mem_map_of_mem hfv
  unfold keyValue
  split
  · rename_i f v hfound
    have hmem := List.mem_of_find?_eq_some hfound
    have hkey : f.isKey = true := by simpa using List.find?_some hfound
    rw [← t.eq_key_of_isKey (hfields _ hmem) hkey]
    exact hmem
  · rename_i hfound
    have hkey : t.key ∈ values.map Prod.fst := by
      rw [h]
      exact t.key_mem
    obtain ⟨fv, hfv, hfst⟩ := List.mem_map.1 hkey
    have hnot := List.find?_eq_none.1 hfound fv hfv
    rw [hfst, t.isKey_key] at hnot
    exact absurd rfl hnot

end Table

/-! ## The two statements -/

/-- One row of a table has taken the place of the rows with a key: those whose key is null or
another are still there in their order, the row with the given cells stands behind them, and no
other table has changed. -/
structure Database.Replaced (cmp : Comparison) (table keyColumn : String) (key : Value)
    (cells : List (String × Value)) (before after : Database) : Prop where
  rows : ∃ added, after table = (before table).filter (fun row =>
      (row keyColumn).isNull || !cmp.test .eq (row keyColumn) key) ++ [added] ∧
    ∀ cell ∈ cells, added cell.1 = cell.2
  others : ∀ other, other ≠ table → after other = before other

/-- Deleting the rows of a key and inserting some cells. -/
theorem SqlCommand.replaced_run (d : SqlDialect) (cmp : Comparison) (db : Database) (table : String)
    {keyColumn : String} {key : Value} (hkey : key.isNull = false) {cells : List (String × Value)}
    (hcells : (cells.map Prod.fst).Nodup) :
    Database.Replaced cmp table keyColumn key cells db
      ((insert table (cells.map Prod.fst) (cells.map Prod.snd)).run d cmp
        ((delete table (some (.compare keyColumn .eq key))).run d cmp db)) := by
  constructor
  · refine ⟨newRow (cells.map Prod.fst) (cells.map Prod.snd), ?_, ?_⟩
    · rw [run_insert_same, run_delete_same]
      congr 1
      apply List.filter_congr
      intro row _
      -- a row is met unless its key is null, of which nothing can be said, or is another
      cases hnull : (row keyColumn).isNull with
      | true => simp [meets, SqlExpr.truth, cmp.truth_of_isNull .eq hnull]
      | false => simp [meets, SqlExpr.truth, cmp.truth_of_isNull_eq_false .eq hnull hkey]
    · intro cell hcell
      apply newRow_of_mem hcells
      rw [← List.zip_of_prod rfl rfl]
      exact hcell
  · intro other hother
    rw [run_of_ne d cmp _ hother, run_of_ne d cmp db hother]

/-- A comparison of a mapped field with a constant that is not null. -/
theorem Condition.ofPredicate_compare {t : Table} {f : Field} (hf : f ∈ t.fields) (op : Comparator)
    {v : Value} (hv : v.isNull = false) :
    Condition.ofPredicate t (.compare op f.property v) =
      .ok (.clause (.compare f op v (Clause.compareGuard op))) := by
  refine Condition.ofPredicate_comparison.2 ⟨f.property, op, v, f, rfl, Table.field?_of_mem hf, ?_⟩
  rw [Clause.ofComparison_of_isNull_eq_false f op hv]

namespace Table

variable {d : SqlDialect} {t : Table}

/-- The deletion of a save. -/
theorem exists_delete_of_key (hd : t.dialect = .sql d) {key : Value} (hkey : key.isNull = false) :
    ∃ st, Plan.compile t (.delete (.compare .eq t.key.property key)) = .ok (.sql st) ∧
      d.readCommand st = some (.delete t.entity.table (some (.compare t.key.column .eq key))) := by
  have hfilter : Condition.ofFilter t (some (.compare .eq t.key.property key)) =
      .ok (some (.clause (.compare t.key .eq key .none))) := by
    rw [Condition.ofFilter, Condition.ofPredicate_compare t.key_mem .eq hkey]
    rfl
  obtain ⟨s, hs, hsays⟩ :=
    Plan.exists_compile (p := .delete (.compare .eq t.key.property key)) trivial hfilter
  rw [hd] at hsays
  cases hsays with
  | sql hread => exact ⟨_, hs, hread⟩

/-- The insertion of a save. -/
theorem exists_insert_of_cells (hd : t.dialect = .sql d)
    {cells : List (String × Value)} (hcells : cells.map Prod.fst = t.fields.map Field.column) :
    ∃ st, Plan.compile t (.insert (t.fields.zip (cells.map Prod.snd))) = .ok (.sql st) ∧
      d.readCommand st =
        some (.insert t.entity.table (cells.map Prod.fst) (cells.map Prod.snd)) := by
  have hlength : t.fields.length = (cells.map Prod.snd).length := by
    simpa using (congrArg List.length hcells).symm
  have hcomplete : (Plan.insert (t.fields.zip (cells.map Prod.snd))).Complete := by
    intro hnil
    have hfields := congrArg (List.map Prod.fst) hnil
    rw [List.map_fst_zip (Nat.le_of_eq hlength)] at hfields
    exact t.fields_ne_nil hfields
  obtain ⟨s, hs, hsays⟩ := Plan.exists_compile (t := t) (c := none) hcomplete rfl
  rw [hd] at hsays
  cases hsays with
  | sql hread =>
    refine ⟨_, hs, ?_⟩
    rw [hread, Plan.command, List.map_snd_zip (Nat.le_of_eq hlength.symm), hcells]
    congr 2
    have hcolumns : (t.fields.zip (cells.map Prod.snd)).map (fun fv => fv.1.column) =
        ((t.fields.zip (cells.map Prod.snd)).map Prod.fst).map Field.column := by
      rw [List.map_map]
      rfl
    exact hcolumns.trans (by rw [List.map_fst_zip (Nat.le_of_eq hlength)])

/-- The key that is looked for is the one that is stored. -/
theorem keyValue_mem_cells (hcolumns : (t.fields.map Field.column).Nodup) (r : Row t.fields) :
    (t.key.column, keyValue (t.fieldValues r.toRecord)) ∈ r.cells := by
  have hvalues := t.fieldValues_toRecord hcolumns r
  have hfst : (t.fieldValues r.toRecord).map Prod.fst = t.fields := by
    rw [hvalues]
    apply List.map_fst_zip
    have hlength := congrArg List.length r.map_fst_cells
    simp only [List.length_map] at hlength ⊢
    exact Nat.le_of_eq hlength.symm
  have hmem := t.key_keyValue_mem hfst
  have hcells : r.cells = (t.fields.map Field.column).zip (r.cells.map Prod.snd) :=
    List.zip_of_prod r.map_fst_cells rfl
  rw [hcells, List.zip_map_left, ← hvalues]
  exact List.mem_map.2 ⟨(t.key, keyValue (t.fieldValues r.toRecord)), hmem, rfl⟩

/-- Saving an entity whose key is null is refused. Otherwise it is a deletion and an insertion for
the same key, and running them replaces the rows of the key by the row of the entity, whatever is
stored and however the store compares its values. -/
theorem runAll_saveStatements {e : Entity} (ht : Table.ofEntity e (.sql d) = .ok t)
    (hcolumns : (e.fields.map Field.column).Nodup) (r : Row e.fields) :
    ∃ key, (t.key.column, key) ∈ r.cells ∧
      (key.isNull = true → ∃ m, t.saveStatements r.toRecord = .error (.unconditional m)) ∧
      (key.isNull = false → ∃ delete insert,
        t.saveStatements r.toRecord = .ok [.sql delete, .sql insert] ∧
        d.readCommand delete =
          some (.delete e.table (some (.compare t.key.column .eq key))) ∧
        d.readCommand insert =
          some (.insert e.table (r.cells.map Prod.fst) (r.cells.map Prod.snd)) ∧
        ∀ (cmp : Comparison) (db : Database), ∃ db',
          d.runAll cmp db [delete, insert] = some db' ∧
          Database.Replaced cmp e.table t.key.column key r.cells db db') := by
  obtain ⟨rfl, hd⟩ := Table.eq_of_ofEntity ht
  refine ⟨keyValue (t.fieldValues r.toRecord), t.keyValue_mem_cells hcolumns r, ?_, ?_⟩
  · intro hnull
    rw [saveStatements]
    exact ⟨_, if_pos hnull⟩
  · intro hnull
    obtain ⟨delete, hdelete, hreadDelete⟩ := t.exists_delete_of_key hd hnull
    obtain ⟨insert, hinsert, hreadInsert⟩ := t.exists_insert_of_cells hd r.map_fst_cells
    have hvalues : t.fieldValues r.toRecord = t.fields.zip (r.cells.map Prod.snd) :=
      t.fieldValues_toRecord hcolumns r
    rw [← hvalues] at hinsert
    refine ⟨delete, insert, ?_, hreadDelete, hreadInsert, ?_⟩
    · rw [saveStatements, if_neg (by simp [hnull]), hdelete, hinsert]
      rfl
    · intro cmp db
      refine ⟨_, ?_, SqlCommand.replaced_run d cmp db t.entity.table hnull ?_⟩
      · rw [SqlDialect.runAll_cons hreadDelete, SqlDialect.runAll_cons hreadInsert,
          SqlDialect.runAll_nil]
      · rw [r.map_fst_cells]
        exact hcolumns

/-- Someone with a name that needs quotes and of unknown age. -/
def pickyPerson (d : Dialect) : Row (Table.people d).entity.fields :=
  .cons "p1" (.cons (some "O'Neil") (.cons none .nil))

theorem runAll_saveStatements_pickyPerson : ∃ delete insert,
    (Table.people (.sql .mySql)).saveStatements (pickyPerson (.sql .mySql)).toRecord =
        .ok [.sql delete, .sql insert] ∧
      ∀ (cmp : Comparison) (db : Database), ∃ db',
        SqlDialect.mySql.runAll cmp db [delete, insert] = some db' ∧
          Database.Replaced cmp "people" "id" (.text "p1") (pickyPerson (.sql .mySql)).cells
            db db' := by
  have htable : Table.ofEntity (Table.people (.sql .mySql)).entity (.sql .mySql) =
      .ok (.people (.sql .mySql)) := rfl
  have hcolumns : ((Table.people (.sql .mySql)).entity.fields.map Field.column).Nodup := by decide
  obtain ⟨key, hmem, -, hsaved⟩ :=
    runAll_saveStatements htable hcolumns (pickyPerson (.sql .mySql))
  obtain rfl : key = .text "p1" := by
    have hcells : (pickyPerson (.sql .mySql)).cells =
        [("id", .text "p1"), ("na\"m\x60e] = $1", .text "O'Neil"), ("age", .null)] := rfl
    rw [hcells] at hmem
    simpa [Table.people] using hmem
  obtain ⟨delete, insert, hok, -, -, hrun⟩ := hsaved rfl
  exact ⟨delete, insert, hok, hrun⟩

end Table

end Sift
