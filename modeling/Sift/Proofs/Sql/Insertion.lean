import Sift.Declaration.Mapping
import Sift.Proofs.Sql.Replacement

/-!
# What an insertion stores

A row travels to its insertion through a record, which has each column once. A field is therefore
stored with its own value as long as no other field has its column. Of several fields of one column
the first is stored with the value of the last, and the others with null; the check of a mapping
lets them pass, since it looks at properties and not at columns.
-/
namespace Sift

/-! ## What is left of some cells -/

/-- The values that are stored for some cells, `seen` being the columns before them. Where a column
first occurs it has the last of its values; where it occurs again there is none left. -/
def storedValues (seen : List String) : List (String × Value) → List Value
  | [] => []
  | (c, v) :: rest =>
    (if c ∈ seen then .null else (rest.reverse.lookup c).getD v) :: storedValues (c :: seen) rest

namespace Table

/-- Taking columns out of a record that has each of them from the last of its cells, except those
that have been taken out before. -/
theorem takeValues_eq_storedValues {fs : List Field} {cells : List (String × Value)}
    (hcells : cells.map Prod.fst = fs.map Field.column) {seen : List String} {r : Record}
    (hr : (r.columns.map Prod.fst).Nodup)
    (hget : ∀ d, d ∉ seen → r.get? d = cells.reverse.lookup d)
    (hseen : ∀ d ∈ seen, r.get? d = none) :
    takeValues fs r = storedValues seen cells := by
  induction fs generalizing cells seen r with
  | nil =>
    obtain rfl := List.map_eq_nil_iff.1 hcells
    rfl
  | cons f fs ih =>
    cases cells with
    | nil => cases hcells
    | cons cell rest =>
      obtain ⟨c, v⟩ := cell
      obtain ⟨rfl, hrest⟩ := List.cons.inj hcells
      have hlookup : ∀ d, ((f.column, v) :: rest).reverse.lookup d =
          (rest.reverse.lookup d).or ([(f.column, v)].lookup d) := by
        intro d
        rw [List.reverse_cons, List.lookup_append]
      have herase := Record.get?_erase hr f.column
      rw [takeValues, storedValues]
      congr 1
      · by_cases hc : f.column ∈ seen
        · rw [if_pos hc, hseen _ hc]
          rfl
        · have hown : [(f.column, v)].lookup f.column = some v := List.lookup_cons_self
          rw [if_neg hc, hget _ hc, hlookup, hown, Option.getD_or]
          rfl
      · -- the column is gone now, and the cell that stood for it with it
        refine ih hrest ((Record.eraseIn_sublist _ _).map Prod.fst |>.nodup hr) ?_ ?_
        · intro d hd
          obtain ⟨hne, hd⟩ := not_or.1 (mt List.mem_cons.2 hd)
          have hother : [(f.column, v)].lookup d = none := by
            rw [List.lookup_cons, beq_eq_false_iff_ne.2 hne]
            rfl
          rw [herase, if_neg hne, hget d hd, hlookup, hother, Option.or_none]
        · intro d hd
          rw [herase]
          by_cases hne : d = f.column
          · exact if_pos hne
          · rw [if_neg hne]
            exact hseen d ((List.mem_cons.1 hd).resolve_left hne)

/-- The values of the fields of a row when they are taken out of its record. -/
theorem takeValues_toRecord {fs : List Field} (r : Row fs) :
    takeValues fs r.toRecord = storedValues [] r.cells := by
  refine takeValues_eq_storedValues r.map_fst_cells (Record.nodup_columns_ofList r.cells) ?_ ?_
  · intro d _
    exact Record.get?_ofList r.cells d
  · intro d hd
    cases hd

end Table

/-! ## When nothing is lost -/

/-- Values that are not null and all stored as they are have different columns. -/
theorem nodup_of_storedValues_eq {seen : List String} {cells : List (String × Value)}
    (hfilled : ∀ cell ∈ cells, cell.2 ≠ .null)
    (hkept : storedValues seen cells = cells.map Prod.snd) :
    (cells.map Prod.fst).Nodup ∧ ∀ c ∈ cells.map Prod.fst, c ∉ seen := by
  induction cells generalizing seen with
  | nil => exact ⟨List.nodup_nil, fun c hc => nomatch hc⟩
  | cons cell rest ih =>
    obtain ⟨c, v⟩ := cell
    obtain ⟨hv, hrest⟩ := List.cons.inj hkept
    obtain ⟨hnodup, hapart⟩ :=
      ih (fun cell hcell => hfilled cell (List.mem_cons_of_mem _ hcell)) hrest
    have hc : c ∉ seen := by
      intro hc
      rw [if_pos hc] at hv
      exact hfilled (c, v) (List.mem_cons_self ..) hv.symm
    constructor
    · exact List.nodup_cons.2 ⟨fun hmem => hapart c hmem (List.mem_cons_self ..), hnodup⟩
    · intro d hd hmem
      rcases List.mem_cons.1 hd with rfl | hd
      · exact hc hmem
      · exact hapart d hd (List.mem_cons_of_mem c hmem)

/-- Every type of field has something to store. -/
theorem FieldType.exists_write_ne_null (t : FieldType) : ∃ x, t.write x ≠ .null := by
  have hscalar : ∀ s : Scalar, s.write s.default ≠ .null := by
    intro s
    cases s <;> nofun
  obtain ⟨s, optional⟩ := t
  cases optional with
  | true => exact ⟨some s.default, hscalar s⟩
  | false => exact ⟨s.default, hscalar s⟩

/-- There is a row without nulls. -/
theorem Row.exists_filled (fs : List Field) : ∃ r : Row fs, ∀ cell ∈ r.cells, cell.2 ≠ .null := by
  induction fs with
  | nil => exact ⟨.nil, fun cell hcell => nomatch hcell⟩
  | cons f fs ih =>
    obtain ⟨x, hx⟩ := f.type.exists_write_ne_null
    obtain ⟨rest, hrest⟩ := ih
    refine ⟨.cons x rest, fun cell hcell => ?_⟩
    rcases List.mem_cons.1 hcell with rfl | hcell
    · exact hx
    · exact hrest cell hcell

namespace Table

variable {d : SqlDialect} {t : Table} {e : Entity}

/-- An insertion stores what is left of the cells of its row. -/
theorem exists_insertStatement (ht : Table.ofEntity e (.sql d) = .ok t) (r : Row e.fields) :
    ∃ st, t.insertStatement r.toRecord = .ok (.sql st) ∧
      d.readCommand st =
        some (.insert e.table (e.fields.map Field.column) (storedValues [] r.cells)) := by
  obtain ⟨rfl, hd⟩ := Table.eq_of_ofEntity ht
  have hlength : (t.fields.map Field.column).length = (storedValues [] r.cells).length := by
    rw [← takeValues_toRecord, length_takeValues, List.length_map]
    rfl
  have hcells : ((t.fields.map Field.column).zip (storedValues [] r.cells)).map Prod.fst =
      t.fields.map Field.column := List.map_fst_zip (Nat.le_of_eq hlength)
  have hvalues : ((t.fields.map Field.column).zip (storedValues [] r.cells)).map Prod.snd =
      storedValues [] r.cells := List.map_snd_zip (Nat.le_of_eq hlength.symm)
  obtain ⟨st, hst, hread⟩ := exists_insert_of_cells hd hcells
  rw [hvalues] at hst hread
  rw [hcells] at hread
  refine ⟨st, ?_, hread⟩
  rw [insertStatement, fieldValues, ← hst, ← takeValues_toRecord]
  rfl

/-- Every row is stored as it is if and only if no two fields have the same column. -/
theorem storedValues_cells_iff (fs : List Field) :
    (∀ r : Row fs, storedValues [] r.cells = r.cells.map Prod.snd) ↔
      (fs.map Field.column).Nodup := by
  constructor
  · intro hkept
    obtain ⟨r, hfilled⟩ := Row.exists_filled fs
    rw [← r.map_fst_cells]
    exact (nodup_of_storedValues_eq hfilled (hkept r)).1
  · intro hcolumns r
    rw [← takeValues_toRecord, r.toRecord_eq hcolumns, r.takeValues_cells]

/-- An insertion stores one value for each field in declaration order. It is the field's own value,
whatever the row is, if and only if no two fields have the same column. -/
theorem read_insertStatement (ht : Table.ofEntity e (.sql d) = .ok t) :
    (∀ r : Row e.fields, ∃ st, t.insertStatement r.toRecord = .ok (.sql st) ∧
      d.readCommand st =
        some (.insert e.table (e.fields.map Field.column) (storedValues [] r.cells))) ∧
    ((∀ r : Row e.fields, storedValues [] r.cells = r.cells.map Prod.snd) ↔
      (e.fields.map Field.column).Nodup) :=
  ⟨exists_insertStatement ht, storedValues_cells_iff e.fields⟩

theorem read_insertStatement_pickyPerson : ∃ st,
    (Table.people (.sql .mySql)).insertStatement (pickyPerson (.sql .mySql)).toRecord =
        .ok (.sql st) ∧
      SqlDialect.mySql.readCommand st = some (.insert "people" ["id", "na\"m\x60e] = $1", "age"]
        [.text "p1", .text "O'Neil", .null]) := by
  have htable : Table.ofEntity (Table.people (.sql .mySql)).entity (.sql .mySql) =
      .ok (.people (.sql .mySql)) := rfl
  obtain ⟨hread, hkept⟩ := read_insertStatement htable
  obtain ⟨st, hst, hcommand⟩ := hread (pickyPerson (.sql .mySql))
  rw [hkept.2 (by decide)] at hcommand
  exact ⟨st, hst, hcommand⟩

end Table

/-! ## Two fields of one column -/

namespace Declaration

/-- An attribute that gives a column. -/
def textColumn : Attribute :=
  ⟨⟨false, [("orm", false)]⟩, .arguments
    [.word "column", .mark '=' false, .literal "\"txt\"" (.text "txt")]⟩

/-- A note whose two texts are declared for one column. -/
def note : Declaration FieldType where
  shape := .named
  name := "Note"
  isGeneric := false
  attributes := []
  fields := [⟨"id", ⟨.int64, false⟩, []⟩, ⟨"title", ⟨.text, false⟩, [textColumn]⟩,
    ⟨"body", ⟨.text, false⟩, [textColumn]⟩]

/-- The mapping of a note. -/
def noteMapping : Mapping FieldType where
  name := "Note"
  table := "note"
  mapped := [⟨"id", "id", true, ⟨.int64, false⟩⟩, ⟨"title", "txt", false, ⟨.text, false⟩⟩,
    ⟨"body", "txt", false, ⟨.text, false⟩⟩]
  skipped := []

theorem mapping_note : note.mapping = .ok noteMapping := by
  have hcolumn : FieldOption.ofAttributes [textColumn] = .ok [.column "txt"] := by
    have hread : FieldOption.readAll
        [.word "column", .mark '=' false, .literal "\"txt\"" (.text "txt")] =
          .ok [.column "txt"] := by
      rw [FieldOption.readAll]
      rfl
    change (FieldOption.readAll _).bind _ = _
    rw [hread]
    rfl
  have hplacement : ∀ name : String,
      (⟨name, ⟨.text, false⟩, [textColumn]⟩ : DeclaredField FieldType).placement =
        .ok (.mapped ⟨name, "txt", false, ⟨.text, false⟩⟩) := by
    intro name
    rw [DeclaredField.placement, hcolumn]
    rfl
  have hplacements : note.fields.mapM DeclaredField.placement =
      .ok [.mapped ⟨"id", "id", false, ⟨.int64, false⟩⟩,
        .mapped ⟨"title", "txt", false, ⟨.text, false⟩⟩,
        .mapped ⟨"body", "txt", false, ⟨.text, false⟩⟩] := by
    rw [note, List.mapM_cons, List.mapM_cons, List.mapM_cons, hplacement, hplacement]
    rfl
  have hname : Text.SnakeCase.ofName "Note" = "note" := by decide
  have hmapping : note.mapping = (note.fields.mapM DeclaredField.placement).map fun placements =>
      ⟨"Note", Text.SnakeCase.ofName "Note",
        inferKey (placements.filterMap Placement.mapped?),
        placements.filterMap Placement.skipped?⟩ := by
    cases h : note.fields.mapM DeclaredField.placement <;> simp [mapping, h] <;> rfl
  rw [hmapping, hplacements, hname]
  rfl

/-- The mapping of a declared note is sound and loses the title: the body is stored in its place,
and null for the body. -/
theorem read_insertStatement_note : note.mapping = .ok noteMapping ∧
    ∃ t, Table.ofEntity noteMapping.toEntity (.sql .postgres) = .ok t ∧
    ∃ r : Row noteMapping.toEntity.fields,
      r.cells = [("id", .int 1), ("txt", .text "the title"), ("txt", .text "the body")] ∧
      ∃ st, t.insertStatement r.toRecord = .ok (.sql st) ∧
        SqlDialect.postgres.readCommand st = some (.insert "note" ["id", "txt", "txt"]
          [.int 1, .text "the body", .null]) := by
  obtain ⟨t, ht⟩ : ∃ t, Table.ofEntity noteMapping.toEntity (.sql .postgres) = .ok t := ⟨_, rfl⟩
  let r : Row noteMapping.toEntity.fields :=
    .cons (1 : Int64) (.cons "the title" (.cons "the body" .nil))
  obtain ⟨st, hst, hread⟩ := Table.exists_insertStatement ht r
  exact ⟨mapping_note, t, ht, r, rfl, st, hst, hread⟩

end Declaration

end Sift
