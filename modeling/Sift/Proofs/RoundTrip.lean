import Sift.Declaration.Instance
import Sift.Proofs.Binary
import Sift.Proofs.Outcome
import Sift.Proofs.Record

/-!
# Values come back from their records

What a field holds is written as a value and read from it again: `FieldType.read_write`. A row is
read by taking its columns out of a record one by one, so that of the cells of the record only those
count that are in columns of the row, and their order does not: `Row.ofRecord_eq_ok_iff`. A record
in which some columns of a row are missing, as after a projection, gives the row with the defaults
of its types in their place; one with all of them gives the row itself. The one thing that does not
come back is a signalling NaN in single precision. A value of a mapped type is its row and what its
skipped fields hold: `Instance.ofRecord_toRecord`.
-/
namespace Sift

/-! ## Fields -/

namespace Scalar

/-- A scalar is no signalling NaN in single precision, which would come back quiet. -/
def Quiet : (s : Scalar) → s.Carrier → Prop
  | float32, x => x.isSignaling = false
  | _, _ => True

theorem write_ne_null (s : Scalar) (x : s.Carrier) : s.write x ≠ .null := by
  cases s <;> simp [write]

theorem readInt_int (s : Scalar) {low high : Int} {n : Int64} (hlow : low ≤ n.toInt)
    (hhigh : n.toInt ≤ high) : readInt s low high (.int n) = .ok n.toInt :=
  if_pos ⟨hlow, hhigh⟩

/-- A scalar is read from the value that it is written as. The integers are, because what they are
widened to lies between the bounds that it is then read between. -/
theorem read_write (s : Scalar) {x : s.Carrier} (h : s.Quiet x) : s.read (s.write x) = .ok x := by
  cases s with
  | int16 =>
    have hlow : -32768 ≤ x.toInt := x.le_toInt
    have hhigh : x.toInt < 32768 := x.toInt_lt
    have hsame : x.toInt64.toInt = x.toInt := x.toInt_toInt64
    rw [write, read, readInt_int int16 (by omega) (by omega), hsame]
    simp [Except.map]
  | int32 =>
    have hlow : -2147483648 ≤ x.toInt := x.le_toInt
    have hhigh : x.toInt < 2147483648 := x.toInt_lt
    have hsame : x.toInt64.toInt = x.toInt := x.toInt_toInt64
    rw [write, read, readInt_int int32 (by omega) (by omega), hsame]
    simp [Except.map]
  | int64 =>
    have hlow : -9223372036854775808 ≤ x.toInt := x.le_toInt
    have hhigh : x.toInt < 9223372036854775808 := x.toInt_lt
    rw [write, read, readInt_int int64 hlow (by omega)]
    simp [Except.map]
  | uint32 =>
    have hhigh : x.toNat < 4294967296 := x.toNat_lt
    have hsame : (Int64.ofNat x.toNat).toInt = x.toNat := Int64.toInt_ofNat_of_lt (by omega)
    rw [write, read, readInt_int uint32 (by omega) (by omega), hsame]
    simp [Except.map]
  | float32 =>
    have hsame : x.toDouble.toSingle = x := x.toSingle_toDouble_iff.2 h
    rw [write, read, readDouble, Except.map, hsame]
  | bool => rfl
  | float64 => rfl
  | text => rfl
  | bytes => rfl
  | uuid => rfl
  | timestamp => rfl
  | json => rfl

end Scalar

namespace FieldType

/-- What a field holds is no signalling NaN in single precision. -/
def Quiet : (t : FieldType) → t.Carrier → Prop
  | ⟨s, true⟩, some x => s.Quiet x
  | ⟨_, true⟩, none => True
  | ⟨s, false⟩, x => s.Quiet x

theorem read_of_ne_null {s : Scalar} {v : Value} (h : v ≠ .null) :
    read ⟨s, true⟩ v = (s.read v).map some := by
  cases v with
  | null => exact absurd rfl h
  | _ => rfl

/-- A field is read from the value that it is written as. That it holds nothing is told apart from
whatever it can hold, the null of JSON included, because only nothing is written as null. -/
theorem read_write (t : FieldType) {x : t.Carrier} (h : t.Quiet x) :
    t.read (t.write x) = .ok x := by
  obtain ⟨s, optional⟩ := t
  cases optional with
  | false => exact s.read_write h
  | true =>
    cases x with
    | none => rfl
    | some x =>
      rw [write, read_of_ne_null (s.write_ne_null x), s.read_write h]
      rfl

end FieldType

/-! ## Rows -/

namespace Row

/-- No field holds a signalling NaN in single precision. -/
def Quiet : {fs : List Field} → Row fs → Prop
  | [], .nil => True
  | f :: _, .cons x rest => f.type.Quiet x ∧ rest.Quiet

/-- A row with the default of its type in each field whose column is not among some. -/
def keep (columns : List String) : {fs : List Field} → Row fs → Row fs
  | [], .nil => .nil
  | f :: _, .cons x rest =>
    .cons (if f.column ∈ columns then x else f.type.default) (rest.keep columns)

theorem keep_all {columns : List String} {fs : List Field} (row : Row fs)
    (h : ∀ f ∈ fs, f.column ∈ columns) : row.keep columns = row := by
  induction row with
  | nil => rfl
  | @cons f fs x rest ih =>
    rw [keep, if_pos (h f (List.mem_cons_self ..)), ih fun g hg => h g (List.mem_cons_of_mem _ hg)]

variable {columns : List String} {fs : List Field} {row : Row fs} {r : Record}

/-- A record has those cells of a row whose columns are among some, and lacks its other columns. -/
def Projected (columns : List String) {fs : List Field} (row : Row fs) (r : Record) : Prop :=
  ∀ cell ∈ row.cells, r.get? cell.1 = if cell.1 ∈ columns then some cell.2 else none

/-- Each field of a row is read from its column of a record, and has the default of its type where
the record lacks the column. -/
def ReadFrom (r : Record) : {fs : List Field} → Row fs → Prop
  | [], .nil => True
  | f :: _, .cons x rest =>
    (match r.get? f.column with
      | none => x = f.type.default
      | some v => f.type.read v = .ok x) ∧ rest.ReadFrom r

theorem readFrom_congr {r' : Record} (hget : ∀ c ∈ fs.map Field.column, r'.get? c = r.get? c) :
    row.ReadFrom r' ↔ row.ReadFrom r := by
  induction row with
  | nil => exact Iff.rfl
  | @cons f fs x rest ih =>
    rw [List.map_cons, List.forall_mem_cons] at hget
    rw [ReadFrom, ReadFrom, hget.1, ih hget.2]

/-- What a field is read as depends on its column alone, and taking it out leaves the columns of the
fields behind it. -/
theorem ofRecord_eq_ok_iff (hcolumns : (fs.map Field.column).Nodup) :
    ofRecord fs r = .ok row ↔ row.ReadFrom r := by
  induction row generalizing r with
  | nil => exact iff_of_true rfl trivial
  | @cons f fs x rest ih =>
    obtain ⟨hfresh, hcolumns⟩ := List.nodup_cons.1 hcolumns
    have hcons (y : f.type.Carrier) (r' : Record) :
        (ofRecord fs r').map (cons y) = .ok (cons x rest) ↔ x = y ∧ rest.ReadFrom r' := by
      rw [map_eq_ok_iff, ← ih hcolumns]
      constructor
      · rintro ⟨_, hrest, heq⟩
        cases heq
        exact ⟨rfl, hrest⟩
      · rintro ⟨rfl, hrest⟩
        exact ⟨rest, hrest, rfl⟩
    have herased : rest.ReadFrom (r.erase f.column) ↔ rest.ReadFrom r :=
      readFrom_congr fun c hc => r.get?_erase_of_ne fun heq => hfresh (heq ▸ hc)
    rw [ofRecord, ReadFrom, Record.takeField]
    cases r.get? f.column with
    | none => exact hcons f.type.default r
    | some v =>
      cases hread : f.type.read v with
      | error fault => simp [Except.mapError, hread]
      | ok y =>
        simp only [Except.mapError, hread, hcons, herased, Except.ok.injEq]
        rw [eq_comm]

/-- From a record with some of the cells of a row, the row is read with the defaults in the other
fields. -/
theorem Projected.readFrom_keep (h : row.Projected columns r) (hquiet : row.Quiet) :
    (row.keep columns).ReadFrom r := by
  induction row with
  | nil => trivial
  | @cons f fs x rest ih =>
    obtain ⟨hx, hquiet⟩ := hquiet
    have hfirst : r.get? f.column = if f.column ∈ columns then some (f.type.write x) else none :=
      h _ (List.mem_cons_self ..)
    refine ⟨?_, ih (fun cell hcell => h cell (List.mem_cons_of_mem _ hcell)) hquiet⟩
    by_cases hf : f.column ∈ columns
    · rw [hfirst, if_pos hf, if_pos hf]
      exact f.type.read_write hx
    · rw [hfirst, if_neg hf, if_neg hf]

/-- The cells of a row in some columns, in whatever order and whatever other columns stand between
them. -/
theorem projected_of_perm (hcolumns : (fs.map Field.column).Nodup) {extra : List (String × Value)}
    (hextra : ∀ cell ∈ extra, cell.1 ∉ fs.map Field.column)
    (h : r.columns.Perm (row.cells.filter (fun cell => cell.1 ∈ columns) ++ extra)) :
    row.Projected columns r := by
  intro cell hcell
  have hcolumn : cell.1 ∈ fs.map Field.column := by
    rw [← row.map_fst_cells]
    exact List.mem_map_of_mem hcell
  have hmem : ∀ v, (cell.1, v) ∈ r.columns ↔ (cell.1, v) ∈ row.cells ∧ cell.1 ∈ columns := by
    intro v
    rw [h.mem_iff, List.mem_append, List.mem_filter, decide_eq_true_iff, or_iff_left]
    exact fun hv => hextra _ hv hcolumn
  by_cases hkept : cell.1 ∈ columns
  · rw [if_pos hkept]
    refine Record.lookup_eq_some ((hmem _).2 ⟨hcell, hkept⟩) fun w hw => ?_
    rw [← row.map_fst_cells] at hcolumns
    exact congrArg Prod.snd (List.inj_on_of_nodup_map hcolumns ((hmem w).1 hw).1 hcell rfl)
  · rw [if_neg hkept]
    refine Record.lookup_eq_none fun hin => ?_
    obtain ⟨⟨c, v⟩, hv, rfl⟩ := List.mem_map.1 hin
    exact hkept ((hmem v).1 hv).2

end Row

/-! ## Values of mapped types -/

namespace Instance

open Declaration

variable {m : Mapping FieldType} {σ : String → Type} [∀ name, Inhabited (σ name)]

/-- A value is read from a record as its row is, with the defaults of their types in its skipped
fields. -/
theorem ofRecord_eq_ok_iff (hcolumns : (m.toEntity.fields.map Field.column).Nodup) {r : Record}
    {x : Instance m σ} :
    ofRecord r = .ok x ↔ x.row.ReadFrom r ∧ ∀ name h, x.skipped name h = default := by
  rw [ofRecord, map_eq_ok_iff]
  constructor
  · rintro ⟨row, hrow, rfl⟩
    exact ⟨(Row.ofRecord_eq_ok_iff hcolumns).1 hrow, fun _ _ => rfl⟩
  · obtain ⟨row, skipped⟩ := x
    rintro ⟨hrow, hskipped⟩
    obtain rfl : skipped = fun _ _ => default := funext fun name => funext (hskipped name)
    exact ⟨row, (Row.ofRecord_eq_ok_iff hcolumns).2 hrow, rfl⟩

/-- A value whose columns are distinct comes back from its record, with the defaults of their types
in its skipped fields. From a record that has only some of its cells, in whatever order and among
whatever cells of columns that are not its own, it comes back with the defaults in the other fields
as well. -/
theorem ofRecord_toRecord (x : Instance m σ) (hcolumns : (m.mapped.map MappedField.column).Nodup)
    (hquiet : x.row.Quiet) :
    (∀ (columns : List String) (extra : List (String × Value)) (r : Record),
      (∀ cell ∈ extra, cell.1 ∉ m.mapped.map MappedField.column) →
      r.columns.Perm (x.toRecord.columns.filter (fun cell => cell.1 ∈ columns) ++ extra) →
      (ofRecord r : Except Error (Instance m σ)) =
        .ok ⟨x.row.keep columns, fun _ _ => default⟩) ∧
    (ofRecord x.toRecord : Except Error (Instance m σ)) = .ok ⟨x.row, fun _ _ => default⟩ := by
  rw [← m.columns_toEntity] at hcolumns ⊢
  have hcells : x.toRecord.columns = x.row.cells := by
    rw [toRecord, x.row.toRecord_eq hcolumns]
  have hprojected : ∀ (columns : List String) (extra : List (String × Value)) (r : Record),
      (∀ cell ∈ extra, cell.1 ∉ m.toEntity.fields.map Field.column) →
      r.columns.Perm (x.toRecord.columns.filter (fun cell => cell.1 ∈ columns) ++ extra) →
      (ofRecord r : Except Error (Instance m σ)) =
        .ok ⟨x.row.keep columns, fun _ _ => default⟩ := by
    intro columns extra r hextra hperm
    rw [hcells] at hperm
    have hprojected := Row.projected_of_perm hcolumns hextra hperm
    exact (ofRecord_eq_ok_iff hcolumns).2 ⟨hprojected.readFrom_keep hquiet, fun _ _ => rfl⟩
  refine ⟨hprojected, ?_⟩
  have hall : x.toRecord.columns.filter (fun cell =>
      cell.1 ∈ m.toEntity.fields.map Field.column) = x.toRecord.columns := by
    rw [List.filter_eq_self, hcells]
    intro cell hcell
    rw [decide_eq_true_iff, ← x.row.map_fst_cells]
    exact List.mem_map_of_mem hcell
  have hwhole := hprojected (m.toEntity.fields.map Field.column) [] x.toRecord (by simp)
    (by rw [hall, List.append_nil])
  rwa [Row.keep_all _ fun f hf => List.mem_map_of_mem hf] at hwhole

/-- The mapping of a reading of an instrument. -/
def readingMapping : Mapping FieldType where
  name := "Reading"
  table := "readings"
  mapped := [⟨"id", "id", true, ⟨.text, false⟩⟩, ⟨"value", "val", false, ⟨.float32, false⟩⟩,
    ⟨"note", "note", false, ⟨.json, true⟩⟩]
  skipped := ["shown"]

/-- A reading with a note that says nothing, shown five times. -/
def reading : Instance readingMapping fun _ => Nat where
  row := .cons "r1" (.cons ⟨0x3fc00000⟩ (.cons (some .null) .nil))
  skipped _ _ := (5 : Nat)

theorem ofRecord_toRecord_reading :
    (ofRecord ⟨[("total", .int 7), ("note", .json .null), ("id", .text "r1")]⟩ :
        Except Error (Instance readingMapping fun _ => Nat)) =
      .ok ⟨.cons "r1" (.cons .zero (.cons (some .null) .nil)), fun _ _ => (0 : Nat)⟩ ∧
    (ofRecord reading.toRecord : Except Error (Instance readingMapping fun _ => Nat)) =
      .ok ⟨reading.row, fun _ _ => (0 : Nat)⟩ := by
  have hvalue : Binary32.isSignaling ⟨0x3fc00000⟩ = false := by decide
  have hquiet : reading.row.Quiet := ⟨trivial, hvalue, trivial, trivial⟩
  obtain ⟨hprojected, hwhole⟩ := ofRecord_toRecord reading (by decide) hquiet
  have hperm := List.reverse_perm
    [("id", Value.text "r1"), ("note", .json .null), ("total", .int 7)]
  exact ⟨hprojected ["note", "id"] [("total", .int 7)] _ (by decide) hperm, hwhole⟩

end Instance

end Sift
