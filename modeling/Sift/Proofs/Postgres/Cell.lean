import Mathlib.Algebra.Group.Int.Defs
import Mathlib.Algebra.Group.Nat.Defs
import Sift.Postgres.Wire
import Sift.Proofs.Outcome

/-!
# Values come back from their cells

A value is written as the cell of a column and read from it again. Which bytes a value is written as
depends on the form of the column type alone, `Writes`, and from these bytes the form reads what was
written: truth values, integers that fit their width, texts, bytes and UUIDs as they were, and
instants cut off to whole microseconds on the side of 2000. Null is no cell, and nothing else is.
The main result is `Postgres.carries_of_mem_exactTypes`; floating point and JSON are left out of
it.
-/
namespace Sift

/-! ## Signed numbers in their width -/

namespace BigEndian

/-- A width of bytes holds twice as many numbers as there are below zero. -/
theorem pow_eq_two_mul {width : Nat} (hwidth : 0 < width) :
    Nat.pow 256 width = 2 * 2 ^ (8 * width - 1) := by
  change (2 ^ 8) ^ width = _
  rw [← Nat.pow_mul, ← Nat.pow_succ']
  congr 1
  omega

/-- A signed number that fits is read from its bytes. -/
theorem toInt_ofInt_of_fits {width : Nat} (hwidth : 0 < width) {n : Int}
    (hlow : -2 ^ (8 * width - 1) ≤ n) (hhigh : n < 2 ^ (8 * width - 1)) :
    toInt (ofInt width n) = n := by
  rw [toInt_ofInt, pow_eq_two_mul hwidth]
  apply Int.bmod_eq_of_le
  · push_cast
    omega
  · push_cast
    omega

end BigEndian

namespace Postgres

theorem integerCell_eq_ok_iff {width : Nat} (hwidth : 0 < width) {n : Int} {bytes : List UInt8} :
    integerCell width n = .ok bytes ↔
      (-2 ^ (8 * width - 1) ≤ n ∧ n < 2 ^ (8 * width - 1)) ∧ bytes = BigEndian.ofInt width n := by
  have hbound : ((128 * Nat.pow 256 (width - 1) : Nat) : Int) = 2 ^ (8 * width - 1) := by
    have hpower : 128 * Nat.pow 256 (width - 1) = 2 ^ (8 * width - 1) := by
      change 2 ^ 7 * (2 ^ 8) ^ (width - 1) = _
      rw [← Nat.pow_mul, ← Nat.pow_add]
      congr 1
      omega
    rw [hpower]
    push_cast
    rfl
  unfold integerCell
  simp only [hbound]
  split
  · constructor
    · rintro ⟨⟩
    · omega
  · split
    · constructor
      · rintro ⟨⟩
      · omega
    · rw [Except.ok.injEq, eq_comm]
      exact ⟨fun h => ⟨by omega, h⟩, And.right⟩

end Postgres

/-! ## Texts in their bytes -/

theorem toList_byteArray_loop (bs : ByteArray) (i : Nat) (before : List UInt8) :
    ByteArray.toList.loop bs i before = before.reverse ++ bs.data.toList.drop i := by
  induction i, before using ByteArray.toList.loop.induct bs with
  | case1 i before hi ih =>
    have hlength : i < bs.data.toList.length := hi
    have hget : bs.get! i = bs.data.toList[i] := getElem!_pos bs.data i hi
    rw [ByteArray.toList.loop, if_pos hi, ih, List.drop_eq_getElem_cons hlength, hget]
    simp
  | case2 i before hi =>
    have hlength : bs.data.toList.length ≤ i := Nat.not_lt.1 hi
    rw [ByteArray.toList.loop, if_neg hi, List.drop_of_length_le hlength, List.append_nil]

theorem toList_byteArray (bs : ByteArray) : bs.toList = bs.data.toList := by
  rw [ByteArray.toList, toList_byteArray_loop]
  rfl

/-- A text is read from its bytes. -/
theorem Postgres.readText_textCell (s : String) : readText (textCell s) = some s := by
  rw [readText, textCell, toList_byteArray]
  exact dif_pos s.isValidUTF8

/-! ## Instants in microseconds -/

namespace Instant

/-- The nanoseconds between the start of 2000 and an instant; a leap second counts on from the
second before it. -/
def sinceMillennium (t : Instant) : Int := (t.second - millennium) * 1000000000 + t.nano

/-- The second after the one that an instant is in, if it is a leap second, is still in range. -/
def IsBeforeEnd (t : Instant) : Prop := t.nano < 1000000000 ∨ t.second < 8210266876799

/-- An instant is another one without what it has beyond whole microseconds, counted from the start
of 2000, and is no leap second. -/
structure CutTo (t u : Instant) : Prop where
  plain : u.nano < 1000000000
  whole : 1000 ∣ u.sinceMillennium
  between : min 0 t.sinceMillennium ≤ u.sinceMillennium ∧
    u.sinceMillennium ≤ max 0 t.sinceMillennium
  near : t.sinceMillennium - 1000 < u.sinceMillennium ∧
    u.sinceMillennium < t.sinceMillennium + 1000

/-- The microseconds of an instant lie between 2000 and the instant. -/
theorem micros_bounds (t : Instant) :
    (0 ≤ t.sinceMillennium ∧ t.micros = t.sinceMillennium / 1000) ∨
      (t.sinceMillennium < 0 ∧ t.micros = -(-t.sinceMillennium / 1000)) := by
  by_cases h : 0 ≤ t.sinceMillennium
  · exact .inl ⟨h, Int.tdiv_eq_ediv_of_nonneg h⟩
  · refine .inr ⟨by omega, ?_⟩
    have hnonneg : 0 ≤ -t.sinceMillennium := by omega
    rw [← Int.tdiv_eq_ediv_of_nonneg hnonneg, Int.neg_tdiv, Int.neg_neg]
    rfl

/-- The microseconds of an instant fit into eight bytes. -/
theorem micros_fits (t : Instant) : -2 ^ (8 * 8 - 1) ≤ t.micros ∧ t.micros < 2 ^ (8 * 8 - 1) := by
  have hnano := t.nano_lt
  have hlower := t.lower
  have hupper := t.upper
  have hbounds := t.micros_bounds
  simp only [sinceMillennium, millennium] at hbounds
  omega

/-- The microseconds of an instant are those of the instant cut off. -/
theorem exists_cutTo {t : Instant} (h : t.IsBeforeEnd) :
    ∃ u, ofMicros? t.micros = some u ∧ t.CutTo u := by
  have hnano := t.nano_lt
  have hlower := t.lower
  have hupper := t.upper
  have hbounds := t.micros_bounds
  simp only [sinceMillennium, millennium, IsBeforeEnd] at hbounds h
  have hrange : (t.micros % 1000000).toNat * 1000 < 2000000000 ∧
      (1000000000 ≤ (t.micros % 1000000).toNat * 1000 →
        (millennium + t.micros / 1000000) % 60 = 59) ∧
      -8334601228800 ≤ millennium + t.micros / 1000000 ∧
      millennium + t.micros / 1000000 ≤ 8210266876799 := by
    simp only [millennium]
    omega
  refine ⟨_, dif_pos hrange, ?_⟩
  constructor <;> simp only [sinceMillennium, millennium] <;> omega

end Instant

/-! ## Written and read -/

namespace Postgres

/-- What a form writes of a value. -/
inductive Writes : CellForm → Value → List UInt8 → Prop
  | bool (b : Bool) : Writes .bool (.bool b) [if b then 1 else 0]
  | integer {width : Nat} {n : Int64} {bytes : List UInt8}
      (h : integerCell width n.toInt = .ok bytes) : Writes (.integer width) (.int n) bytes
  | rounded (n : Int64) : Writes .double (.int n) (doubleCell (.ofInt n.toInt))
  | single (x : Binary64) : Writes .single (.float x) (singleCell x.toSingle)
  | double (x : Binary64) : Writes .double (.float x) (doubleCell x)
  | text (s : String) : Writes .text (.text s) (textCell s)
  | bytes (bs : List UInt8) : Writes .bytes (.bytes bs) bs
  | uuid (u : Uuid) : Writes .uuid (.uuid u) u.bytes
  | instant (t : Instant) : Writes .instant (.timestamp t) (BigEndian.ofInt 8 t.micros)
  | json (versioned : Bool) (j : Json) : Writes (.json versioned) (.json j)
      ((if versioned then [1] else []) ++ textCell j.render)

/-- A value is written as the form of the type writes it, and null alone as no cell. -/
theorem encode_eq_ok_iff {v : Value} {t : CellType} {cell : Cell} :
    encode v t = .ok cell ↔ (v = .null ∧ cell = none) ∨
      ∃ form bytes, t.form? = some form ∧ Writes form v bytes ∧ cell = some bytes := by
  constructor
  · intro h
    unfold encode at h
    split at h
    case h_1 b hform => exact .inr ⟨_, _, hform, .bool b, (Except.ok.inj h).symm⟩
    case h_2 n width hform =>
      obtain ⟨bytes, hbytes, rfl⟩ := map_eq_ok_iff.1 h
      exact .inr ⟨_, _, hform, .integer hbytes, rfl⟩
    case h_3 n hform => exact .inr ⟨_, _, hform, .rounded n, (Except.ok.inj h).symm⟩
    case h_4 x hform => exact .inr ⟨_, _, hform, .single x, (Except.ok.inj h).symm⟩
    case h_5 x hform => exact .inr ⟨_, _, hform, .double x, (Except.ok.inj h).symm⟩
    case h_6 s hform => exact .inr ⟨_, _, hform, .text s, (Except.ok.inj h).symm⟩
    case h_7 bs hform => exact .inr ⟨_, _, hform, .bytes bs, (Except.ok.inj h).symm⟩
    case h_8 u hform => exact .inr ⟨_, _, hform, .uuid u, (Except.ok.inj h).symm⟩
    case h_9 t hform => exact .inr ⟨_, _, hform, .instant t, (Except.ok.inj h).symm⟩
    case h_10 j versioned hform =>
      exact .inr ⟨_, _, hform, .json versioned j, (Except.ok.inj h).symm⟩
    case h_11 =>
      split at h
      · cases h
      · rename_i hv
        exact .inl ⟨Value.valueType?_eq_none_iff.1 hv, (Except.ok.inj h).symm⟩
  · rintro (⟨rfl, rfl⟩ | ⟨form, bytes, hform, hwrites, rfl⟩)
    · exact encode_null t
    · cases hwrites with
      | integer hbytes =>
        unfold encode
        simp only [hform, hbytes]
        rfl
      | _ =>
        unfold encode
        simp only [hform]

/-- A value is written as no cell if and only if it is null, whatever the type. -/
theorem encode_eq_ok_none_iff {v : Value} {t : CellType} : encode v t = .ok none ↔ v = .null := by
  rw [encode_eq_ok_iff]
  constructor
  · rintro (⟨rfl, -⟩ | ⟨_, _, -, -, h⟩)
    · rfl
    · cases h
  · rintro rfl
    exact .inl ⟨rfl, rfl⟩

theorem encode_eq_ok_some_iff {v : Value} {t : CellType} {bytes : List UInt8} :
    encode v t = .ok (some bytes) ↔ ∃ form, t.form? = some form ∧ Writes form v bytes := by
  rw [encode_eq_ok_iff]
  constructor
  · rintro (⟨-, h⟩ | ⟨form, bytes', hform, hwrites, h⟩)
    · cases h
    · cases h
      exact ⟨form, hform, hwrites⟩
  · rintro ⟨form, hform, hwrites⟩
    exact .inr ⟨form, bytes, hform, hwrites, rfl⟩

/-- What comes back for a value: an instant is cut off, everything else is as it was. -/
inductive Returns : Value → Value → Prop
  | same {v : Value} (h : v.valueType? ≠ some .timestamp) : Returns v v
  | cut {t u : Instant} (h : t.CutTo u) : Returns (.timestamp t) (.timestamp u)

/-- The forms that round nothing but instants. -/
def CellForm.isExact : CellForm → Bool
  | single | double | json _ => false
  | _ => true

/-- No timestamp of the value ends behind the last second. -/
def IsBeforeEnd (v : Value) : Prop := ∀ t, v = .timestamp t → t.IsBeforeEnd

/-- The bytes that a form writes are read as what was written. -/
theorem Writes.read {form : CellForm} {v : Value} {bytes : List UInt8} (h : Writes form v bytes)
    (hexact : form.isExact = true) (hwidth : ∀ width, form = .integer width → 0 < width)
    (hend : IsBeforeEnd v) : ∃ w, form.read bytes = some w ∧ Returns v w := by
  cases h with
  | bool b =>
    refine ⟨.bool b, ?_, .same nofun⟩
    cases b <;> rfl
  | @integer width n bytes hcell =>
    have hpos := hwidth width rfl
    obtain ⟨⟨hlow, hhigh⟩, rfl⟩ := (integerCell_eq_ok_iff hpos).1 hcell
    refine ⟨.int n, ?_, .same nofun⟩
    rw [CellForm.read, if_pos (BigEndian.length_ofInt ..),
      BigEndian.toInt_ofInt_of_fits hpos hlow hhigh, Int64.ofInt_toInt]
  | text s =>
    refine ⟨.text s, ?_, .same nofun⟩
    rw [CellForm.read, readText_textCell]
    rfl
  | bytes bs => exact ⟨.bytes _, rfl, .same nofun⟩
  | uuid u =>
    refine ⟨.uuid u, ?_, .same nofun⟩
    rw [CellForm.read, Uuid.ofBytes?_bytes]
    rfl
  | instant t =>
    obtain ⟨u, hu, hcut⟩ := Instant.exists_cutTo (hend t rfl)
    obtain ⟨hlow, hhigh⟩ := t.micros_fits
    refine ⟨.timestamp u, ?_, .cut hcut⟩
    rw [CellForm.read, if_pos (BigEndian.length_ofInt ..),
      BigEndian.toInt_ofInt_of_fits (by decide) hlow hhigh, hu]
    rfl
  | rounded n => cases hexact
  | single x => cases hexact
  | double x => cases hexact
  | json versioned j => cases hexact

/-! ## Types whose cells come back -/

/-- The types whose cells are read as what was written. -/
def exactTypes : List CellType :=
  [.bool, .int2, .int4, .int8, .text, .varchar, .bpchar, .name, .bytea, .uuid, .timestamp,
    .timestamptz]

/-- The bytes of an integer column. -/
def CellType.width? : CellType → Option Nat
  | int2 => some 2
  | int4 => some 4
  | int8 => some 8
  | _ => none

theorem CellType.form?_eq_integer_iff {t : CellType} {width : Nat} :
    t.form? = some (.integer width) ↔ t.width? = some width := by
  cases t <;> simp [form?, width?]

theorem CellType.width_pos {t : CellType} {width : Nat} (h : t.width? = some width) :
    0 < width := by
  cases t <;> cases h <;> decide

/-- What writing a value as a cell of a type keeps of it. -/
structure Carries (t : CellType) (v : Value) : Prop where
  /-- Null is no cell, and nothing else is. -/
  none_iff : encode v t = .ok none ↔ v = .null
  null : ∀ index, decode index t none = .ok .null
  /-- The cell is read as the value. -/
  read : ∀ index bytes, encode v t = .ok (some bytes) → IsBeforeEnd v →
    ∃ w, decode index t (some bytes) = .ok w ∧ Returns v w
  /-- Integers are written if they fit, and in so many bytes. -/
  integer : ∀ n width, v = .int n → t.width? = some width →
    ((∃ cell, encode v t = .ok cell) ↔
      -2 ^ (8 * width - 1) ≤ n.toInt ∧ n.toInt < 2 ^ (8 * width - 1)) ∧
    ∀ cell, encode v t = .ok cell → ∃ bytes, cell = some bytes ∧ bytes.length = width

theorem encode_int_eq_ok_iff {t : CellType} {width : Nat} (ht : t.width? = some width)
    (n : Int64) {cell : Cell} : encode (.int n) t = .ok cell ↔
      (-2 ^ (8 * width - 1) ≤ n.toInt ∧ n.toInt < 2 ^ (8 * width - 1)) ∧
        cell = some (BigEndian.ofInt width n.toInt) := by
  have hcell : encode (.int n) t = (integerCell width n.toInt).map some := by
    cases t <;> cases ht <;> rfl
  rw [hcell, map_eq_ok_iff]
  constructor
  · rintro ⟨bytes, hbytes, rfl⟩
    obtain ⟨hfits, rfl⟩ := (integerCell_eq_ok_iff (CellType.width_pos ht)).1 hbytes
    exact ⟨hfits, rfl⟩
  · rintro ⟨hfits, rfl⟩
    exact ⟨_, (integerCell_eq_ok_iff (CellType.width_pos ht)).2 ⟨hfits, rfl⟩, rfl⟩

theorem exists_form_of_mem_exactTypes {t : CellType} (ht : t ∈ exactTypes) :
    ∃ form, t.form? = some form ∧ form.isExact = true := by
  have hall : ∀ t ∈ exactTypes, t.form?.any CellForm.isExact = true := by decide
  simpa [Option.any_eq_true] using hall t ht

/-- Every value comes back from a column of an exact type that it can be written to. -/
theorem carries_of_mem_exactTypes {t : CellType} (ht : t ∈ exactTypes) (v : Value) :
    Carries t v := by
  obtain ⟨form, hform, hexact⟩ := exists_form_of_mem_exactTypes ht
  refine ⟨encode_eq_ok_none_iff, fun index => decode_none index hform, ?_, ?_⟩
  · intro index bytes hcell hend
    obtain ⟨form', hform', hwrites⟩ := encode_eq_ok_some_iff.1 hcell
    obtain rfl := Option.some.inj (hform.symm.trans hform')
    have hwidth : ∀ width, form = .integer width → 0 < width := by
      rintro width rfl
      exact CellType.width_pos (CellType.form?_eq_integer_iff.1 hform)
    obtain ⟨w, hw, hreturns⟩ := hwrites.read hexact hwidth hend
    refine ⟨w, ?_, hreturns⟩
    unfold decode
    simp only [hform, hw]
  · rintro n width rfl ht
    refine ⟨⟨?_, ?_⟩, ?_⟩
    · rintro ⟨cell, hcell⟩
      exact ((encode_int_eq_ok_iff ht n).1 hcell).1
    · exact fun hfits => ⟨_, (encode_int_eq_ok_iff ht n).2 ⟨hfits, rfl⟩⟩
    · intro cell hcell
      exact ⟨_, ((encode_int_eq_ok_iff ht n).1 hcell).2, BigEndian.length_ofInt ..⟩

/-- The last nanosecond of 1969. -/
def lastOf1969 : Instant := ⟨-1, 999999999, by decide, by decide, by decide⟩

/-- The least integer of two bytes and the last nanosecond of 1969 come back, the one as it was and
the other as the start of 1970; one integer more does not fit. -/
theorem carries_lastOf1969 :
    CellType.int2 ∈ exactTypes ∧ CellType.timestamp ∈ exactTypes ∧
      IsBeforeEnd (.timestamp lastOf1969) ∧
      (∃ bytes, encode (.int (-32768)) .int2 = .ok (some bytes) ∧ bytes.length = 2 ∧
        decode 3 .int2 (some bytes) = .ok (.int (-32768))) ∧
      (¬∃ cell, encode (.int 32768) .int2 = .ok cell) ∧
      ∃ bytes u, encode (.timestamp lastOf1969) .timestamp = .ok (some bytes) ∧
        decode 0 .timestamp (some bytes) = .ok (.timestamp u) ∧ lastOf1969.CutTo u ∧
        u.second = 0 ∧ u.nano = 0 := by
  have hint : CellType.int2 ∈ exactTypes := by decide
  have htimestamp : CellType.timestamp ∈ exactTypes := by decide
  have hend : IsBeforeEnd (.timestamp lastOf1969) := by
    rintro t ⟨⟩
    exact .inl (by decide)
  refine ⟨hint, htimestamp, hend, ?_, ?_, ?_⟩
  · have hcarries := carries_of_mem_exactTypes hint (.int (-32768))
    obtain ⟨hfits, hwidth⟩ := hcarries.integer _ 2 rfl rfl
    obtain ⟨cell, hcell⟩ := hfits.2 (by decide)
    obtain ⟨bytes, rfl, hlength⟩ := hwidth cell hcell
    obtain ⟨w, hw, hreturns⟩ := hcarries.read 3 bytes hcell fun t h => Value.noConfusion h
    cases hreturns with
    | same => exact ⟨bytes, hcell, hlength, hw⟩
  · have hcarries := carries_of_mem_exactTypes hint (.int 32768)
    rw [(hcarries.integer _ 2 rfl rfl).1]
    decide
  · have hcarries := carries_of_mem_exactTypes htimestamp (.timestamp lastOf1969)
    have hcell : encode (.timestamp lastOf1969) .timestamp = .ok (some _) :=
      encode_eq_ok_some_iff.2 ⟨.instant, rfl, .instant lastOf1969⟩
    obtain ⟨w, hw, hreturns⟩ := hcarries.read 0 _ hcell hend
    cases hreturns with
    | same h => exact absurd rfl h
    | @cut _ u hcut =>
      obtain ⟨hplain, hwhole, hbetween, hnear⟩ := id hcut
      simp only [Instant.sinceMillennium, millennium, lastOf1969] at hwhole hbetween hnear
      exact ⟨_, u, hcell, hw, hcut, by omega, by omega⟩

end Postgres

end Sift
