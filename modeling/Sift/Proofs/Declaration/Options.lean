import Mathlib.Data.List.Induction
import Mathlib.Data.List.Perm.Basic
import Sift.Declaration.Options
import Sift.Proofs.Outcome

/-!
# How options are written

The options of a field stand in its mapping attributes, in each of them with commas between them;
attributes of other kinds may stand among these. `FieldOption.Given` is this written form, and
reading accepts it and nothing else, `FieldOption.ofAttributes_eq_ok_iff`. How options are spread
over attributes is not seen any more in what is read. What they say together, `Options.ofList`, does
not depend on their order either, but for the order of the columns, of which the last counts.

The attributes of a struct name its table in the same way, `TableGiven`, with one option in the
first mapping attribute.
-/
namespace Sift.Declaration

namespace FieldOption

/-! ## Options in an attribute -/

/-- The tokens of an option. -/
inductive Spelled : FieldOption → List Token → Prop
  | id : Spelled .id [.word "id"]
  | skip : Spelled .skip [.word "skip"]
  | column (joint : Bool) (source name : String) :
    Spelled (.column name) [.word "column", .mark '=' joint, .literal source (.text name)]

/-- Options with commas between them and perhaps one behind the last. -/
inductive Listed : List FieldOption → List Token → Prop
  | nil : Listed [] []
  | last {o : FieldOption} {ts : List Token} (spelled : o.Spelled ts) : Listed [o] ts
  | more {o : FieldOption} {os : List FieldOption} {ts us : List Token} (joint : Bool)
    (spelled : o.Spelled ts) (rest : Listed os us) : Listed (o :: os) (ts ++ .mark ',' joint :: us)

section Reading

variable {o : FieldOption} {os : List FieldOption} {ts rest : List Token}

theorem Spelled.read_append (h : o.Spelled ts) (rest : List Token) :
    read (ts ++ rest) = .ok (o, rest) := by
  cases h with
  | id => rfl
  | skip => rfl
  | column joint source name => rfl

/-- What has been read as an option is one, with all behind it left. -/
theorem exists_of_read (h : read ts = .ok (o, rest)) :
    ∃ front, o.Spelled front ∧ ts = front ++ rest := by
  unfold read at h
  split at h
  next w behind =>
    split at h
    · cases h
    split at h
    next hid =>
      cases h
      exact ⟨_, .id, by simp [hid]⟩
    split at h
    next hskip =>
      cases h
      exact ⟨_, .skip, by simp [hskip]⟩
    split at h
    next hcolumn =>
      split at h
      next joint source name behind =>
        cases h
        exact ⟨_, .column joint source name, by simp [hcolumn]⟩
      · cases h
      · cases h
    · cases h
  · cases h

theorem readAll_of_read_eq_last (h : read ts = .ok (o, [])) : readAll ts = .ok [o] := by
  have hts : ts.isEmpty = false := by
    cases ts with
    | nil => cases h
    | cons t ts => rfl
  rw [readAll, hts, if_neg Bool.false_ne_true]
  split <;> simp_all

theorem readAll_of_read_eq_more {joint : Bool} (h : read ts = .ok (o, .mark ',' joint :: rest)) :
    readAll ts = (readAll rest).map (o :: ·) := by
  have hts : ts.isEmpty = false := by
    cases ts with
    | nil => cases h
    | cons t ts => rfl
  rw [readAll, hts, if_neg Bool.false_ne_true]
  split <;> simp_all

theorem readAll_of_listed (h : Listed os ts) : readAll ts = .ok os := by
  induction h with
  | nil => rw [readAll]; rfl
  | @last o ts spelled =>
    have hread := spelled.read_append []
    rw [List.append_nil] at hread
    exact readAll_of_read_eq_last hread
  | @more o os ts us joint spelled _ ih =>
    rw [readAll_of_read_eq_more (spelled.read_append (.mark ',' joint :: us)), ih]
    rfl

theorem listed_of_readAll (h : readAll ts = .ok os) : Listed os ts := by
  fun_induction readAll ts generalizing os with
  | case1 ts hempty =>
    cases h
    rw [List.isEmpty_iff.1 hempty]
    exact .nil
  | case2 => cases h
  | case3 ts _ o hread =>
    cases h
    obtain ⟨front, hspelled, rfl⟩ := exists_of_read hread
    rw [List.append_nil]
    exact .last hspelled
  | case4 ts _ o joint rest hread ih =>
    obtain ⟨more, hmore, rfl⟩ := map_eq_ok_iff.1 h
    obtain ⟨front, hspelled, rfl⟩ := exists_of_read hread
    exact .more joint hspelled (ih hmore)
  | case5 => cases h

/-- Reading the options of an attribute accepts their written forms and nothing else. -/
theorem readAll_eq_ok_iff : readAll ts = .ok os ↔ Listed os ts :=
  ⟨listed_of_readAll, readAll_of_listed⟩

end Reading

/-! ## Options in several attributes -/

/-- The options that attributes give: those of each mapping attribute in turn. -/
inductive Given : List Attribute → List FieldOption → Prop
  | nil : Given [] []
  | other {a : Attribute} {attributes : List Attribute} {os : List FieldOption}
    (foreign : a.isMapping = false) (rest : Given attributes os) : Given (a :: attributes) os
  | mapping {a : Attribute} {attributes : List Attribute} {ts : List Token}
    {first more : List FieldOption} (own : a.isMapping = true) (body : a.body = .arguments ts)
    (listed : Listed first ts) (rest : Given attributes more) :
    Given (a :: attributes) (first ++ more)

/-- Reading the options of a field accepts their written forms and nothing else. -/
theorem ofAttributes_eq_ok_iff {attributes : List Attribute} {os : List FieldOption} :
    ofAttributes attributes = .ok os ↔ Given attributes os := by
  constructor
  · intro h
    induction attributes generalizing os with
    | nil =>
      cases h
      exact .nil
    | cons a attributes ih =>
      rw [ofAttributes] at h
      split at h
      next hown =>
        obtain ⟨ts, harguments, h⟩ := bind_eq_ok_iff.1 h
        obtain ⟨first, hfirst, h⟩ := bind_eq_ok_iff.1 h
        obtain ⟨more, hmore, h⟩ := bind_eq_ok_iff.1 h
        cases h
        have hbody : a.body = .arguments ts := by
          rw [Attribute.arguments] at harguments
          split at harguments <;> simp_all
        exact .mapping hown hbody (readAll_eq_ok_iff.1 hfirst) (ih hmore)
      next hforeign => exact .other (Bool.eq_false_iff.2 hforeign) (ih h)
  · intro h
    induction h with
    | nil => rfl
    | other foreign _ ih =>
      rw [ofAttributes, foreign, if_neg Bool.false_ne_true]
      exact ih
    | @mapping a attributes ts first more own body listed _ ih =>
      have harguments : a.arguments = .ok ts := by rw [Attribute.arguments, body]
      rw [ofAttributes, if_pos own, harguments]
      exact bind_eq_ok_iff.2 ⟨ts, rfl, bind_eq_ok_iff.2
        ⟨first, readAll_eq_ok_iff.2 listed, bind_eq_ok_iff.2 ⟨more, ih, rfl⟩⟩⟩

/-! ## Options together -/

/-- The column that an option gives. -/
def column? : FieldOption → Option String
  | .column name => some name
  | _ => none

/-- The columns that options give, in order. -/
def columns (os : List FieldOption) : List String := os.filterMap column?

/-- The same options in another order, the columns among them in the same one. -/
structure Rearranged (os os' : List FieldOption) : Prop where
  perm : os.Perm os'
  columns_eq : columns os = columns os'

end FieldOption

namespace Options

open FieldOption

/-- Options mark what one of them marks, and give the last of their columns. -/
theorem ofList_eq (os : List FieldOption) :
    ofList os = ⟨decide (.id ∈ os), decide (.skip ∈ os), (columns os).getLast?⟩ := by
  induction os using List.reverseRecOn with
  | nil => rfl
  | append_singleton os o ih =>
    rw [ofList_append_singleton, ih]
    cases o <;> simp [add, columns, column?]

theorem ofList_congr {os os' : List FieldOption} (h : Rearranged os os') :
    ofList os = ofList os' := by
  simp only [ofList_eq, h.perm.mem_iff, h.columns_eq]

end Options

/-! ## The table of a struct -/

/-- The table that attributes name, if one of them is about the mapping. The first such counts. -/
inductive TableGiven : List Attribute → Option String → Prop
  | none {attributes : List Attribute} (foreign : ∀ a ∈ attributes, a.isMapping = false) :
    TableGiven attributes none
  | some {before after : List Attribute} {a : Attribute} {joint : Bool} {source name : String}
    (foreign : ∀ b ∈ before, b.isMapping = false) (own : a.isMapping = true)
    (body : a.body =
      .arguments [.word "table", .mark '=' joint, .literal source (.text name)]) :
    TableGiven (before ++ a :: after) (some name)

theorem readTable_eq (joint : Bool) (source name : String) :
    readTable [.word "table", .mark '=' joint, .literal source (.text name)] = .ok name := by
  cases joint <;> rfl

theorem TableGiven.tableOfAttributes_eq {attributes : List Attribute} {table : Option String}
    (h : TableGiven attributes table) : tableOfAttributes attributes = .ok table := by
  cases h with
  | none foreign =>
    have hfind : attributes.find? Attribute.isMapping = .none :=
      List.find?_eq_none.2 fun a ha => by simp [foreign a ha]
    rw [tableOfAttributes, hfind]
  | @some before after a joint source name foreign own body =>
    have hfind : (before ++ a :: after).find? Attribute.isMapping = .some a := by
      rw [List.find?_append, List.find?_eq_none.2 fun b hb => by simp [foreign b hb]]
      simp [own]
    rw [tableOfAttributes, hfind]
    simp only [Attribute.arguments, body]
    change (readTable _).bind _ = _
    rw [readTable_eq]
    rfl

end Sift.Declaration
