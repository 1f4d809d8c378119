import Sift.Proofs.Declaration.Options
import Sift.Proofs.RoundTrip

/-!
# The views of a mapping

A struct with named fields and no parameters whose options are well formed is mapped, unless one of
its fields is both skipped and marked as the key, `Mapped`. What describes the mapping, what is read
and what is written are then about the same fields, those that are not skipped, in the order of
their declaration and with the same columns; `Mapping.Views` says so, and which of them is the key.
The values of the struct go into records and come out of them accordingly, `Mapping.Stores`.
Nothing but the options of each field counts, neither how they are spread over attributes nor their
order, except for that of columns: `Declaration.mapping_outcome`.
-/
namespace Sift

namespace Declaration

variable {τ : Type}

/-! ## Fields and their options -/

/-- A field with the options that are given at it. -/
structure OptionedField (τ : Type) where
  name : String
  type : τ
  options : List FieldOption

namespace OptionedField

variable {f : OptionedField τ} {fs fs' : List (OptionedField τ)}

/-- The last column that is given, or else the name of the field. -/
def column (f : OptionedField τ) : String := (FieldOption.columns f.options).getLast?.getD f.name

/-- The field is to be skipped and to be the key. -/
def Clashes (f : OptionedField τ) : Prop := .skip ∈ f.options ∧ .id ∈ f.options

/-- The fields that are skipped. -/
def skipped (fs : List (OptionedField τ)) : List (OptionedField τ) :=
  fs.filter (.skip ∈ ·.options)

/-- The fields that are not skipped. -/
def unskipped (fs : List (OptionedField τ)) : List (OptionedField τ) :=
  fs.filter (.skip ∉ ·.options)

/-- The places of keys among fields: those of the fields that are marked or, if none is, that of the
first field named `id`. -/
inductive KeyAt (fs : List (OptionedField τ)) (i : ℕ) : Prop
  | marked {f : OptionedField τ} (place : fs[i]? = some f) (mark : .id ∈ f.options)
  | named {f : OptionedField τ} (unmarked : ∀ g ∈ fs, .id ∉ g.options) (place : fs[i]? = some f)
    (name : f.name = "id") (first : ∀ g ∈ fs.take i, g.name ≠ "id")

/-- What becomes of a field by its options. -/
def placement (f : OptionedField τ) : Except Fault (Placement τ) :=
  place f.name f.type (.ofList f.options)

/-- A field that is not skipped, as it is mapped at first. -/
def mapped (f : OptionedField τ) : MappedField τ :=
  ⟨f.name, f.column, decide (.id ∈ f.options), f.type⟩

/-- What becomes of a field that is not both skipped and the key. -/
def placed (f : OptionedField τ) : Placement τ :=
  if .skip ∈ f.options then .skipped f.name else .mapped f.mapped

theorem placement_of_clashes (h : f.Clashes) : f.placement = .error .keySkipped := by
  simp [placement, place, Options.ofList_eq, h.1, h.2]

theorem placement_of_not_clashes (h : ¬f.Clashes) : f.placement = .ok f.placed := by
  by_cases hskip : .skip ∈ f.options
  · have hid : .id ∉ f.options := fun hid => h ⟨hskip, hid⟩
    simp [placement, place, Options.ofList_eq, placed, hskip, hid]
  · simp [placement, place, Options.ofList_eq, placed, mapped, column, hskip]

/-- One field that clashes refuses all of them. -/
theorem mapM_placement_of_clashes (h : ∃ f ∈ fs, f.Clashes) :
    fs.mapM placement = .error .keySkipped := by
  obtain ⟨f, hf, hclash⟩ := h
  refine mapM_eq_error_of_mem ⟨f, hf, placement_of_clashes hclash⟩ ?_
  intro g _ e hg
  by_cases hclash : g.Clashes
  · rw [placement_of_clashes hclash] at hg
    cases hg
    rfl
  · rw [placement_of_not_clashes hclash] at hg
    cases hg

theorem mapM_placement_of_not_clashes (h : ∀ f ∈ fs, ¬f.Clashes) :
    fs.mapM placement = .ok (fs.map placed) := by
  rw [mapM_eq_ok_iff, List.forall₂_map_right_iff, List.forall₂_same]
  exact fun f hf => placement_of_not_clashes (h f hf)

theorem filterMap_mapped?_placed (fs : List (OptionedField τ)) :
    (fs.map placed).filterMap Placement.mapped? = (unskipped fs).map mapped := by
  induction fs with
  | nil => rfl
  | cons f fs ih =>
    rw [List.map_cons]
    by_cases hskip : .skip ∈ f.options
    · have hplaced : f.placed = .skipped f.name := if_pos hskip
      rw [hplaced, List.filterMap_cons_none rfl, ih]
      simp [unskipped, hskip]
    · have hplaced : f.placed = .mapped f.mapped := if_neg hskip
      have hmapped : (Placement.mapped f.mapped).mapped? = some f.mapped := rfl
      rw [hplaced, List.filterMap_cons_some hmapped, ih]
      simp [unskipped, hskip]

theorem filterMap_skipped?_placed (fs : List (OptionedField τ)) :
    (fs.map placed).filterMap Placement.skipped? = (skipped fs).map name := by
  induction fs with
  | nil => rfl
  | cons f fs ih =>
    rw [List.map_cons]
    by_cases hskip : .skip ∈ f.options
    · have hplaced : f.placed = .skipped f.name := if_pos hskip
      have hname : (Placement.skipped f.name : Placement τ).skipped? = some f.name := rfl
      rw [hplaced, List.filterMap_cons_some hname, ih]
      simp [skipped, hskip]
    · have hplaced : f.placed = .mapped f.mapped := if_neg hskip
      rw [hplaced, List.filterMap_cons_none rfl, ih]
      simp [skipped, hskip]

end OptionedField

/-! ## The key -/

/-- To find the key changes nothing else. -/
theorem map_inferKey {β : Type} {g : MappedField τ → β}
    (hg : ∀ f : MappedField τ, g { f with isKey := true } = g f) (fs : List (MappedField τ)) :
    (inferKey fs).map g = fs.map g := by
  have hmark : (markKey "id" fs).map g = fs.map g := by
    induction fs with
    | nil => rfl
    | cons f fs ih =>
      rw [markKey]
      split
      · rw [List.map_cons, hg, List.map_cons]
      · rw [List.map_cons, ih, List.map_cons]
  rw [inferKey]
  split
  · rfl
  · exact hmark

namespace OptionedField

variable {fs : List (OptionedField τ)} {f : MappedField τ} {i : ℕ}

/-- Of fields that are not marked, the first one of a name is. -/
theorem isKey_markKey {name : String} (hunmarked : ∀ g ∈ fs, .id ∉ g.options)
    (h : (markKey name (fs.map mapped))[i]? = some f) :
    f.isKey = true ↔
      ∃ g, fs[i]? = some g ∧ g.name = name ∧ ∀ g' ∈ fs.take i, g'.name ≠ name := by
  induction fs generalizing i with
  | nil => cases h
  | cons g fs ih =>
    rw [List.forall_mem_cons] at hunmarked
    rw [List.map_cons, markKey] at h
    split at h
    next hname =>
      have hname : g.name = name := hname
      cases i with
      | zero =>
        cases h
        simp [hname]
      | succ i =>
        have hunmarked : ∀ f ∈ fs.map mapped, f.isKey = false := by
          simpa [mapped] using hunmarked.2
        simp [hunmarked f (List.mem_of_getElem? h), hname]
    next hname =>
      have hname : g.name ≠ name := hname
      cases i with
      | zero =>
        cases h
        simp [mapped, hname, hunmarked.1]
      | succ i =>
        rw [ih hunmarked.2 h]
        simp [hname]

theorem inferKey_of_marked (hmarked : ∃ g ∈ fs, .id ∈ g.options) :
    inferKey (fs.map mapped) = fs.map mapped := by
  have hany : (fs.map mapped).any MappedField.isKey = true := by
    simpa [mapped] using hmarked
  rw [inferKey, if_pos hany]

theorem inferKey_of_unmarked (hunmarked : ∀ g ∈ fs, .id ∉ g.options) :
    inferKey (fs.map mapped) = markKey "id" (fs.map mapped) := by
  have hany : (fs.map mapped).any MappedField.isKey = false := by
    simpa [mapped] using hunmarked
  rw [inferKey, hany, if_neg Bool.false_ne_true]

/-- The key of mapped fields is the one that their options ask for. -/
theorem isKey_inferKey (h : (inferKey (fs.map mapped))[i]? = some f) :
    f.isKey = true ↔ KeyAt fs i := by
  by_cases hmarked : ∃ g ∈ fs, .id ∈ g.options
  · rw [inferKey_of_marked hmarked, List.getElem?_map, Option.map_eq_some_iff] at h
    obtain ⟨g, hg, rfl⟩ := h
    constructor
    · intro hkey
      exact .marked hg (of_decide_eq_true hkey)
    · rintro (⟨hplace, hmark⟩ | ⟨hunmarked, -, -, -⟩)
      · rw [hg] at hplace
        cases hplace
        exact decide_eq_true hmark
      · obtain ⟨g', hg', hmark⟩ := hmarked
        exact absurd hmark (hunmarked g' hg')
  · have hunmarked : ∀ g ∈ fs, .id ∉ g.options := fun g hg hmark => hmarked ⟨g, hg, hmark⟩
    rw [inferKey_of_unmarked hunmarked] at h
    rw [isKey_markKey hunmarked h]
    constructor
    · rintro ⟨g, hplace, hname, hfirst⟩
      exact .named hunmarked hplace hname hfirst
    · rintro (⟨hplace, hmark⟩ | ⟨-, hplace, hname, hfirst⟩)
      · exact absurd hmark (hunmarked _ (List.mem_of_getElem? hplace))
      · exact ⟨_, hplace, hname, hfirst⟩

end OptionedField

/-! ## Declarations and their mappings -/

/-- The attributes of a declared field give it the options that it has. -/
structure DeclaredField.Gives (f : DeclaredField τ) (g : OptionedField τ) : Prop where
  name_eq : f.name = g.name
  type_eq : f.type = g.type
  given : FieldOption.Given f.attributes g.options

/-- A declaration that can be mapped: a struct without parameters, of a table if one is named, with
fields that have a name each and the options given at them. -/
structure Declares (d : Declaration τ) (table : Option String) (fs : List (OptionedField τ)) :
    Prop where
  shape_eq : d.shape = .named
  isGeneric_eq : d.isGeneric = false
  table_eq : tableOfAttributes d.attributes = .ok table
  fields : List.Forall₂ DeclaredField.Gives d.fields fs

/-- A field is the same but for the order of its options. -/
structure OptionedField.Same (f g : OptionedField τ) : Prop where
  name_eq : f.name = g.name
  type_eq : f.type = g.type
  rearranged : FieldOption.Rearranged f.options g.options

end Declaration

open Declaration

variable {τ : Type}

/-- Values of a mapping are stored in the columns of the fields that are not skipped, once the types
of fields are told. -/
structure Mapping.Stores (m : Mapping τ) (fs : List (OptionedField τ)) (types : τ → FieldType) :
    Prop where
  fields : (m.typed types).toEntity.fields.map (fun f => (f.property, f.column, f.type)) =
    (OptionedField.unskipped fs).map fun f => (f.name, f.column, types f.type)
  /-- A value fills these columns, each where it comes first. -/
  filled : ∀ (σ : String → Type) (x : Instance (m.typed types) σ),
    x.toRecord.columns.map Prod.fst =
      ((OptionedField.unskipped fs).map OptionedField.column).eraseDups
  /-- Where no two of these are one column, a value fills them with the cells of its row. -/
  written : ((OptionedField.unskipped fs).map OptionedField.column).Nodup →
    ∀ (σ : String → Type) (x : Instance (m.typed types) σ), x.toRecord = ⟨x.row.cells⟩
  /-- A value that is read has in each field what is in the field's column, and in its skipped
  fields the defaults of their types. -/
  read : ((OptionedField.unskipped fs).map OptionedField.column).Nodup →
    ∀ (σ : String → Type) [∀ name, Inhabited (σ name)] (r : Record)
      (x : Instance (m.typed types) σ),
      Instance.ofRecord r = .ok x ↔ x.row.ReadFrom r ∧ ∀ name h, x.skipped name h = default

/-- A mapping of fields: what describes it, what is read and what is written. -/
structure Mapping.Views (m : Mapping τ) (name : String) (table : Option String)
    (fs : List (OptionedField τ)) : Prop where
  name_eq : m.name = name
  table_eq : m.table = table.getD (Text.SnakeCase.ofName name)
  described : m.described.map (fun f => (f.property, f.column, f.type)) =
    (OptionedField.unskipped fs).map fun f => (f.name, f.column, f.type)
  keys : ∀ i f, m.described[i]? = some f →
    (f.isKey = true ↔ OptionedField.KeyAt (OptionedField.unskipped fs) i)
  reads : m.reads = (OptionedField.unskipped fs).map (fun f => (f.name, some f.column)) ++
    (OptionedField.skipped fs).map (fun f => (f.name, none))
  writes : m.writes = (OptionedField.unskipped fs).map fun f => (f.column, f.name)
  stores : ∀ types : τ → FieldType, m.Stores fs types

/-- What becomes of a struct with the given fields. -/
inductive Mapped (name : String) (table : Option String) (fs : List (OptionedField τ)) :
    Except Fault (Mapping τ) → Prop
  | refused (clash : ∃ f ∈ fs, f.Clashes) : Mapped name table fs (.error .keySkipped)
  | accepted {m : Mapping τ} (clear : ∀ f ∈ fs, ¬f.Clashes) (views : m.Views name table fs) :
    Mapped name table fs (.ok m)

namespace Declaration

variable {d : Declaration τ} {table : Option String} {fs : List (OptionedField τ)}

/-- The mapping that the given placements make. -/
def gather (name : String) (table : Option String) (ps : List (Placement τ)) : Mapping τ where
  name := name
  table := table.getD (Text.SnakeCase.ofName name)
  mapped := inferKey (ps.filterMap Placement.mapped?)
  skipped := ps.filterMap Placement.skipped?

theorem Declares.mapping_eq (h : d.Declares table fs) :
    d.mapping = (fs.mapM OptionedField.placement).map (gather d.name table) := by
  have hplacements : d.fields.mapM DeclaredField.placement =
      fs.mapM OptionedField.placement := by
    apply mapM_eq_of_forall₂
    refine h.fields.imp ?_
    intro f g hfield
    rw [DeclaredField.placement, FieldOption.ofAttributes_eq_ok_iff.2 hfield.given,
      hfield.name_eq, hfield.type_eq]
    rfl
  rw [mapping, h.isGeneric_eq, if_neg Bool.false_ne_true, h.shape_eq]
  simp only [h.table_eq, hplacements]
  cases fs.mapM OptionedField.placement <;> rfl

theorem mapped_gather (name : String) (table : Option String) (fs : List (OptionedField τ)) :
    (gather name table (fs.map OptionedField.placed)).mapped =
      inferKey ((OptionedField.unskipped fs).map OptionedField.mapped) := by
  rw [gather, OptionedField.filterMap_mapped?_placed]

theorem skipped_gather (name : String) (table : Option String) (fs : List (OptionedField τ)) :
    (gather name table (fs.map OptionedField.placed)).skipped =
      (OptionedField.skipped fs).map OptionedField.name := by
  rw [gather, OptionedField.filterMap_skipped?_placed]

theorem stores_gather (name : String) (table : Option String) (fs : List (OptionedField τ))
    (types : τ → FieldType) :
    (gather name table (fs.map OptionedField.placed)).Stores fs types := by
  have hfields : ((gather name table (fs.map OptionedField.placed)).typed
      types).toEntity.fields.map (fun f => (f.property, f.column, f.type)) =
      (OptionedField.unskipped fs).map fun f => (f.name, f.column, types f.type) := by
    rw [Mapping.fields_typed, mapped_gather, List.map_map, map_inferKey fun _ => rfl, List.map_map]
    rfl
  have hcolumns : ((gather name table (fs.map OptionedField.placed)).typed
      types).toEntity.fields.map Field.column =
      (OptionedField.unskipped fs).map OptionedField.column := by
    have h := congrArg (List.map fun view => view.2.1) hfields
    rw [List.map_map, List.map_map] at h
    exact h
  refine ⟨hfields, fun σ x => ?_, fun hnodup σ x => ?_, fun hnodup σ _ r x => ?_⟩
  · rw [← hcolumns]
    exact x.row.columns_toRecord
  · rw [← hcolumns] at hnodup
    exact x.row.toRecord_eq hnodup
  · rw [← hcolumns] at hnodup
    exact Instance.ofRecord_eq_ok_iff hnodup

/-- The views look at the same fields, and finding the key changes nothing that they tell of those
but which one it is. -/
theorem views_gather (name : String) (table : Option String) (fs : List (OptionedField τ)) :
    (gather name table (fs.map OptionedField.placed)).Views name table fs where
  name_eq := rfl
  table_eq := rfl
  described := by
    rw [Mapping.described, mapped_gather, map_inferKey fun _ => rfl, List.map_map]
    rfl
  keys := by
    intro i f hplace
    rw [Mapping.described, mapped_gather] at hplace
    exact OptionedField.isKey_inferKey hplace
  reads := by
    rw [Mapping.reads, mapped_gather, skipped_gather, map_inferKey fun _ => rfl, List.map_map,
      List.map_map]
    rfl
  writes := by
    rw [Mapping.writes, mapped_gather, map_inferKey fun _ => rfl, List.map_map]
    rfl
  stores := stores_gather name table fs

theorem Declares.mapped (h : d.Declares table fs) : Mapped d.name table fs d.mapping := by
  rw [h.mapping_eq]
  by_cases hclash : ∃ f ∈ fs, f.Clashes
  · rw [OptionedField.mapM_placement_of_clashes hclash]
    exact .refused hclash
  · have hclear : ∀ f ∈ fs, ¬f.Clashes := fun f hf hf' => hclash ⟨f, hf, hf'⟩
    rw [OptionedField.mapM_placement_of_not_clashes hclear]
    exact .accepted hclear (views_gather d.name table fs)

/-- Two declarations of the same fields have the same mapping. -/
theorem Declares.mapping_congr {d' : Declaration τ} {fs' : List (OptionedField τ)}
    (h : d.Declares table fs) (h' : d'.Declares table fs') (hname : d'.name = d.name)
    (hfields : List.Forall₂ OptionedField.Same fs fs') : d'.mapping = d.mapping := by
  have hplacements : fs.mapM OptionedField.placement = fs'.mapM OptionedField.placement := by
    apply mapM_eq_of_forall₂
    refine hfields.imp ?_
    intro f g hfield
    rw [OptionedField.placement, OptionedField.placement, hfield.name_eq, hfield.type_eq,
      Options.ofList_congr hfield.rearranged]
  rw [h.mapping_eq, h'.mapping_eq, hname, hplacements]

/-- What becomes of a struct is told by the options of its fields, and however else these are spread
over attributes or ordered, it is the same. -/
theorem mapping_outcome (h : d.Declares table fs) :
    Mapped d.name table fs d.mapping ∧
      ∀ (d' : Declaration τ) (fs' : List (OptionedField τ)), d'.Declares table fs' →
        d'.name = d.name → List.Forall₂ OptionedField.Same fs fs' → d'.mapping = d.mapping := by
  refine ⟨h.mapped, ?_⟩
  intro d' fs' h' hname hfields
  exact h.mapping_congr h' hname hfields

/-- An attribute of the mapping. -/
def ormAttribute (ts : List Token) : Attribute := ⟨⟨false, [("orm", false)]⟩, .arguments ts⟩

/-- The tokens that give a name to what is named first. -/
def naming (what name : String) : List Token :=
  [.word what, .mark '=' false, .literal (s!"\"{name}\"") (.text name)]

/-- A struct of the table `stock` whose code has the given attributes. -/
def item (attributes : List Attribute) : Declaration FieldType where
  shape := .named
  name := "Item"
  isGeneric := false
  attributes := [ormAttribute (naming "table" "stock")]
  fields := [⟨"code", ⟨.text, false⟩, attributes⟩, ⟨"id", ⟨.int64, false⟩, []⟩,
    ⟨"cache", ⟨.text, false⟩, [ormAttribute [.word "skip"]]⟩]

/-- The fields of an item whose code has the given options. -/
def itemFields (options : List FieldOption) : List (OptionedField FieldType) :=
  [⟨"code", ⟨.text, false⟩, options⟩, ⟨"id", ⟨.int64, false⟩, []⟩,
    ⟨"cache", ⟨.text, false⟩, [.skip]⟩]

theorem declares_item {attributes : List Attribute} {options : List FieldOption}
    (h : FieldOption.Given attributes options) :
    (item attributes).Declares (some "stock") (itemFields options) where
  shape_eq := rfl
  isGeneric_eq := rfl
  table_eq := (@TableGiven.some [] [] _ _ _ _ nofun rfl rfl).tableOfAttributes_eq
  fields := by
    have hskip : FieldOption.Given [ormAttribute [.word "skip"]] [.skip] :=
      .mapping rfl rfl (.last .skip) .nil
    exact .cons ⟨rfl, rfl, h⟩ (.cons ⟨rfl, rfl, .nil⟩ (.cons ⟨rfl, rfl, hskip⟩ .nil))

/-- A code that is the key, of two columns, in two attributes behind a comment. -/
def grouped : List Attribute :=
  [⟨⟨false, [("doc", false)]⟩, .value⟩,
    ormAttribute (.word "id" :: .mark ',' false :: naming "column" "old"),
    ormAttribute (naming "column" "code_no" ++ [.mark ',' false])]

/-- The same in one attribute and in another order. -/
def regrouped : List Attribute :=
  [ormAttribute (naming "column" "old" ++ .mark ',' false ::
    (naming "column" "code_no" ++ [.mark ',' false, .word "id"]))]

theorem given_grouped : FieldOption.Given grouped [.id, .column "old", .column "code_no"] :=
  .other rfl (.mapping rfl rfl (.more false .id (.last (.column ..)))
    (.mapping rfl rfl (.more false (.column ..) .nil) .nil))

theorem given_regrouped :
    FieldOption.Given regrouped [.column "old", .column "code_no", .id] :=
  .mapping rfl rfl (.more false (.column ..) (.more false (.column ..) (.last .id))) .nil

/-- An item is stored without its cache and under its code, which has the last column given. -/
theorem mapping_item :
    (∃ m, (item grouped).mapping = .ok m ∧
      m.reads = [("code", some "code_no"), ("id", some "id"), ("cache", none)] ∧
      m.writes = [("code_no", "code"), ("id", "id")] ∧
      ∀ (σ : String → Type) (x : Instance (m.typed id) σ),
        x.toRecord.columns.map Prod.fst = ["code_no", "id"]) ∧
    (item regrouped).mapping = (item grouped).mapping := by
  obtain ⟨hmapped, hregrouped⟩ := mapping_outcome (declares_item given_grouped)
  constructor
  · generalize (item grouped).mapping = result at hmapped
    cases hmapped with
    | refused clash =>
      obtain ⟨f, hf, hclash⟩ := clash
      simp only [itemFields, List.mem_cons, List.not_mem_nil, or_false] at hf
      rcases hf with rfl | rfl | rfl <;> simp [OptionedField.Clashes] at hclash
    | @accepted m _ views => exact ⟨m, rfl, views.reads, views.writes, (views.stores id).filled⟩
  · refine hregrouped _ _ (declares_item given_regrouped) rfl ?_
    have hcode : FieldOption.Rearranged [.id, .column "old", .column "code_no"]
        [.column "old", .column "code_no", .id] := ⟨by decide, rfl⟩
    have hsame (os : List FieldOption) : FieldOption.Rearranged os os := ⟨.refl os, rfl⟩
    exact .cons ⟨rfl, rfl, hcode⟩ (.cons ⟨rfl, rfl, hsame []⟩
      (.cons ⟨rfl, rfl, hsame [.skip]⟩ .nil))

end Declaration

end Sift
