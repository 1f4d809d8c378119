import Sift.Proofs.Refusal

/-!
# Which mappings have a table

A mapping has a table if it has fields, exactly one of them is marked as key and no property is
mapped twice, `Entity.Sound`. Every other mapping is refused for the first of these that fails,
`Entity.Fault`. The table describes the mapping under its dialect: which field is the key, what each
column is called in a statement, and which names and columns have a field, `Table.Describes`.
-/
namespace Sift

/-! ## The first name that repeats an earlier one -/

section FirstRepeat

variable {seen before rest names : List String} {p : String}

/-- Names that repeat nothing are passed over. -/
theorem firstRepeat?_append (hnodup : before.Nodup) (hunseen : ∀ q ∈ before, q ∉ seen) :
    firstRepeat? seen (before ++ rest) = firstRepeat? (before.reverse ++ seen) rest := by
  induction before generalizing seen with
  | nil => rfl
  | cons q before ih =>
    obtain ⟨hq, hnodup⟩ := List.nodup_cons.1 hnodup
    rw [List.forall_mem_cons] at hunseen
    have hunseen' : ∀ r ∈ before, r ∉ q :: seen := by
      intro r hr hmem
      rcases List.mem_cons.1 hmem with rfl | hseen
      · exact hq hr
      · exact hunseen.2 r hr hseen
    rw [List.cons_append, firstRepeat?, if_neg hunseen.1, ih hnodup hunseen', List.reverse_cons,
      List.append_assoc, List.singleton_append]

/-- What comes before the first repetition repeats nothing. -/
theorem exists_split_of_firstRepeat? (h : firstRepeat? seen names = some p) :
    ∃ before after, names = before ++ p :: after ∧ before.Nodup ∧ (∀ q ∈ before, q ∉ seen) ∧
      (p ∈ before ∨ p ∈ seen) := by
  induction names generalizing seen with
  | nil => cases h
  | cons q names ih =>
    rw [firstRepeat?] at h
    split at h
    next hq =>
      cases h
      exact ⟨[], names, rfl, .nil, by simp, .inr hq⟩
    next hq =>
      obtain ⟨before, after, rfl, hnodup, hunseen, hp⟩ := ih h
      have hq' : q ∉ before := fun hmem => hunseen q hmem (List.mem_cons_self ..)
      refine ⟨q :: before, after, rfl, List.nodup_cons.2 ⟨hq', hnodup⟩, ?_, ?_⟩
      · rw [List.forall_mem_cons]
        exact ⟨hq, fun r hr hseen => hunseen r hr (List.mem_cons_of_mem q hseen)⟩
      · simp only [List.mem_cons] at hp ⊢
        tauto

end FirstRepeat

/-! ## Sound mappings -/

namespace Entity

variable {e : Entity} {err : Error}

/-- A mapping that a table can be made of. -/
structure Sound (e : Entity) : Prop where
  nonempty : e.fields ≠ []
  oneKey : e.fields.countP Field.isKey = 1
  distinct : e.properties.Nodup

/-- The first thing that is wrong with a mapping: its lack of fields, then its lack of a key, then
its keys if there are several, then the first field whose property an earlier one has. -/
inductive Fault (e : Entity) : Error → Prop
  | noFields (empty : e.fields = []) :
      Fault e (.configuration s!"entity '{e.name}' declares no fields")
  | noKey (nonempty : e.fields ≠ []) (unmarked : ∀ f ∈ e.fields, f.isKey = false) :
      Fault e (.configuration s!"entity '{e.name}' declares no primary key")
  | manyKeys {marked : List Field} (all : e.fields.filter Field.isKey = marked)
      (many : 2 ≤ marked.length) :
      Fault e (.configuration (s!"entity '{e.name}' declares {marked.length} primary keys (" ++
        ", ".intercalate (marked.map Field.property) ++ "); exactly one is supported"))
  | repeated {before after : List Field} {f : Field} (oneKey : e.fields.countP Field.isKey = 1)
      (split : e.fields = before ++ f :: after) (distinct : (before.map Field.property).Nodup)
      (again : ∃ g ∈ before, g.property = f.property) :
      Fault e (.configuration s!"entity '{e.name}' maps property '{f.property}' twice")

theorem keys_eq_nil_iff : e.keys = [] ↔ ∀ f ∈ e.fields, f.isKey = false := by
  simp [keys]

theorem countP_isKey (e : Entity) : e.fields.countP Field.isKey = e.keys.length :=
  List.countP_eq_length_filter

theorem fields_ne_nil_of_keys (h : 0 < e.keys.length) : e.fields ≠ [] := by
  intro hfields
  simp [keys, hfields] at h

/-- What is wrong with a mapping keeps it from being sound. -/
theorem Fault.not_sound (h : e.Fault err) : ¬e.Sound := by
  rintro ⟨hnonempty, hkey, hdistinct⟩
  cases h with
  | noFields empty => exact hnonempty empty
  | noKey nonempty unmarked =>
    rw [countP_isKey, keys_eq_nil_iff.2 unmarked] at hkey
    cases hkey
  | manyKeys all many =>
    rw [List.countP_eq_length_filter, all] at hkey
    omega
  | repeated oneKey split distinct again =>
    obtain ⟨g, hg, hproperty⟩ := again
    rw [properties, split, List.map_append, List.nodup_append] at hdistinct
    exact hdistinct.2.2 g.property (List.mem_map_of_mem hg) _ (List.mem_cons_self ..) hproperty

end Entity

namespace Table

variable {t : Table} {e : Entity} {d : Dialect} {fault : MappingFault} {err : Error}

theorem sound (t : Table) : t.entity.Sound where
  nonempty := t.fields_ne_nil
  oneKey := by rw [Entity.countP_isKey, t.keys_eq]; rfl
  distinct := t.distinct

/-- A refused mapping has the fault that it is refused for. -/
theorem fault_of_build (h : build e d = .error fault) :
    e.Fault (.configuration (fault.message e.name)) := by
  unfold build at h
  split at h
  next hempty =>
    cases h
    exact .noFields (List.isEmpty_iff.1 hempty)
  next hnonempty =>
    rw [List.isEmpty_iff] at hnonempty
    split at h
    next hkeys =>
      cases h
      exact .noKey hnonempty (Entity.keys_eq_nil_iff.1 hkeys)
    next key hkeys =>
      split at h
      next property hrepeat =>
        cases h
        obtain ⟨names, _, hsplit, hnodup, -, hagain⟩ := exists_split_of_firstRepeat? hrepeat
        obtain ⟨before, rest, hfields, rfl, hrest⟩ := List.map_eq_append_iff.1 hsplit
        obtain ⟨f, after, rfl, rfl, -⟩ := List.map_eq_cons_iff.1 hrest
        have hone : e.fields.countP Field.isKey = 1 := by rw [Entity.countP_isKey, hkeys]; rfl
        exact .repeated hone hfields hnodup
          (List.mem_map.1 (hagain.resolve_right List.not_mem_nil))
      next => cases h
    next first second more hkeys =>
      cases h
      have hmany := Entity.Fault.manyKeys hkeys (by simp)
      rwa [← List.length_map Field.property] at hmany

theorem build_of_keys_eq_nil (hfields : e.fields ≠ []) (hkeys : e.keys = []) (d : Dialect) :
    build e d = .error .noKey := by
  unfold build
  rw [if_neg (by simpa using hfields)]
  split
  next => rfl
  next hone => simp [hkeys] at hone
  next hmany => simp [hkeys] at hmany

theorem build_of_two_le_length_keys (hkeys : 2 ≤ e.keys.length) (d : Dialect) :
    build e d = .error (.manyKeys (e.keys.map Field.property)) := by
  have hfields : e.fields ≠ [] := Entity.fields_ne_nil_of_keys (by omega)
  unfold build
  rw [if_neg (by simpa using hfields)]
  split
  next hnone => simp [hnone] at hkeys
  next hone => simp [hone] at hkeys
  next hmany => rw [hmany]

theorem build_of_repeated {property : String} (hkeys : e.keys.length = 1)
    (hrepeat : firstRepeat? [] e.properties = some property) (d : Dialect) :
    build e d = .error (.repeated property) := by
  have hfields : e.fields ≠ [] := Entity.fields_ne_nil_of_keys (by omega)
  unfold build
  rw [if_neg (by simpa using hfields)]
  split
  next hnone => simp [hnone] at hkeys
  next key _ =>
    split
    next property' hproperty =>
      obtain rfl := Option.some.inj (hrepeat.symm.trans hproperty)
      rfl
    next hnone => simp [hrepeat] at hnone
  next hmany => simp [hmany] at hkeys

/-- A mapping with a fault is refused for it. -/
theorem build_of_fault (h : e.Fault err) (d : Dialect) :
    ∃ fault, build e d = .error fault ∧ .configuration (fault.message e.name) = err := by
  cases h with
  | noFields empty => exact ⟨.noFields, if_pos (List.isEmpty_iff.2 empty), rfl⟩
  | noKey nonempty unmarked =>
    exact ⟨.noKey, build_of_keys_eq_nil nonempty (Entity.keys_eq_nil_iff.2 unmarked) d, rfl⟩
  | @manyKeys marked all many =>
    obtain rfl : e.keys = marked := all
    refine ⟨_, build_of_two_le_length_keys many d, ?_⟩
    rw [MappingFault.message, List.length_map]
  | @repeated before after f oneKey split distinct again =>
    have hrepeat : firstRepeat? [] e.properties = some f.property := by
      rw [Entity.properties, split, List.map_append, firstRepeat?_append distinct (by simp)]
      exact if_pos (by simpa using again)
    rw [Entity.countP_isKey] at oneKey
    exact ⟨.repeated f.property, build_of_repeated oneKey hrepeat d, rfl⟩

theorem ofEntity_eq_error_iff : ofEntity e d = .error err ↔ e.Fault err := by
  rw [ofEntity, mapError_eq_error_iff]
  constructor
  · rintro ⟨fault, hbuild, rfl⟩
    exact fault_of_build hbuild
  · intro h
    exact build_of_fault h d

theorem exists_ofEntity_iff : (∃ t, ofEntity e d = .ok t) ↔ e.Sound := by
  constructor
  · rintro ⟨t, ht⟩
    rw [← (eq_of_ofEntity ht).1]
    exact t.sound
  · intro hsound
    cases hresult : ofEntity e d with
    | ok t => exact ⟨t, rfl⟩
    | error err => exact absurd hsound (ofEntity_eq_error_iff.1 hresult).not_sound

/-! ## What a table says about its mapping -/

/-- A place holds the key, and no other holds a field that is marked as one. -/
def KeyAt (t : Table) (i : ℕ) : Prop :=
  t.fields[i]? = some t.key ∧
    ∀ (j : ℕ) (f : Field), t.fields[j]? = some f → (f.isKey = true ↔ j = i)

/-- A table describes a mapping under a dialect. The key is at the one place where a field is
marked; names find the field that is mapped under them, columns the first field that is stored in
them. -/
structure Describes (t : Table) (e : Entity) (d : Dialect) : Prop where
  fields : t.fields = e.fields
  quotedName : t.quotedName = d.quote e.table
  quotedColumns : t.fields.map t.quotedColumn = e.fields.map fun f => d.quote f.column
  key : ∃ i, t.KeyAt i
  mapped : ∀ f ∈ e.fields, t.field f.property = .ok f
  unmapped : ∀ name ∉ e.properties, t.field name = .error (.fieldNotFound e.name name)
  stored : ∀ column f, t.fieldOfColumn? column = some f ↔
    ∃ before after, e.fields = before ++ f :: after ∧ f.column = column ∧
      ∀ g ∈ before, g.column ≠ column
  notStored : ∀ column, t.fieldOfColumn? column = none ↔ ∀ f ∈ e.fields, f.column ≠ column

theorem exists_keyAt (t : Table) : ∃ i, t.KeyAt i := by
  have hkeys : t.fields.filter Field.isKey = [t.key] := t.keys_eq
  obtain ⟨before, after, hsplit, hbefore, hkey, hafter⟩ := List.filter_eq_cons_iff.1 hkeys
  rw [List.filter_eq_nil_iff] at hafter
  refine ⟨before.length, by simp [hsplit], fun j f hf => ?_⟩
  rw [hsplit] at hf
  rcases Nat.lt_trichotomy j before.length with hj | rfl | hj
  · rw [List.getElem?_append_left hj] at hf
    exact iff_of_false (hbefore f (List.mem_of_getElem? hf)) (Nat.ne_of_lt hj)
  · obtain rfl : t.key = f := by simpa using hf
    exact iff_of_true hkey rfl
  · obtain ⟨k, hk⟩ : ∃ k, j - before.length = k + 1 := ⟨j - before.length - 1, by omega⟩
    rw [List.getElem?_append_right (Nat.le_of_lt hj), hk, List.getElem?_cons_succ] at hf
    exact iff_of_false (hafter f (List.mem_of_getElem? hf)) (Nat.ne_of_gt hj)

/-- A column finds the first field that is stored in it. -/
theorem fieldOfColumn?_eq_some_iff {column : String} {f : Field} :
    t.fieldOfColumn? column = some f ↔ ∃ before after, t.entity.fields = before ++ f :: after ∧
      f.column = column ∧ ∀ g ∈ before, g.column ≠ column := by
  rw [fieldOfColumn?, List.find?_eq_some_iff_append]
  simp only [decide_eq_true_eq, Bool.not_eq_true', decide_eq_false_iff_not]
  constructor
  · rintro ⟨hcolumn, before, after, hsplit, hbefore⟩
    exact ⟨before, after, hsplit, hcolumn, hbefore⟩
  · rintro ⟨before, after, hsplit, hcolumn, hbefore⟩
    exact ⟨hcolumn, before, after, hsplit, hbefore⟩

theorem fieldOfColumn?_eq_none_iff {column : String} :
    t.fieldOfColumn? column = none ↔ ∀ f ∈ t.entity.fields, f.column ≠ column := by
  simp [fieldOfColumn?, fields]

theorem describes_of_ofEntity (h : ofEntity e d = .ok t) : t.Describes e d := by
  obtain ⟨rfl, rfl⟩ := eq_of_ofEntity h
  exact {
    fields := rfl
    quotedName := rfl
    quotedColumns := rfl
    key := t.exists_keyAt
    mapped := fun _ hf => field_eq_ok_iff.2 (field?_of_mem hf)
    unmapped := fun _ hname => field_eq_error hname
    stored := fun _ _ => fieldOfColumn?_eq_some_iff
    notStored := fun _ => fieldOfColumn?_eq_none_iff }

/-- Making the table of a mapping succeeds on the sound ones, describes them, and refuses every
other for the first thing that is wrong with it. -/
theorem ofEntity_outcome (e : Entity) (d : Dialect) :
    ((∃ t, ofEntity e d = .ok t) ↔ e.Sound) ∧ (∀ t, ofEntity e d = .ok t → t.Describes e d) ∧
      ∀ err, ofEntity e d = .error err ↔ e.Fault err :=
  ⟨exists_ofEntity_iff, fun _ => describes_of_ofEntity, fun _ => ofEntity_eq_error_iff⟩

example (d : Dialect) :
    ofEntity ⟨"TwoKeys", "t",
        [⟨"a", "a", ⟨.int64, false⟩, true⟩, ⟨"b", "b", ⟨.int64, false⟩, true⟩]⟩ d =
      .error (.configuration
        "entity 'TwoKeys' declares 2 primary keys (a, b); exactly one is supported") := by
  rfl

end Table

end Sift
