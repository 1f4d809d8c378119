import Mathlib.Data.List.Nodup
import Sift.Condition.Sql

/-!
# Binding values one after another

`Params.bindAll` binds a list of values under the names that one leading text gives out. It is what
every part of a statement does to the parameters, so their names, values and places follow from the
lists that were bound. Statements use two leading texts; `Params.nodup_names` says that no name is
given out twice.
-/
namespace Sift

namespace Params

/-- Bind values in order. -/
def bindAll (stem : String) (vs : List Value) (ps : Params) : Params :=
  vs.foldl (fun ps v => (ps.bind stem v).2) ps

/-- The names in order. -/
def names (ps : Params) : List String := ps.toList.map Param.name

/-- The names with their positions. -/
def slots (ps : Params) : List Slot := ps.names.zipIdx.map fun (name, i) => ⟨name, i + 1⟩

/-- The value at a position; null past the end. -/
def valueAt (ps : Params) (slot : Slot) : Value := (ps.values[slot.position - 1]?).getD .null

/-- The next names that a leading text gives out after `issued` ones. -/
def namesFrom (stem : String) (issued count : Nat) : List String :=
  (List.range' (issued + 1) count).map fun n => stem ++ toString n

@[simp] theorem bindAll_nil (stem : String) (ps : Params) : ps.bindAll stem [] = ps := rfl

@[simp] theorem bindAll_cons (stem : String) (v : Value) (vs : List Value) (ps : Params) :
    ps.bindAll stem (v :: vs) = (ps.bind stem v).2.bindAll stem vs := rfl

@[simp] theorem bindAll_append (stem : String) (vs ws : List Value) (ps : Params) :
    ps.bindAll stem (vs ++ ws) = (ps.bindAll stem vs).bindAll stem ws := by
  simp [bindAll]

/-! ## Counters -/

theorem lookup_cons_eq_ite (s k : String) (m : Nat) (rest : List (String × Nat)) :
    ((k, m) :: rest).lookup s = if s = k then some m else rest.lookup s := by
  by_cases h : s = k
  · simp [h]
  · have hne : (s == k) = false := by simpa using h
    simp [List.lookup_cons, h, hne]

theorem lookup_setCounter (stem s : String) (n : Nat) (counters : List (String × Nat)) :
    (setCounter stem n counters).lookup s = if s = stem then some n else counters.lookup s := by
  induction counters with
  | nil => simp [setCounter, lookup_cons_eq_ite]
  | cons entry rest ih =>
    obtain ⟨k, m⟩ := entry
    by_cases hk : k = stem
    · subst hk
      by_cases h : s = k <;> simp [setCounter, lookup_cons_eq_ite, h]
    · rw [setCounter, if_neg hk, lookup_cons_eq_ite, lookup_cons_eq_ite, ih]
      by_cases hs : s = k
      · subst hs
        simp [hk]
      · simp [hs]

theorem issued_bind (stem s : String) (v : Value) (ps : Params) :
    (ps.bind stem v).2.issued s = if s = stem then ps.issued stem + 1 else ps.issued s := by
  simp only [issued, bind, lookup_setCounter]
  split <;> rfl

theorem issued_bindAll (stem : String) (vs : List Value) (ps : Params) :
    (ps.bindAll stem vs).issued stem = ps.issued stem + vs.length := by
  induction vs generalizing ps with
  | nil => rfl
  | cons v vs ih =>
    rw [bindAll_cons, ih, issued_bind, if_pos rfl, List.length_cons]
    omega

/-- The counters of other leading texts stay as they are. -/
theorem lookup_counters_bindAll {stem s : String} (h : s ≠ stem) (vs : List Value)
    (ps : Params) : (ps.bindAll stem vs).counters.lookup s = ps.counters.lookup s := by
  induction vs generalizing ps with
  | nil => rfl
  | cons v vs ih => rw [bindAll_cons, ih, bind, lookup_setCounter, if_neg h]

/-- Each leading text counts for itself. -/
theorem issued_bindAll_of_ne {stem s : String} (h : s ≠ stem) (vs : List Value) (ps : Params) :
    (ps.bindAll stem vs).issued s = ps.issued s := by
  rw [issued, lookup_counters_bindAll h, issued]

/-! ## Names, values and places -/

theorem values_bindAll (stem : String) (vs : List Value) (ps : Params) :
    (ps.bindAll stem vs).values = ps.values ++ vs := by
  induction vs generalizing ps with
  | nil => simp
  | cons v vs ih =>
    rw [bindAll_cons, ih]
    simp [values]

theorem names_bindAll (stem : String) (vs : List Value) (ps : Params) :
    (ps.bindAll stem vs).names = ps.names ++ namesFrom stem (ps.issued stem) vs.length := by
  induction vs generalizing ps with
  | nil => simp [namesFrom]
  | cons v vs ih =>
    rw [bindAll_cons, ih, issued_bind, if_pos rfl]
    simp [names, namesFrom, List.range'_succ]

/-- Values with the names that a leading text gives out when none of its names is taken. -/
def numbered (stem : String) (vs : List Value) : List Param :=
  vs.zipIdx.map fun (v, i) => ⟨stem ++ toString (i + 1), v⟩

theorem getElem?_numbered (stem : String) (vs : List Value) (k : Nat) :
    (numbered stem vs)[k]? = vs[k]?.map fun v => ⟨stem ++ toString (k + 1), v⟩ := by
  rw [numbered, List.getElem?_map, List.getElem?_zipIdx, Option.map_map, Nat.zero_add]
  rfl

theorem toList_bindAll (stem : String) (vs : List Value) (ps : Params) :
    (ps.bindAll stem vs).toList =
      ps.toList ++ vs.zipIdx.map fun (v, i) => ⟨stem ++ toString (ps.issued stem + i + 1), v⟩ := by
  induction vs generalizing ps with
  | nil => simp
  | cons v vs ih =>
    rw [bindAll_cons, ih, issued_bind, if_pos rfl, toList_bind, name_bind, List.zipIdx_cons',
      List.map_cons, List.map_map, List.append_assoc]
    refine congrArg (ps.toList ++ ·) (congrArg (_ :: ·) (List.map_congr_left fun entry _ => ?_))
    simp only [Function.comp_apply, Prod.map, id_eq]
    rw [Nat.add_right_comm (ps.issued stem) 1 entry.2, Nat.add_assoc (ps.issued stem) entry.2 1]

theorem toList_bindAll_empty (stem : String) (vs : List Value) :
    (empty.bindAll stem vs).toList = numbered stem vs := by
  have hissued : empty.issued stem = 0 := rfl
  rw [toList_bindAll, toList_empty, hissued, List.nil_append, numbered]
  simp only [Nat.zero_add]

theorem slots_bind (stem : String) (v : Value) (ps : Params) :
    (ps.bind stem v).2.slots = ps.slots ++ [(ps.bind stem v).1] := by
  simp [slots, names, List.zipIdx_append, bind, toList]

theorem length_slots (ps : Params) : ps.slots.length = ps.values.length := by
  simp [slots, names, values]

/-- Every slot finds the value that is bound under it. -/
theorem map_valueAt_slots (ps : Params) : ps.slots.map ps.valueAt = ps.values := by
  apply List.ext_getElem
  · simp [slots, names, values]
  · intro i hi hv
    simp [slots, valueAt, hv]

/-! ## Names are given out once -/

theorem toString_injective {m n : Nat} (h : toString m = toString n) : m = n := by
  have hdigits : Nat.toDigits 10 m = Nat.toDigits 10 n := by
    rw [← Nat.toList_repr, ← Nat.toList_repr, ← Nat.toString_eq_repr, ← Nat.toString_eq_repr, h]
  rw [← Nat.ofDigitChars_ten_toDigits (n := m), hdigits, Nat.ofDigitChars_ten_toDigits]

theorem nodup_namesFrom (stem : String) (issued count : Nat) :
    (namesFrom stem issued count).Nodup := by
  refine List.Nodup.map ?_ List.nodup_range'
  intro m n h
  exact toString_injective (by simpa using h)

/-- Assigned values and constants of a filter have different names, whatever their numbers. -/
theorem nodup_names (assigned constants : List Value) :
    ((empty.bindAll assignmentStem assigned).bindAll filterStem constants).names.Nodup := by
  rw [names_bindAll, names_bindAll, List.nodup_append]
  refine ⟨by simpa [names] using nodup_namesFrom .., nodup_namesFrom .., ?_⟩
  intro x hx y hy hxy
  simp only [names, toList_empty, List.map_nil, List.nil_append, namesFrom, List.mem_map] at hx hy
  obtain ⟨m, -, rfl⟩ := hx
  obtain ⟨n, -, rfl⟩ := hy
  have hfirst := congrArg (fun s => s.toList.head?) hxy
  simp [assignmentStem, filterStem] at hfirst

/-- Names that are given out once find their values. -/
theorem get?_of_nodup {ps : Params} (h : ps.names.Nodup) {k : Nat} {p : Param}
    (hk : ps.toList[k]? = some p) : ps.get? p.name = some p.value := by
  unfold get?
  unfold names at h
  generalize ps.toList = entries at h hk
  induction entries generalizing k with
  | nil => simp at hk
  | cons q rest ih =>
    rw [List.map_cons, List.nodup_cons] at h
    cases k with
    | zero =>
      obtain rfl : q = p := by simpa using hk
      simp
    | succ k =>
      rw [List.getElem?_cons_succ] at hk
      have hne : q.name ≠ p.name := by
        intro he
        exact h.1 (he ▸ List.mem_map_of_mem (List.mem_of_getElem? hk))
      rw [List.find?_cons_of_neg (by simpa using hne)]
      exact ih h.2 hk

end Params

end Sift
