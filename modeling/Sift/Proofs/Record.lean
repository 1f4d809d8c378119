import Mathlib.Data.List.Induction
import Mathlib.Data.List.Nodup
import Sift.Entity

/-!
# Records as they are set

What is known of a record in which columns are set one by one: a column that was not there comes to
stand at the end, and nothing else comes in. Cells of different columns are a record as they are; of
several cells of one column the last is left, and once that has been taken out there is none. So a
row fills just the columns of its fields, `Row.columns_toRecord`.
-/
namespace Sift.Record

theorem setIn_ne_nil (column : String) (v : Value) (cells : List (String × Value)) :
    setIn column v cells ≠ [] := by
  cases cells with
  | nil => exact List.cons_ne_nil _ _
  | cons cell rest =>
    obtain ⟨c, w⟩ := cell
    rw [setIn]
    by_cases hc : c = column
    · rw [if_pos hc]
      exact List.cons_ne_nil _ _
    · rw [if_neg hc]
      exact List.cons_ne_nil _ _

/-- A column of a record in which one has been set is that one or was there before. -/
theorem mem_setIn {column : String} {v : Value} {cells : List (String × Value)}
    {cell : String × Value} (h : cell ∈ setIn column v cells) :
    cell.1 = column ∨ cell ∈ cells := by
  induction cells with
  | nil =>
    obtain rfl := List.mem_singleton.1 h
    exact .inl rfl
  | cons first rest ih =>
    obtain ⟨c, w⟩ := first
    rw [setIn] at h
    by_cases hc : c = column
    · rw [if_pos hc] at h
      rcases List.mem_cons.1 h with rfl | hrest
      · exact .inl hc
      · exact .inr (List.mem_cons_of_mem _ hrest)
    · rw [if_neg hc] at h
      rcases List.mem_cons.1 h with rfl | hrest
      · exact .inr (List.mem_cons_self ..)
      · rcases ih hrest with hcolumn | hmem
        · exact .inl hcolumn
        · exact .inr (List.mem_cons_of_mem _ hmem)

theorem setIn_of_notMem {column : String} (v : Value) {cells : List (String × Value)}
    (h : column ∉ cells.map Prod.fst) :
    setIn column v cells = cells ++ [(column, v)] := by
  induction cells with
  | nil => rfl
  | cons cell rest ih =>
    obtain ⟨c, w⟩ := cell
    simp only [List.map_cons, List.mem_cons, not_or] at h
    rw [setIn, if_neg (Ne.symm h.1), ih h.2]
    rfl

theorem foldl_set (before cells : List (String × Value))
    (h : ((before ++ cells).map Prod.fst).Nodup) :
    cells.foldl (fun r cell => r.set cell.1 cell.2) ⟨before⟩ = (⟨before ++ cells⟩ : Record) := by
  induction cells generalizing before with
  | nil => simp
  | cons cell rest ih =>
    have hcell : cell.1 ∉ before.map Prod.fst := by
      intro hmem
      rw [List.map_append, List.nodup_append] at h
      exact h.2.2 cell.1 hmem cell.1 (by simp) rfl
    have hset : (⟨before⟩ : Record).set cell.1 cell.2 = ⟨before ++ [cell]⟩ := by
      rw [Record.set, setIn_of_notMem cell.2 hcell]
    have hsplit : before ++ cell :: rest = before ++ [cell] ++ rest := by simp
    rw [List.foldl_cons, hset, hsplit]
    rw [hsplit] at h
    exact ih (before ++ [cell]) h

/-- Cells with different columns are a record as they are. -/
theorem ofList_eq {cells : List (String × Value)} (h : (cells.map Prod.fst).Nodup) :
    ofList cells = ⟨cells⟩ :=
  foldl_set [] cells h

/-! ## The order of columns -/

/-- A list grows at its end by what is new, if each member is to be kept once. -/
theorem eraseDups_concat {α : Type} [DecidableEq α] (as : List α) (a : α) :
    (as ++ [a]).eraseDups = if a ∈ as then as.eraseDups else as.eraseDups ++ [a] := by
  rw [List.eraseDups_append]
  by_cases h : a ∈ as
  · simp [List.removeAll, h]
  · simp [List.removeAll, h, List.eraseDups_cons]

theorem nodup_eraseDups {α : Type} [DecidableEq α] (as : List α) : as.eraseDups.Nodup := by
  induction as using List.reverseRecOn with
  | nil => exact List.nodup_nil
  | append_singleton as a ih =>
    rw [eraseDups_concat]
    by_cases h : a ∈ as
    · rw [if_pos h]
      exact ih
    · rw [if_neg h]
      rw [← List.concat_eq_append, List.nodup_concat, List.mem_eraseDups]
      exact ⟨h, ih⟩

theorem map_fst_setIn (column : String) (v : Value) (cells : List (String × Value)) :
    (setIn column v cells).map Prod.fst =
      if column ∈ cells.map Prod.fst then cells.map Prod.fst else cells.map Prod.fst ++ [column] := by
  induction cells with
  | nil => rfl
  | cons cell rest ih =>
    obtain ⟨c, w⟩ := cell
    rw [setIn]
    by_cases hc : c = column
    · rw [if_pos hc, List.map_cons, List.map_cons, hc, if_pos (List.mem_cons_self ..)]
    · have hmem : column ∈ ((c, w) :: rest).map Prod.fst ↔ column ∈ rest.map Prod.fst := by
        rw [List.map_cons, List.mem_cons, or_iff_right (Ne.symm hc)]
      rw [if_neg hc, List.map_cons, ih]
      by_cases hrest : column ∈ rest.map Prod.fst
      · rw [if_pos hrest, if_pos (hmem.2 hrest)]
        rfl
      · rw [if_neg hrest, if_neg (mt hmem.1 hrest)]
        rfl

/-- The columns of a record stand in the order in which they were first set. -/
theorem map_fst_ofList (cells : List (String × Value)) :
    (ofList cells).columns.map Prod.fst = (cells.map Prod.fst).eraseDups := by
  induction cells using List.reverseRecOn with
  | nil => rfl
  | append_singleton cells cell ih =>
    have hset : ofList (cells ++ [cell]) = (ofList cells).set cell.1 cell.2 := List.foldl_append
    rw [hset, columns_set, map_fst_setIn, ih, List.map_append]
    simp only [List.map_cons, List.map_nil, eraseDups_concat, List.mem_eraseDups]

/-! ## Columns taken out one by one -/

theorem nodup_setIn (column : String) (v : Value) {cells : List (String × Value)}
    (h : (cells.map Prod.fst).Nodup) : ((setIn column v cells).map Prod.fst).Nodup := by
  induction cells with
  | nil => exact List.nodup_singleton column
  | cons cell rest ih =>
    obtain ⟨c, w⟩ := cell
    obtain ⟨hfresh, hrest⟩ := List.nodup_cons.1 h
    rw [setIn]
    by_cases hc : c = column
    · rw [if_pos hc]
      exact h
    · rw [if_neg hc]
      refine List.nodup_cons.2 ⟨fun hmem => ?_, ih hrest⟩
      obtain ⟨cell, hcell, hfst⟩ := List.mem_map.1 hmem
      rcases mem_setIn hcell with hcolumn | hbefore
      · exact hc (hfst.symm.trans hcolumn)
      · exact hfresh (List.mem_map.2 ⟨cell, hbefore, hfst⟩)

/-- A record that is made of cells has no column twice. -/
theorem nodup_columns_ofList (cells : List (String × Value)) :
    ((ofList cells).columns.map Prod.fst).Nodup := by
  have hfold : ∀ r : Record, (r.columns.map Prod.fst).Nodup →
      ((cells.foldl (fun r cell => r.set cell.1 cell.2) r).columns.map Prod.fst).Nodup := by
    induction cells with
    | nil => exact fun r h => h
    | cons cell rest ih => exact fun r h => ih _ (nodup_setIn cell.1 cell.2 h)
  exact hfold empty List.nodup_nil

/-- Of several cells of one column the last gives the value. -/
theorem get?_ofList (cells : List (String × Value)) (c : String) :
    (ofList cells).get? c = cells.reverse.lookup c := by
  have hfold : ∀ r : Record, (cells.foldl (fun r cell => r.set cell.1 cell.2) r).get? c =
      (cells.reverse.lookup c).or (r.get? c) := by
    induction cells with
    | nil => exact fun r => rfl
    | cons cell rest ih =>
      intro r
      obtain ⟨d, v⟩ := cell
      rw [List.foldl_cons, ih, get?_set, List.reverse_cons, List.lookup_append, Option.or_assoc,
        List.lookup_cons]
      by_cases hc : c = d
      · rw [if_pos hc, hc, beq_self_eq_true]
        rfl
      · rw [if_neg hc, beq_eq_false_iff_ne.2 hc]
        rfl
  exact (hfold empty).trans (by rw [get?_empty, Option.or_none])

theorem lookup_eq_none {c : String} {cells : List (String × Value)}
    (h : c ∉ cells.map Prod.fst) : cells.lookup c = none := by
  rw [List.lookup_eq_none_iff]
  intro cell hcell
  have hne : c ≠ cell.1 := fun hc => h (List.mem_map.2 ⟨cell, hcell, hc.symm⟩)
  simpa using hne

/-- A column whose cells all have one value has it. -/
theorem lookup_eq_some {c : String} {v : Value} {cells : List (String × Value)}
    (hmem : (c, v) ∈ cells) (honly : ∀ w, (c, w) ∈ cells → w = v) : cells.lookup c = some v := by
  induction cells with
  | nil => cases hmem
  | cons cell rest ih =>
    obtain ⟨d, w⟩ := cell
    rw [List.lookup_cons]
    by_cases hd : c = d
    · subst hd
      rw [beq_self_eq_true, honly w (List.mem_cons_self ..)]
    · rw [beq_eq_false_iff_ne.2 hd]
      have hrest : (c, v) ∈ rest := by
        rcases List.mem_cons.1 hmem with heq | hrest
        · cases heq
          exact absurd rfl hd
        · exact hrest
      exact ih hrest fun w hw => honly w (List.mem_cons_of_mem _ hw)

/-- Where no column occurs twice, every cell is found by its column. -/
theorem lookup_of_nodup {c : String} {v : Value} {cells : List (String × Value)}
    (hnodup : (cells.map Prod.fst).Nodup) (hmem : (c, v) ∈ cells) : cells.lookup c = some v := by
  refine lookup_eq_some hmem fun w hw => ?_
  exact (Prod.mk.inj (List.inj_on_of_nodup_map hnodup hw hmem rfl)).2

/-- Taking a column out leaves the others. -/
theorem get?_erase_of_ne (r : Record) {c d : String} (h : d ≠ c) :
    (r.erase c).get? d = r.get? d := by
  obtain ⟨columns⟩ := r
  simp only [get?, erase]
  induction columns with
  | nil => rfl
  | cons cell rest ih =>
    obtain ⟨c', v⟩ := cell
    rw [eraseIn]
    by_cases hc : c' = c
    · subst hc
      rw [if_pos rfl, List.lookup_cons, beq_eq_false_iff_ne.2 h]
    · rw [if_neg hc, List.lookup_cons, List.lookup_cons, ih]

/-- A column that has been taken out is gone, and the others are still there. -/
theorem get?_erase {r : Record} (h : (r.columns.map Prod.fst).Nodup) (c d : String) :
    (r.erase c).get? d = if d = c then none else r.get? d := by
  by_cases hd : d = c
  · subst hd
    rw [if_pos rfl]
    obtain ⟨columns⟩ := r
    simp only [get?, erase]
    induction columns with
    | nil => rfl
    | cons cell rest ih =>
      obtain ⟨c', v⟩ := cell
      obtain ⟨hfresh, hrest⟩ := List.nodup_cons.1 h
      rw [eraseIn]
      by_cases hc : c' = d
      · subst hc
        rw [if_pos rfl]
        exact lookup_eq_none hfresh
      · rw [if_neg hc, List.lookup_cons, beq_eq_false_iff_ne.2 (Ne.symm hc)]
        exact ih hrest
  · rw [if_neg hd]
    exact r.get?_erase_of_ne hd

theorem eraseIn_sublist (c : String) (cells : List (String × Value)) :
    (eraseIn c cells).Sublist cells := by
  induction cells with
  | nil => exact List.Sublist.refl []
  | cons cell rest ih =>
    obtain ⟨c', v⟩ := cell
    rw [eraseIn]
    by_cases hc : c' = c
    · rw [if_pos hc]
      exact List.sublist_cons_self _ rest
    · rw [if_neg hc]
      exact ih.cons_cons _

end Sift.Record

/-! ## Rows as records -/

namespace Sift.Row

variable {fs : List Field}

/-- A row fills the columns of its fields, each where it comes first. -/
theorem columns_toRecord (row : Row fs) :
    row.toRecord.columns.map Prod.fst = (fs.map Field.column).eraseDups := by
  rw [toRecord, Record.map_fst_ofList, row.map_fst_cells]

/-- Where no two fields have one column, the cells of a row are its record. -/
theorem toRecord_eq (hcolumns : (fs.map Field.column).Nodup) (row : Row fs) :
    row.toRecord = ⟨row.cells⟩ := by
  rw [← row.map_fst_cells] at hcolumns
  exact Record.ofList_eq hcolumns

end Sift.Row
