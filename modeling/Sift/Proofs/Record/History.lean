import Sift.Proofs.Record

/-!
# What a record keeps of its history

A record is changed by setting columns and by taking them out. Nothing in its type keeps a column
from standing there twice; setting sees to it that none does, and the lookups, which stop at the
first cell of a column, rest on that. What a record holds is then told by the changes that have led
to it, `Follows`: the last change of a column gives its value or says that it is gone, and the
columns stand in the order in which they came in, which is not changed by setting one again. Taking
a column out leaves the other cells as they are, and taking all columns out in any order gives every
value once, `ComesApart`. Both hold after all changes of any record, `Record.follows_changes`.
-/
namespace Sift.Record

/-- A change of a record. -/
inductive Change where
  | set (column : String) (value : Value)
  | take (column : String)

namespace Change

/-- The column that is changed. -/
def column : Change → String
  | set c _ => c
  | take c => c

/-- The record behind a change. -/
def apply (r : Record) : Change → Record
  | set c v => r.set c v
  | take c => (r.take c).2

/-- Each cell of a list that a record is made of sets its column. -/
def ofCell (cell : String × Value) : Change := set cell.1 cell.2

end Change

/-- The record that changes lead to from the one without columns. -/
def ofChanges (history : List Change) : Record := history.foldl Change.apply empty

theorem ofChanges_concat (history : List Change) (x : Change) :
    ofChanges (history ++ [x]) = x.apply (ofChanges history) := by
  simp [ofChanges]

/-- A record that is made of cells and then changed has their history in front of its own. -/
theorem foldl_apply_ofList (cells : List (String × Value)) (changes : List Change) :
    changes.foldl Change.apply (ofList cells) =
      ofChanges (cells.map Change.ofCell ++ changes) := by
  simp [ofChanges, ofList, List.foldl_map, Change.ofCell, Change.apply]

/-! ## What a history says -/

/-- The last change of a column sets it to a value. -/
def Leaves (history : List Change) (c : String) (v : Value) : Prop :=
  ∃ before after, history = before ++ .set c v :: after ∧ ∀ x ∈ after, x.column ≠ c

/-- A column comes in at a place: it is set there, is not there before, and is not taken out any
more. -/
def EntersAt (history : List Change) (c : String) (i : ℕ) : Prop :=
  ∃ before v after, history = before ++ .set c v :: after ∧ before.length = i ∧
    (∀ w, ¬Leaves before c w) ∧ .take c ∉ after

section Concat

variable {history : List Change} {x : Change} {c : String} {v : Value} {i : ℕ}

/-- Where a list with one more member at its end is split: at that member, or before it. -/
theorem concat_eq_append_cons_iff {α : Type} {as before after : List α} {a b : α} :
    as ++ [a] = before ++ b :: after ↔
      as = before ∧ a = b ∧ after = [] ∨
        ∃ rest, after = rest ++ [a] ∧ as = before ++ b :: rest := by
  constructor
  · intro h
    rcases after.eq_nil_or_concat' with rfl | ⟨rest, last, rfl⟩
    · obtain ⟨has, hab⟩ := List.append_inj' h rfl
      exact .inl ⟨has, (List.cons.inj hab).1, rfl⟩
    · rw [← List.cons_append, ← List.append_assoc] at h
      obtain ⟨has, hlast⟩ := List.append_inj' h rfl
      obtain rfl := (List.cons.inj hlast).1
      exact .inr ⟨rest, rfl, has⟩
  · rintro (⟨rfl, rfl, rfl⟩ | ⟨rest, rfl, rfl⟩)
    · rfl
    · simp

theorem leaves_concat_iff :
    Leaves (history ++ [x]) c v ↔ x = .set c v ∨ x.column ≠ c ∧ Leaves history c v := by
  constructor
  · rintro ⟨before, after, hsplit, hafter⟩
    rcases concat_eq_append_cons_iff.1 hsplit with ⟨-, hx, -⟩ | ⟨rest, rfl, hrest⟩
    · exact .inl hx
    · rw [List.forall_mem_append] at hafter
      exact .inr ⟨hafter.2 x (by simp), before, rest, hrest, hafter.1⟩
  · rintro (rfl | ⟨hx, before, after, rfl, hafter⟩)
    · exact ⟨history, [], rfl, by simp⟩
    · refine ⟨before, after ++ [x], by simp, ?_⟩
      rw [List.forall_mem_append]
      exact ⟨hafter, by simpa using hx⟩

theorem entersAt_concat_iff :
    EntersAt (history ++ [x]) c i ↔
      (∃ v, x = .set c v) ∧ history.length = i ∧ (∀ w, ¬Leaves history c w) ∨
        x ≠ .take c ∧ EntersAt history c i := by
  constructor
  · rintro ⟨before, v, after, hsplit, hi, hbefore, hafter⟩
    rcases concat_eq_append_cons_iff.1 hsplit with ⟨rfl, hx, -⟩ | ⟨rest, rfl, hrest⟩
    · exact .inl ⟨⟨v, hx⟩, hi, hbefore⟩
    · rw [List.mem_append, not_or] at hafter
      have hx : x ≠ .take c := by
        intro hx
        exact hafter.2 (by simp [hx])
      exact .inr ⟨hx, before, v, rest, hrest, hi, hbefore, hafter.1⟩
  · rintro (⟨⟨v, rfl⟩, hi, hbefore⟩ | ⟨hx, before, v, after, rfl, hi, hbefore, hafter⟩)
    · exact ⟨history, v, [], rfl, hi, hbefore, by simp⟩
    · refine ⟨before, v, after ++ [x], by simp, hi, hbefore, ?_⟩
      simp [hafter, Ne.symm hx]

/-- A column comes in at some place of the history. -/
theorem EntersAt.lt_length (h : EntersAt history c i) : i < history.length := by
  obtain ⟨before, v, after, rfl, rfl, -, -⟩ := h
  simp

end Concat

/-! ## Records follow their histories -/

/-- A record holds what its history says. No column stands there twice; a column has a value if the
last change of it has set it to that one; and the columns are those that have come in and not been
taken out again, in the order in which they came in. -/
structure Follows (history : List Change) (r : Record) : Prop where
  distinct : (r.columns.map Prod.fst).Nodup
  value : ∀ c v, r.get? c = some v ↔ Leaves history c v
  present : ∀ c, c ∈ r.columns.map Prod.fst ↔ ∃ i, EntersAt history c i
  ordered : (r.columns.map Prod.fst).Pairwise fun c d =>
    ∀ i j, EntersAt history c i → EntersAt history d j → i < j

section Follows

variable {history : List Change} {r : Record}

theorem mem_columns_iff {c : String} :
    c ∈ r.columns.map Prod.fst ↔ ∃ v, r.get? c = some v := by
  rw [← Option.isSome_iff_exists, get?, List.lookup_isSome_iff]
  simp

theorem follows_empty : Follows [] empty where
  distinct := List.nodup_nil
  value := by simp [Leaves]
  present := by simp [empty, EntersAt]
  ordered := List.Pairwise.nil

/-- Before a column comes in it has no value. -/
theorem Follows.forall_not_leaves_iff (h : Follows history r) {c : String} :
    (∀ w, ¬Leaves history c w) ↔ c ∉ r.columns.map Prod.fst := by
  rw [mem_columns_iff, not_exists]
  exact forall_congr' fun w => not_congr (h.value c w).symm

/-- A column comes in where it is set, if it is not there yet. -/
theorem Follows.entersAt_set_iff (h : Follows history r) {c d : String} {v : Value} {i : ℕ} :
    EntersAt (history ++ [.set c v]) d i ↔
      c = d ∧ history.length = i ∧ d ∉ r.columns.map Prod.fst ∨ EntersAt history d i := by
  rw [entersAt_concat_iff, h.forall_not_leaves_iff]
  simp

theorem Follows.present_set (h : Follows history r) (c : String) (v : Value) (d : String) :
    d ∈ (r.set c v).columns.map Prod.fst ↔ ∃ i, EntersAt (history ++ [.set c v]) d i := by
  simp only [h.entersAt_set_iff, exists_or, ← h.present, columns_set, map_fst_setIn]
  by_cases hc : c ∈ r.columns.map Prod.fst
  · rw [if_pos hc]
    constructor
    · exact .inr
    · rintro (⟨i, rfl, -, hd⟩ | hd)
      · exact absurd hc hd
      · exact hd
  · rw [if_neg hc, List.mem_append, List.mem_singleton]
    constructor
    · rintro (hd | rfl)
      · exact .inr hd
      · exact .inl ⟨_, rfl, rfl, hc⟩
    · rintro (⟨i, rfl, -, -⟩ | hd)
      · exact .inr rfl
      · exact .inl hd

/-- Setting a column keeps the places of all columns that are there. One that is not comes in last,
and its place is behind all others. -/
theorem Follows.ordered_set (h : Follows history r) (c : String) (v : Value) :
    ((r.set c v).columns.map Prod.fst).Pairwise fun d e => ∀ i j,
      EntersAt (history ++ [.set c v]) d i → EntersAt (history ++ [.set c v]) e j → i < j := by
  have hkept : (r.columns.map Prod.fst).Pairwise fun d e => ∀ i j,
      EntersAt (history ++ [.set c v]) d i → EntersAt (history ++ [.set c v]) e j → i < j := by
    refine h.ordered.imp_of_mem fun hd he horder i j hi hj => ?_
    rcases h.entersAt_set_iff.1 hi with ⟨-, -, hnew⟩ | hi
    · exact absurd hd hnew
    rcases h.entersAt_set_iff.1 hj with ⟨-, -, hnew⟩ | hj
    · exact absurd he hnew
    exact horder i j hi hj
  rw [columns_set, map_fst_setIn]
  by_cases hc : c ∈ r.columns.map Prod.fst
  · rw [if_pos hc]
    exact hkept
  · rw [if_neg hc, List.pairwise_append]
    refine ⟨hkept, List.pairwise_singleton .., ?_⟩
    intro d hd e he i j hi hj
    obtain rfl := List.mem_singleton.1 he
    rcases h.entersAt_set_iff.1 hi with ⟨-, -, hnew⟩ | hi
    · exact absurd hd hnew
    rcases h.entersAt_set_iff.1 hj with ⟨-, rfl, -⟩ | hj
    · exact hi.lt_length
    · exact absurd ((h.present _).2 ⟨j, hj⟩) hc

theorem Follows.set (h : Follows history r) (c : String) (v : Value) :
    Follows (history ++ [.set c v]) (r.set c v) where
  distinct := nodup_setIn c v h.distinct
  value := by
    intro d w
    rw [get?_set, leaves_concat_iff, ← h.value]
    by_cases hd : d = c
    · simp [hd, Change.column]
    · simp [hd, Ne.symm hd, Change.column]
  present := h.present_set c v
  ordered := h.ordered_set c v

/-- Taking a column out leaves the others where they are. -/
theorem Follows.take (h : Follows history r) (c : String) :
    Follows (history ++ [.take c]) (r.erase c) := by
  have hsublist : ((r.erase c).columns.map Prod.fst).Sublist (r.columns.map Prod.fst) :=
    (eraseIn_sublist c r.columns).map Prod.fst
  have henters : ∀ d i, EntersAt (history ++ [.take c]) d i ↔ c ≠ d ∧ EntersAt history d i := by
    intro d i
    rw [entersAt_concat_iff]
    simp
  refine ⟨hsublist.nodup h.distinct, ?_, ?_, ?_⟩
  · intro d w
    rw [get?_erase h.distinct, leaves_concat_iff, ← h.value]
    by_cases hd : d = c
    · simp [hd, Change.column]
    · simp [hd, Ne.symm hd, Change.column]
  · intro d
    simp only [henters, mem_columns_iff, get?_erase h.distinct, exists_and_left, ← h.present]
    by_cases hd : d = c
    · simp [hd]
    · simp [hd, Ne.symm hd]
  · refine (h.ordered.sublist hsublist).imp fun horder i j hi hj => ?_
    exact horder i j ((henters _ _).1 hi).2 ((henters _ _).1 hj).2

theorem Follows.apply (h : Follows history r) (x : Change) :
    Follows (history ++ [x]) (x.apply r) := by
  cases x with
  | set c v => exact h.set c v
  | take c => exact h.take c

theorem follows_ofChanges (history : List Change) : Follows history (ofChanges history) := by
  induction history using List.reverseRecOn with
  | nil => exact follows_empty
  | append_singleton history x ih =>
    rw [ofChanges_concat]
    exact ih.apply x

end Follows

/-! ## Taking a record apart -/

/-- Take several columns out, one after the other. -/
def takeEach : List String → Record → List (Option Value) × Record
  | [], r => ([], r)
  | c :: cs, r => ((r.take c).1 :: (takeEach cs (r.take c).2).1, (takeEach cs (r.take c).2).2)

/-- What taking columns out gives and leaves. One column takes its own cell along and no other. A
column that is among those taken before gives nothing. Taking all columns, in any order, gives the
value of each once and leaves none. -/
structure ComesApart (r : Record) : Prop where
  one : ∀ c, r.take c = (r.get? c, ⟨r.columns.filter fun cell => cell.1 ≠ c⟩)
  again : ∀ cs, ∀ c ∈ cs, ((takeEach cs r).2.take c).1 = none
  all : ∀ order, order.Perm (r.columns.map Prod.fst) → ∃ values,
    takeEach order r = (values.map some, empty) ∧ (order.zip values).Perm r.columns

section ComesApart

variable {r : Record}

theorem eraseIn_eq_filter {c : String} {cells : List (String × Value)}
    (h : (cells.map Prod.fst).Nodup) : eraseIn c cells = cells.filter fun cell => cell.1 ≠ c := by
  induction cells with
  | nil => rfl
  | cons cell rest ih =>
    obtain ⟨d, v⟩ := cell
    obtain ⟨hfresh, hrest⟩ := List.nodup_cons.1 h
    rw [eraseIn]
    by_cases hd : d = c
    · -- no other cell is one of this column
      have hkept : rest.filter (fun cell => cell.1 ≠ c) = rest := by
        rw [List.filter_eq_self]
        intro cell hcell
        have hne : cell.1 ≠ c := by
          intro hcolumn
          exact hfresh (List.mem_map.2 ⟨cell, hcell, hcolumn.trans hd.symm⟩)
        simpa using hne
      rw [if_pos hd, List.filter_cons_of_neg (by simpa using hd), hkept]
    · rw [if_neg hd, List.filter_cons_of_pos (by simpa using hd), ih hrest]

/-- Taking columns out leaves the cells of all others. -/
theorem columns_takeEach (h : (r.columns.map Prod.fst).Nodup) (cs : List String) :
    (takeEach cs r).2.columns = r.columns.filter fun cell => cell.1 ∉ cs := by
  induction cs generalizing r with
  | nil => simp [takeEach]
  | cons c cs ih =>
    have hrest : ((r.erase c).columns.map Prod.fst).Nodup :=
      ((eraseIn_sublist c r.columns).map Prod.fst).nodup h
    rw [takeEach, take, ih hrest, columns_erase, eraseIn_eq_filter h, List.filter_filter]
    refine List.filter_congr fun cell _ => ?_
    simp [not_or, Bool.and_comm]

/-- Different columns give their values, whatever has been taken before. -/
theorem fst_takeEach {cs : List String} (hcs : cs.Nodup) : (takeEach cs r).1 = cs.map r.get? := by
  induction cs generalizing r with
  | nil => rfl
  | cons c cs ih =>
    obtain ⟨hc, hcs⟩ := List.nodup_cons.1 hcs
    rw [takeEach, take, ih hcs, List.map_cons, List.cons_eq_cons]
    refine ⟨rfl, List.map_congr_left fun d hd => ?_⟩
    exact r.get?_erase_of_ne fun hdc => hc (hdc ▸ hd)

/-- Each cell is that of its column's value. -/
theorem map_map_fst_columns (h : (r.columns.map Prod.fst).Nodup) :
    (r.columns.map Prod.fst).map (fun c => (c, (r.get? c).getD .null)) = r.columns := by
  rw [List.map_map]
  refine (List.map_congr_left fun cell hcell => ?_).trans r.columns.map_id
  have hget : r.get? cell.1 = some cell.2 := lookup_of_nodup h hcell
  simp [hget]

/-- All columns, in whatever order they are taken, give their values and leave nothing. -/
theorem takeEach_of_perm (h : (r.columns.map Prod.fst).Nodup) {order : List String}
    (horder : order.Perm (r.columns.map Prod.fst)) :
    takeEach order r = (order.map fun c => some ((r.get? c).getD .null), empty) := by
  have hgiven : (takeEach order r).1 = order.map fun c => some ((r.get? c).getD .null) := by
    rw [fst_takeEach (horder.nodup_iff.2 h)]
    refine List.map_congr_left fun c hc => ?_
    obtain ⟨v, hv⟩ := mem_columns_iff.1 (horder.mem_iff.1 hc)
    simp [hv]
  have hleft : (takeEach order r).2 = empty := by
    have hcolumns : (takeEach order r).2.columns = [] := by
      rw [columns_takeEach h, List.filter_eq_nil_iff]
      intro cell hcell
      simpa using horder.mem_iff.2 (List.mem_map_of_mem hcell)
    exact congrArg Record.mk hcolumns
  exact Prod.ext hgiven hleft

theorem comesApart_of_nodup (h : (r.columns.map Prod.fst).Nodup) : r.ComesApart where
  one c := by rw [take, erase, eraseIn_eq_filter h]
  again cs c hc := by
    refine lookup_eq_none fun hmem => ?_
    obtain ⟨cell, hcell, rfl⟩ := List.mem_map.1 hmem
    rw [columns_takeEach h] at hcell
    simp [hc] at hcell
  all order horder := by
    refine ⟨order.map fun c => (r.get? c).getD .null, ?_, ?_⟩
    · rw [List.map_map]
      exact takeEach_of_perm h horder
    · have hzip : order.zip (order.map fun c => (r.get? c).getD .null) =
          order.map fun c => (c, (r.get? c).getD .null) := by
        simp [List.zip_map_right, ← List.zip_map']
      rw [hzip]
      exact (horder.map _).trans (List.Perm.of_eq (map_map_fst_columns h))

end ComesApart

/-- Made of any cells and changed in any way, a record follows its history and comes apart into its
cells. -/
theorem follows_changes (cells : List (String × Value)) (changes : List Change) :
    Follows (cells.map Change.ofCell ++ changes) (changes.foldl Change.apply (ofList cells)) ∧
      ComesApart (changes.foldl Change.apply (ofList cells)) := by
  have hfollows : Follows (cells.map Change.ofCell ++ changes)
      (changes.foldl Change.apply (ofList cells)) := by
    rw [foldl_apply_ofList]
    exact follows_ofChanges _
  exact ⟨hfollows, comesApart_of_nodup hfollows.distinct⟩

example (v w : Value) :
    (ofChanges [.set "a" v, .set "b" v, .set "a" w, .take "a", .set "c" v, .set "a" v]).columns =
      [("b", v), ("c", v), ("a", v)] := by
  rfl

end Sift.Record
