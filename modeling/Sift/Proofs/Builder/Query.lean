import Sift.Builder.Query
import Sift.Proofs.Acceptance

/-!
# The statement of a query

A query is compiled step by step: its table, its start, the fields that are read, the order, and
then the plan. `Query.compileSelect_eq_ok_iff` says that all of these have to be there and that
nothing else has; an operation that insists on a filter asks for it on top. The fields and the order
are there whenever the names that they are given by are mapped, and some field is always read.
-/
namespace Sift

theorem Scope.requiredFilter_eq_ok_iff {e : Entity} {scope : Scope e} {operation : String}
    {p : Predicate} :
    scope.requiredFilter operation = .ok p ↔ scope.filter = some p := by
  unfold requiredFilter
  cases scope.filter with
  | none => simp
  | some q => simp

namespace Query

variable {e : Entity} {q : Query e} {t : Table}

/-! ## The projection and the order -/

theorem exists_resolveDistinct {names : List String} (h : ∀ n ∈ names, n ∈ t.entity.properties)
    (chosen : List Field) : ∃ fields, resolveDistinct t chosen names = .ok fields := by
  induction names generalizing chosen with
  | nil => exact ⟨chosen, rfl⟩
  | cons name rest ih =>
    obtain ⟨f, hf⟩ := Table.exists_field_of_mem (h name (List.mem_cons_self ..))
    have hrest : ∀ n ∈ rest, n ∈ t.entity.properties :=
      fun n hn => h n (List.mem_cons_of_mem name hn)
    obtain ⟨fields, hfields⟩ := ih hrest
      (if chosen.any fun g => g.property = f.property then chosen else chosen ++ [f])
    refine ⟨fields, ?_⟩
    rw [resolveDistinct, hf]
    exact hfields

/-- What is left of some fields without those that are not wanted; all fields if nothing is left. -/
def kept (q : Query e) (t : Table) (chosen : List Field) : List Field :=
  let kept := chosen.filter fun f => !q.unselected.contains f.property
  if kept.isEmpty then t.fields else kept

theorem projection_eq (q : Query e) (t : Table) :
    q.projection t =
      (if q.selected.isEmpty then .ok t.fields else resolveDistinct t [] q.selected).map
        (q.kept t) := by
  unfold projection
  by_cases hselected : q.selected.isEmpty = true
  · rw [if_pos hselected, if_pos hselected]
    rfl
  · rw [if_neg hselected, if_neg hselected]
    cases resolveDistinct t [] q.selected with
    | error err => rfl
    | ok chosen => rfl

/-- Something is read of each row. -/
theorem projection_ne_nil {columns : List Field} (h : q.projection t = .ok columns) :
    columns ≠ [] := by
  rw [projection_eq] at h
  obtain ⟨chosen, -, rfl⟩ := map_eq_ok_iff.1 h
  dsimp only [kept]
  split
  · exact t.fields_ne_nil
  · rename_i hkept
    intro hnil
    rw [hnil] at hkept
    exact hkept rfl

theorem exists_projection (h : ∀ n ∈ q.selected, n ∈ t.entity.properties) :
    ∃ columns, q.projection t = .ok columns := by
  rw [projection_eq]
  by_cases hselected : q.selected.isEmpty = true
  · rw [if_pos hselected]
    exact ⟨_, rfl⟩
  · obtain ⟨chosen, hchosen⟩ := exists_resolveDistinct h []
    rw [if_neg hselected, hchosen]
    exact ⟨_, rfl⟩

theorem exists_sortKeys (h : ∀ k ∈ q.order, k.1 ∈ t.entity.properties) :
    ∃ keys, q.sortKeys t = .ok keys := by
  apply exists_mapM_of_forall
  intro k hk
  obtain ⟨f, hf⟩ := Table.exists_field_of_mem (h k hk)
  exact ⟨⟨f, k.2⟩, bind_eq_ok_iff.2 ⟨f, hf, rfl⟩⟩

/-! ## What is compiled -/

/-- The fields that are read of each row: the projection, or the key alone. -/
def readFields (q : Query e) (t : Table) (keyOnly : Bool) : Except Error (List Field) :=
  if keyOnly then .ok [t.key] else q.projection t

theorem compileSelect_eq (q : Query e) (limit : Option UInt64) (keyOnly : Bool) :
    q.compileSelect limit keyOnly = (do
      let t ← q.scope.state
      let skip ← q.resolvedStart
      let columns ← q.readFields t keyOnly
      let order ← q.sortKeys t
      Plan.compile t (.select ⟨q.scope.filter, columns, order, skip, limit⟩)) := by
  cases keyOnly <;> rfl

/-- A query has a statement if all parts of its plan are there and the plan has one. -/
theorem compileSelect_eq_ok_iff {limit : Option UInt64} {keyOnly : Bool} {s : Statement} :
    q.compileSelect limit keyOnly = .ok s ↔
      ∃ t skip columns order, q.scope.state = .ok t ∧ q.resolvedStart = .ok skip ∧
        q.readFields t keyOnly = .ok columns ∧ q.sortKeys t = .ok order ∧
        Plan.compile t (.select ⟨q.scope.filter, columns, order, skip, limit⟩) = .ok s := by
  rw [compileSelect_eq]
  simp only [bind_eq_ok_iff]
  constructor
  · rintro ⟨t, ht, skip, hskip, columns, hcolumns, order, horder, h⟩
    exact ⟨t, skip, columns, order, ht, hskip, hcolumns, horder, h⟩
  · rintro ⟨t, skip, columns, order, ht, hskip, hcolumns, horder, h⟩
    exact ⟨t, ht, skip, hskip, columns, hcolumns, order, horder, h⟩

theorem readFields_ne_nil {keyOnly : Bool} {columns : List Field}
    (h : q.readFields t keyOnly = .ok columns) : columns ≠ [] := by
  cases keyOnly with
  | true =>
    cases h
    exact List.cons_ne_nil t.key []
  | false => exact projection_ne_nil h

/-- The statement of an operation that insists on a filter. -/
theorem compileFiltered_eq_ok_iff {operation : String} {s : Statement} :
    q.compileFiltered operation = .ok s ↔ q.scope.filter ≠ none ∧ q.toStatement = .ok s := by
  unfold compileFiltered
  simp only [bind_eq_ok_iff, Scope.requiredFilter_eq_ok_iff]
  rw [Option.ne_none_iff_exists']
  constructor
  · rintro ⟨p, hp, h⟩
    exact ⟨⟨p, hp⟩, h⟩
  · rintro ⟨⟨p, hp⟩, h⟩
    exact ⟨p, hp, h⟩

/-- The statement of a page, and where the page starts. -/
theorem compilePage_eq_ok_iff {offset : UInt64} {s : Statement} :
    q.compilePage = .ok (offset, s) ↔
      q.scope.filter ≠ none ∧ q.toStatement = .ok s ∧
        ∃ start, q.resolvedStart = .ok start ∧ start.getD 0 = offset := by
  unfold compilePage
  simp only [bind_eq_ok_iff, Scope.requiredFilter_eq_ok_iff]
  rw [Option.ne_none_iff_exists']
  constructor
  · rintro ⟨p, hp, start, hstart, s', hs', heq⟩
    cases heq
    exact ⟨⟨p, hp⟩, hs', start, hstart, rfl⟩
  · rintro ⟨⟨p, hp⟩, hs, start, hstart, rfl⟩
    exact ⟨p, hp, start, hstart, s, hs, rfl⟩

/-- The statement of a page is that of the query as it stands. -/
theorem map_snd_compilePage_eq_ok_iff {s : Statement} :
    q.compilePage.map Prod.snd = .ok s ↔ q.scope.filter ≠ none ∧ q.toStatement = .ok s := by
  rw [map_eq_ok_iff]
  constructor
  · rintro ⟨page, hpage, rfl⟩
    obtain ⟨hfilter, hs, -⟩ := compilePage_eq_ok_iff.1 hpage
    exact ⟨hfilter, hs⟩
  · rintro ⟨hfilter, hs⟩
    obtain ⟨_, start, _, _, -, hstart, -⟩ := compileSelect_eq_ok_iff.1 hs
    exact ⟨(start.getD 0, s), compilePage_eq_ok_iff.2 ⟨hfilter, hs, start, hstart, rfl⟩, rfl⟩

/-- The start of a query is there unless the last one could not be read. -/
theorem exists_resolvedStart_iff :
    (∃ start, q.resolvedStart = .ok start) ↔ ∀ fault, q.start ≠ some (.error fault) := by
  unfold resolvedStart
  match q.start with
  | none => simp
  | some (.ok offset) => simp
  | some (.error fault) => simp

end Query

end Sift
