import Mathlib.Algebra.Order.Group.Nat
import Mathlib.Data.Finset.Card
import Mathlib.Logic.Function.Basic
import Sift.Catalog
import Sift.Proofs.Acceptance

/-!
# The catalog makes no difference

A `Catalog` has a shelf for each of a family of entities, and tables are requested of it in any
order and under any dialects. What a shelf holds after some requests is `Shelf.Holds`: in the cell
of each dialect that was asked for, the table that would be built for it afresh, and in the others
nothing; and the mapping was consulted once for each dialect that it is sound under, and each time
under the others. A request preserves that, and so does a run of requests: whoever asks the catalog
is answered as if there were none, `Catalog.run_eq`. That callers look at a shelf at the same time
makes no difference either, since one who has found nothing looks again before it builds:
`Crowd.run_initial`.
-/
namespace Sift

/-! ## How often a mapping is consulted -/

namespace Entity

variable {e : Entity} {asked : List Dialect} {d : Dialect} {t : Table} {err : Error}

/-- A mapping is sound under a dialect. -/
def isSound (e : Entity) (d : Dialect) : Bool :=
  match Table.ofEntity e d with
  | .ok _ => true
  | .error _ => false

theorem isSound_of_ok (h : Table.ofEntity e d = .ok t) : e.isSound d = true := by
  rw [isSound, h]

theorem isSound_of_error (h : Table.ofEntity e d = .error err) : e.isSound d = false := by
  rw [isSound, h]

/-- How often a mapping is consulted for the tables under some dialects: once for each dialect that
it is sound under, and each time under the others. -/
def consultations (e : Entity) (asked : List Dialect) : Nat :=
  (asked.filter e.isSound).toFinset.card + asked.countP fun d => !e.isSound d

@[simp] theorem consultations_nil (e : Entity) : e.consultations [] = 0 := rfl

theorem consultations_concat_of_mem (hok : Table.ofEntity e d = .ok t) (h : d ∈ asked) :
    e.consultations (asked ++ [d]) = e.consultations asked := by
  rw [consultations, consultations, List.filter_append, List.countP_append]
  simp [isSound_of_ok hok, h]

theorem consultations_concat_of_notMem (hok : Table.ofEntity e d = .ok t) (h : d ∉ asked) :
    e.consultations (asked ++ [d]) = e.consultations asked + 1 := by
  rw [consultations, consultations, List.filter_append, List.countP_append]
  simp [isSound_of_ok hok, h]
  omega

theorem consultations_concat_of_error (herr : Table.ofEntity e d = .error err) :
    e.consultations (asked ++ [d]) = e.consultations asked + 1 := by
  rw [consultations, consultations, List.filter_append, List.countP_append]
  simp [isSound_of_error herr]
  omega

end Entity

/-! ## What is on a shelf -/

namespace Shelf

variable {s : Shelf} {e : Entity} {asked : List Dialect} {d : Dialect} {t : Table}

/-- What a shelf holds when the tables under some dialects have been asked for. -/
structure Holds (s : Shelf) (e : Entity) (asked : List Dialect) : Prop where
  get?_eq (d : Dialect) : s.get? d = if d ∈ asked then (Table.ofEntity e d).toOption else none
  consulted_eq : s.consulted = e.consultations asked

namespace Holds

theorem empty (e : Entity) : Shelf.empty.Holds e [] where
  get?_eq d := by simp
  consulted_eq := by simp

/-- What is on the shelf is what would be built afresh, and has been asked for. -/
theorem get?_eq_some_iff (h : s.Holds e asked) :
    s.get? d = some t ↔ d ∈ asked ∧ Table.ofEntity e d = .ok t := by
  rw [h.get?_eq]
  cases Table.ofEntity e d <;> simp [Except.toOption]

/-- To ask for what is on the shelf changes nothing. -/
theorem concat_of_some (h : s.Holds e asked) (ht : s.get? d = some t) :
    s.Holds e (asked ++ [d]) where
  get?_eq d' := by
    have hmem : d' ∈ asked ++ [d] ↔ d' ∈ asked := by
      simp only [List.mem_append, List.mem_singleton, or_iff_left_iff_imp]
      rintro rfl
      exact (h.get?_eq_some_iff.1 ht).1
    simp only [hmem, h.get?_eq]
  consulted_eq := by
    obtain ⟨hasked, hok⟩ := h.get?_eq_some_iff.1 ht
    rw [h.consulted_eq, Entity.consultations_concat_of_mem hok hasked]

/-- A mapping that is not sound leaves the shelf as it is. -/
theorem concat_of_error {err : Error} (h : s.Holds e asked)
    (herr : Table.ofEntity e d = .error err) : s.consult.Holds e (asked ++ [d]) where
  get?_eq d' := by
    by_cases hd : d' = d
    · simp [hd, h.get?_eq, herr, Except.toOption]
    · simp [hd, h.get?_eq]
  consulted_eq := by
    rw [consulted_consult, h.consulted_eq, Entity.consultations_concat_of_error herr]

/-- A table that is built for the first time goes into the cell of its dialect. -/
theorem concat_of_ok (h : s.Holds e asked) (hnone : s.get? d = none)
    (hok : Table.ofEntity e d = .ok t) : (s.consult.fill d t).Holds e (asked ++ [d]) where
  get?_eq d' := by
    rw [get?_fill, get?_consult, h.get?_eq]
    by_cases hd : d = d'
    · simp [← hd, hok, Except.toOption]
    · simp [hd, Ne.symm hd]
  consulted_eq := by
    have hasked : d ∉ asked := by
      intro hmem
      rw [h.get?_eq_some_iff.2 ⟨hmem, hok⟩] at hnone
      cases hnone
    rw [consulted_fill, consulted_consult, h.consulted_eq,
      Entity.consultations_concat_of_notMem hok hasked]

/-- Whatever is on the shelf already, it answers with the table that would be built afresh. -/
theorem build (h : s.Holds e asked) (d : Dialect) :
    (s.build e d).1 = Table.ofEntity e d ∧ (s.build e d).2.1.Holds e (asked ++ [d]) := by
  unfold Shelf.build
  cases hget : s.get? d with
  | some t => exact ⟨(h.get?_eq_some_iff.1 hget).2.symm, h.concat_of_some hget⟩
  | none =>
    cases hfresh : Table.ofEntity e d with
    | error err => exact ⟨rfl, h.concat_of_error hfresh⟩
    | ok t =>
      simp only [getOrFill, get?_consult, hget, true_and]
      exact h.concat_of_ok hget hfresh

theorem table (h : s.Holds e asked) (d : Dialect) :
    (s.table e d).1 = Table.ofEntity e d ∧ (s.table e d).2.1.Holds e (asked ++ [d]) := by
  unfold Shelf.table
  cases hget : s.get? d with
  | some t => exact ⟨(h.get?_eq_some_iff.1 hget).2.symm, h.concat_of_some hget⟩
  | none => exact h.build d

end Holds

end Shelf

/-! ## Runs of requests -/

/-- The shelves of a family of entities. -/
abbrev Catalog (ι : Type) : Type := ι → Shelf

namespace Catalog

variable {ι : Type} [DecidableEq ι] {declared : ι → Entity}

/-- Nothing built for any entity. -/
def empty : Catalog ι := fun _ => Shelf.empty

/-- A request for the table of an entity under a dialect. -/
def request (declared : ι → Entity) (c : Catalog ι) (i : ι) (d : Dialect) :
    Except Error Table × Catalog ι :=
  let (answer, s, _) := (c i).table (declared i) d
  (answer, Function.update c i s)

/-- The answers to a run of requests, and the catalog that it leaves. -/
def run (declared : ι → Entity) (c : Catalog ι) :
    List (ι × Dialect) → List (Except Error Table) × Catalog ι
  | [] => ([], c)
  | (i, d) :: requests =>
    let (answer, c) := c.request declared i d
    let (answers, c) := run declared c requests
    (answer :: answers, c)

/-- The dialects that the tables of an entity are requested for, in order. -/
def askedOf (i : ι) (requests : List (ι × Dialect)) : List Dialect :=
  (requests.filter fun r => r.1 = i).map Prod.snd

@[simp] theorem askedOf_nil (i : ι) : askedOf i [] = [] := rfl

theorem askedOf_append (i : ι) (before after : List (ι × Dialect)) :
    askedOf i (before ++ after) = askedOf i before ++ askedOf i after := by
  simp [askedOf]

theorem askedOf_singleton (i j : ι) (d : Dialect) :
    askedOf i [(j, d)] = if j = i then [d] else [] := by
  by_cases h : j = i <;> simp [askedOf, h]

/-- What the shelves hold when some requests have been made. -/
def Holds (declared : ι → Entity) (c : Catalog ι) (requests : List (ι × Dialect)) : Prop :=
  ∀ i, (c i).Holds (declared i) (askedOf i requests)

/-- A request is answered as it would be without a catalog, and the shelves of the other entities
stay as they are. -/
theorem Holds.request {c : Catalog ι} {requests : List (ι × Dialect)}
    (h : c.Holds declared requests) (i : ι) (d : Dialect) :
    (c.request declared i d).1 = Table.ofEntity (declared i) d ∧
      (c.request declared i d).2.Holds declared (requests ++ [(i, d)]) := by
  obtain ⟨hanswer, hshelf⟩ := (h i).table d
  refine ⟨hanswer, fun j => ?_⟩
  rw [askedOf_append, askedOf_singleton]
  by_cases hj : i = j
  · subst hj
    simpa [Catalog.request] using hshelf
  · simpa [Catalog.request, hj, Function.update_of_ne (Ne.symm hj)] using h j

theorem Holds.run {c : Catalog ι} {before : List (ι × Dialect)} (h : c.Holds declared before)
    (requests : List (ι × Dialect)) :
    (c.run declared requests).1 = requests.map (fun r => Table.ofEntity (declared r.1) r.2) ∧
      (c.run declared requests).2.Holds declared (before ++ requests) := by
  induction requests generalizing c before with
  | nil => exact ⟨rfl, by simpa [Catalog.run] using h⟩
  | cons r requests ih =>
    obtain ⟨i, d⟩ := r
    obtain ⟨hanswer, hrequest⟩ := h.request i d
    obtain ⟨hanswers, hrun⟩ := ih hrequest
    rw [List.append_assoc] at hrun
    refine ⟨?_, hrun⟩
    rw [List.map_cons, ← hanswer, ← hanswers]
    rfl

/-- A catalog answers every run of requests as if each table were built anew, with the same table or
the same fault. In the cells of an entity are, each at the place of its dialect, the tables of the
dialects that were asked for and that the mapping is sound under, and nothing else. The mapping has
been consulted once for each of them, and for each request that it was found unsound by. -/
theorem run_eq (declared : ι → Entity) (requests : List (ι × Dialect)) :
    (empty.run declared requests).1 = requests.map (fun r => Table.ofEntity (declared r.1) r.2) ∧
      (∀ err, .error err ∈ (empty.run declared requests).1 → ∃ text, err = .configuration text) ∧
      ∀ i,
        (∀ k t, ((empty.run declared requests).2 i).cells[k]? = some (some t) ↔
          ∃ d ∈ askedOf i requests, d.index = k ∧ Table.ofEntity (declared i) d = .ok t ∧
            t.entity = declared i ∧ t.dialect = d) ∧
        ((empty.run declared requests).2 i).consulted =
          (declared i).consultations (askedOf i requests) := by
  have hempty : (empty : Catalog ι).Holds declared [] := fun i => Shelf.Holds.empty (declared i)
  obtain ⟨hanswers, hholds⟩ := hempty.run requests
  refine ⟨hanswers, ?_, fun i => ⟨fun k t => ?_, (hholds i).consulted_eq⟩⟩
  · intro err herr
    rw [hanswers, List.mem_map] at herr
    obtain ⟨r, -, hr⟩ := herr
    obtain ⟨fault, -, rfl⟩ := mapError_eq_error_iff.1 hr
    exact ⟨_, rfl⟩
  · simp only [Shelf.getElem?_cells_eq_some_iff, (hholds i).get?_eq_some_iff, List.nil_append]
    constructor
    · rintro ⟨d, hindex, hasked, hok⟩
      exact ⟨d, hasked, hindex, hok, Table.eq_of_ofEntity hok⟩
    · rintro ⟨d, hasked, hindex, hok, -⟩
      exact ⟨d, hindex, hasked, hok⟩

end Catalog

/-! ## Callers at the same time -/

/-- How far a caller of a shelf is: it has not looked, or has found nothing and waits for its turn
to build, or has its answer. -/
inductive Progress where
  | arrived
  | waiting
  | answered (answer : Except Error Table)

/-- A shelf and those who call at it. -/
structure Crowd (κ : Type) where
  shelf : Shelf
  progress : κ → Progress

section Crowd

variable {κ : Type} {e : Entity} {wants : κ → Dialect} {builders : List κ}

/-- Where a caller stands when some of the callers have built: it is none of them as long as it has
no answer, and the answer that it has is the right one, which one of them was the first to get. -/
def Progress.Holds (e : Entity) (wants : κ → Dialect) (builders : List κ) (c : κ) : Progress → Prop
  | .arrived | .waiting => c ∉ builders
  | .answered answer => wants c ∈ builders.map wants ∧ answer = Table.ofEntity e (wants c)

theorem Progress.Holds.concat {p : Progress} {c builder : κ} (h : p.Holds e wants builders c)
    (hne : c ≠ builder) : p.Holds e wants (builders ++ [builder]) c := by
  cases p with
  | arrived => simpa [Progress.Holds, hne] using h
  | waiting => simpa [Progress.Holds, hne] using h
  | answered answer =>
    obtain ⟨hmem, hanswer⟩ := h
    rw [Progress.Holds, List.map_append]
    exact ⟨List.mem_append_left _ hmem, hanswer⟩

namespace Crowd

variable [DecidableEq κ] {w : Crowd κ}

/-- Nobody has looked yet, and nothing is built. -/
def initial : Crowd κ := ⟨.empty, fun _ => .arrived⟩

/-- One caller goes on. Only one builds at a time, and it looks again before it does. -/
def step (e : Entity) (wants : κ → Dialect) (w : Crowd κ) (c : κ) : Crowd κ :=
  match w.progress c with
  | .arrived =>
    match w.shelf.get? (wants c) with
    | some t => { w with progress := Function.update w.progress c (.answered (.ok t)) }
    | none => { w with progress := Function.update w.progress c .waiting }
  | .waiting =>
    let (answer, shelf, _) := w.shelf.build e (wants c)
    ⟨shelf, Function.update w.progress c (.answered answer)⟩
  | .answered _ => w

/-- What a shelf and its callers are like when some of these have built, each once. -/
structure Holds (w : Crowd κ) (e : Entity) (wants : κ → Dialect) (builders : List κ) : Prop where
  shelf : w.shelf.Holds e (builders.map wants)
  nodup : builders.Nodup
  progress (c : κ) : (w.progress c).Holds e wants builders c

theorem Holds.update {p : Progress} {c : κ} (h : w.Holds e wants builders)
    (hp : p.Holds e wants builders c) :
    Holds ⟨w.shelf, Function.update w.progress c p⟩ e wants builders where
  shelf := h.shelf
  nodup := h.nodup
  progress c' := by
    by_cases hc : c' = c
    · rw [hc]
      simpa using hp
    · simpa [Function.update_of_ne hc] using h.progress c'

theorem Holds.step (h : w.Holds e wants builders) (c : κ) :
    ∃ builders, (w.step e wants c).Holds e wants builders := by
  have hc := h.progress c
  unfold Crowd.step
  cases hprogress : w.progress c with
  | answered answer => exact ⟨builders, h⟩
  | arrived =>
    rw [hprogress] at hc
    cases hget : w.shelf.get? (wants c) with
    | some t =>
      obtain ⟨hasked, hok⟩ := h.shelf.get?_eq_some_iff.1 hget
      exact ⟨builders, h.update ⟨hasked, hok.symm⟩⟩
    | none => exact ⟨builders, h.update hc⟩
  | waiting =>
    have hnew : c ∉ builders := by rwa [hprogress] at hc
    obtain ⟨hanswer, hshelf⟩ := h.shelf.build (wants c)
    refine ⟨builders ++ [c], by simpa using hshelf, ?_, fun c' => ?_⟩
    · exact List.nodup_append.2 ⟨h.nodup, List.nodup_singleton c, by grind⟩
    · by_cases hc' : c' = c
      · subst hc'
        simpa [Progress.Holds] using hanswer
      · simpa [Function.update_of_ne hc'] using (h.progress c').concat hc'

/-- The callers go on in some order. -/
def run (e : Entity) (wants : κ → Dialect) (w : Crowd κ) (schedule : List κ) : Crowd κ :=
  schedule.foldl (step e wants) w

theorem Holds.run (h : w.Holds e wants builders) (schedule : List κ) :
    ∃ builders, (w.run e wants schedule).Holds e wants builders := by
  induction schedule generalizing w builders with
  | nil => exact ⟨builders, h⟩
  | cons c schedule ih =>
    obtain ⟨builders, h⟩ := h.step c
    exact ih h

/-- In whatever order callers go on who look for their tables at the same time, whoever has an
answer has that of a table built afresh, and the mapping has been consulted as if only those who
built had called, one after the other. So where it is sound it has been consulted once for each
dialect, however many callers there are. -/
theorem run_initial (e : Entity) (wants : κ → Dialect) (schedule : List κ) :
    ∃ builders : List κ, builders.Nodup ∧
      (initial.run e wants schedule).shelf.consulted = e.consultations (builders.map wants) ∧
      ∀ c answer, (initial.run e wants schedule).progress c = .answered answer →
        wants c ∈ builders.map wants ∧ answer = Table.ofEntity e (wants c) := by
  have hinitial : initial.Holds e wants [] := ⟨.empty e, .nil, fun _ => List.not_mem_nil⟩
  obtain ⟨builders, h⟩ := hinitial.run schedule
  refine ⟨builders, h.nodup, h.shelf.consulted_eq, fun c answer hanswer => ?_⟩
  simpa [hanswer, Progress.Holds] using h.progress c

end Crowd

end Crowd

end Sift
