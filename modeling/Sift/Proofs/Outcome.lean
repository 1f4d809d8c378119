import Mathlib.Data.List.Forall2

/-!
# Results that may be errors

What it takes for a computation of several steps to succeed: each of its steps has succeeded.
-/
namespace Sift

variable {ε ε' α β : Type}

/-- A sequence succeeds if its first step does and the rest does on what that step gave. -/
theorem bind_eq_ok_iff {x : Except ε α} {f : α → Except ε β} {b : β} :
    x >>= f = .ok b ↔ ∃ a, x = .ok a ∧ f a = .ok b := by
  cases x with
  | error e => simp [bind, Except.bind]
  | ok a => simp [bind, Except.bind]

/-- A sequence fails if its first step does, or else the rest on what that step gave. -/
theorem bind_eq_error_iff {x : Except ε α} {f : α → Except ε β} {e : ε} :
    x >>= f = .error e ↔ x = .error e ∨ ∃ a, x = .ok a ∧ f a = .error e := by
  cases x with
  | error e' => simp [bind, Except.bind]
  | ok a => simp [bind, Except.bind]

/-- Changing a result keeps success. -/
theorem map_eq_ok_iff {x : Except ε α} {f : α → β} {b : β} :
    x.map f = .ok b ↔ ∃ a, x = .ok a ∧ f a = b := by
  cases x with
  | error e => simp [Except.map]
  | ok a => simp [Except.map]

/-- Changing a result keeps errors. -/
theorem map_eq_error_iff {x : Except ε α} {f : α → β} {e : ε} :
    x.map f = .error e ↔ x = .error e := by
  cases x with
  | error e' => simp [Except.map]
  | ok a => simp [Except.map]

/-- Two changes of a result are one. -/
theorem map_map {γ : Type} {f : α → β} {g : β → γ} (x : Except ε α) :
    (x.map f).map g = x.map fun a => g (f a) := by
  cases x <;> rfl

/-- Changing an error keeps success. -/
theorem mapError_eq_ok_iff {x : Except ε α} {f : ε → ε'} {a : α} :
    x.mapError f = .ok a ↔ x = .ok a := by
  cases x with
  | error e =>
    constructor
    · rintro ⟨⟩
    · rintro ⟨⟩
  | ok b =>
    constructor
    · rintro ⟨⟩
      rfl
    · rintro ⟨⟩
      rfl

theorem mapError_eq_error_iff {x : Except ε α} {f : ε → ε'} {e' : ε'} :
    x.mapError f = .error e' ↔ ∃ e, x = .error e ∧ f e = e' := by
  cases x with
  | error e => simp [Except.mapError]
  | ok a => simp [Except.mapError]

/-- A list of computations succeeds if each of them does. -/
theorem mapM_eq_ok_iff {f : α → Except ε β} {as : List α} {bs : List β} :
    as.mapM f = .ok bs ↔ List.Forall₂ (fun a b => f a = .ok b) as bs := by
  induction as generalizing bs with
  | nil =>
    rw [List.mapM_nil, List.forall₂_nil_left_iff]
    constructor
    · intro h
      cases h
      rfl
    · rintro rfl
      rfl
  | cons a as ih =>
    rw [List.mapM_cons, List.forall₂_cons_left_iff]
    constructor
    · intro h
      obtain ⟨b, hb, h⟩ := bind_eq_ok_iff.1 h
      obtain ⟨rest, hrest, h⟩ := bind_eq_ok_iff.1 h
      cases h
      exact ⟨b, rest, hb, ih.1 hrest, rfl⟩
    · rintro ⟨b, rest, hb, hrest, rfl⟩
      exact bind_eq_ok_iff.2 ⟨b, hb, bind_eq_ok_iff.2 ⟨rest, ih.2 hrest, rfl⟩⟩

/-- What a list of computations was made on can be told from its results, if that of one can. -/
theorem map_of_mapM {f : α → Except ε β} {origin : β → α} {P : β → Prop}
    (hf : ∀ a b, f a = .ok b → origin b = a ∧ P b) {as : List α} {bs : List β}
    (h : as.mapM f = .ok bs) : bs.map origin = as ∧ ∀ b ∈ bs, P b := by
  have hresults := mapM_eq_ok_iff.1 h
  clear h
  induction hresults with
  | nil => exact ⟨rfl, List.forall_mem_nil P⟩
  | cons hb _ ih =>
    obtain ⟨horigin, hP⟩ := hf _ _ hb
    exact ⟨List.cons_eq_cons.2 ⟨horigin, ih.1⟩, List.forall_mem_cons.2 ⟨hP, ih.2⟩⟩

theorem exists_mapM_of_forall {f : α → Except ε β} {as : List α} (h : ∀ a ∈ as, ∃ b, f a = .ok b) :
    ∃ bs, as.mapM f = .ok bs := by
  induction as with
  | nil => exact ⟨[], rfl⟩
  | cons a as ih =>
    obtain ⟨b, hb⟩ := h a (List.mem_cons_self ..)
    obtain ⟨bs, hbs⟩ := ih fun a' ha' => h a' (List.mem_cons_of_mem a ha')
    refine ⟨b :: bs, mapM_eq_ok_iff.2 ?_⟩
    exact .cons hb (mapM_eq_ok_iff.1 hbs)

/-- A list of computations fails with the only error that occurs in it. -/
theorem mapM_eq_error_of_mem {f : α → Except ε β} {as : List α} {e : ε}
    (h : ∃ a ∈ as, f a = .error e) (only : ∀ a ∈ as, ∀ e', f a = .error e' → e' = e) :
    as.mapM f = .error e := by
  induction as with
  | nil =>
    obtain ⟨a, ha, -⟩ := h
    cases ha
  | cons a as ih =>
    rw [List.forall_mem_cons] at only
    rw [List.mapM_cons, bind_eq_error_iff]
    cases hfirst : f a with
    | error e' =>
      rw [only.1 e' hfirst]
      exact .inl rfl
    | ok b =>
      obtain ⟨a', ha', hlater⟩ := h
      rcases List.mem_cons.1 ha' with rfl | ha'
      · rw [hfirst] at hlater
        cases hlater
      · exact .inr ⟨b, rfl, bind_eq_error_iff.2 (.inl (ih ⟨a', ha', hlater⟩ only.2))⟩

/-- Lists of equal computations give the same. -/
theorem mapM_eq_of_forall₂ {α' : Type} {f : α → Except ε β} {g : α' → Except ε β} {as : List α}
    {as' : List α'} (h : List.Forall₂ (fun a a' => f a = g a') as as') :
    as.mapM f = as'.mapM g := by
  induction h with
  | nil => rfl
  | cons hfirst _ ih => rw [List.mapM_cons, List.mapM_cons, hfirst, ih]

/-! ## Checks one after the other -/

/-- Checks one after the other succeed if each of them does. -/
theorem forM_eq_ok_iff {f : α → Except ε Unit} {as : List α} :
    as.forM f = .ok () ↔ ∀ a ∈ as, f a = .ok () := by
  induction as with
  | nil => exact ⟨fun _ => nofun, fun _ => rfl⟩
  | cons a as ih =>
    have hcons : (a :: as).forM f = f a >>= fun _ => as.forM f := rfl
    rw [hcons, bind_eq_ok_iff, List.forall_mem_cons, ← ih]
    exact ⟨fun ⟨_, ha, has⟩ => ⟨ha, has⟩, fun ⟨ha, has⟩ => ⟨(), ha, has⟩⟩

/-- Checks one after the other fail as the first of them does that fails. -/
theorem forM_eq_error_iff {f : α → Except ε Unit} {as : List α} {e : ε} :
    as.forM f = .error e ↔
      ∃ before a after, as = before ++ a :: after ∧ (∀ b ∈ before, f b = .ok ()) ∧
        f a = .error e := by
  induction as with
  | nil =>
    constructor
    · intro h
      cases h
    · rintro ⟨before, a, after, h, -⟩
      exact absurd h.symm (List.append_ne_nil_of_right_ne_nil before (List.cons_ne_nil a after))
  | cons first rest ih =>
    have hcons : (first :: rest).forM f = f first >>= fun _ => rest.forM f := rfl
    rw [hcons, bind_eq_error_iff]
    constructor
    · rintro (hfirst | ⟨_, hfirst, hrest⟩)
      · exact ⟨[], first, rest, rfl, nofun, hfirst⟩
      · obtain ⟨before, a, after, rfl, hbefore, ha⟩ := ih.1 hrest
        exact ⟨first :: before, a, after, rfl, List.forall_mem_cons.2 ⟨hfirst, hbefore⟩, ha⟩
    · rintro ⟨before, a, after, hsplit, hbefore, ha⟩
      cases before with
      | nil =>
        cases hsplit
        exact .inl ha
      | cons b before =>
        cases hsplit
        obtain ⟨hfirst, hbefore⟩ := List.forall_mem_cons.1 hbefore
        exact .inr ⟨(), hfirst, ih.2 ⟨before, a, after, rfl, hbefore, ha⟩⟩

/-! ## Two computations side by side -/

/-- Both fail, or both succeed with related results. -/
inductive Agree {β' : Type} (R : α → β' → Prop) : Except ε α → Except ε β' → Prop
  | error (e e' : ε) : Agree R (.error e) (.error e')
  | ok {a : α} {b : β'} (h : R a b) : Agree R (.ok a) (.ok b)

namespace Agree

variable {α' β' : Type} {R : α → α' → Prop} {S : β → β' → Prop} {x : Except ε α} {y : Except ε α'}

theorem refl (x : Except ε α) : Agree (· = ·) x x := by
  cases x with
  | error e => exact .error e e
  | ok a => exact .ok rfl

/-- Computations that succeed alike agree, whatever their errors are. -/
theorem of_eq_ok_iff {y : Except ε α} (h : ∀ a, x = .ok a ↔ y = .ok a) : Agree (· = ·) x y := by
  cases x with
  | ok a =>
    rw [(h a).1 rfl]
    exact .ok rfl
  | error err =>
    cases y with
    | ok a => cases (h a).2 rfl
    | error err' => exact .error err err'

/-- Of computations that agree on one result both have it or neither. -/
theorem eq_ok_iff {y : Except ε α} (h : Agree (· = ·) x y) {a : α} : x = .ok a ↔ y = .ok a := by
  cases h with
  | error err err' =>
    constructor
    · intro h
      cases h
    · intro h
      cases h
  | ok hab => rw [hab]

theorem bind (h : Agree R x y) {f : α → Except ε β} {g : α' → Except ε β'}
    (hfg : ∀ a b, R a b → Agree S (f a) (g b)) : Agree S (x >>= f) (y >>= g) := by
  cases h with
  | error e e' => exact .error e e'
  | ok hab => exact hfg _ _ hab

theorem map (h : Agree R x y) {f : α → β} {g : α' → β'} (hfg : ∀ a b, R a b → S (f a) (g b)) :
    Agree S (x.map f) (y.map g) := by
  cases h with
  | error e e' => exact .error e e'
  | ok hab => exact .ok (hfg _ _ hab)

theorem imp {S : α → α' → Prop} (h : Agree R x y) (hRS : ∀ a b, R a b → S a b) : Agree S x y := by
  cases h with
  | error e e' => exact .error e e'
  | ok hab => exact .ok (hRS _ _ hab)

theorem mapError (h : Agree R x y) (f g : ε → ε') : Agree R (x.mapError f) (y.mapError g) := by
  cases h with
  | error e e' => exact .error (f e) (g e')
  | ok hab => exact .ok hab

end Agree

end Sift
