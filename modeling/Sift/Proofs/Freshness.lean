import Mathlib.Data.List.Induction
import Sift.Proofs.Binding

/-!
# When generated names are fresh

Values are bound one after the other, each under a leading text of the caller's choice. A name is
the leading text and a number, so the names of one leading text never meet. Those of two meet if one
leading text is the other with a number behind it: `P1` gives out `P11` first, and `P` gives it out
as its eleventh name. `Crossing` says when a run has come that far. The main result is
`Params.fresh_iff`: no name is given out twice, and every value is found under its name, if and only
if no two leading texts cross.
-/
namespace Sift

/-! ## Numbers that begin with other numbers -/

/-- What stands in front of the last digits of a number is a number. -/
theorem exists_leading_number {ds es : List Char} {m : ℕ} (hds : ds ≠ []) (hes : es ≠ [])
    (h : Nat.toDigits 10 m = ds ++ es) : ∃ d, 0 < d ∧ ds = Nat.toDigits 10 d := by
  induction es using List.reverseRecOn generalizing m with
  | nil => exact absurd rfl hes
  | append_singleton es c ih =>
    have hlong : 10 ≤ m := by
      by_contra hshort
      have hlength := congrArg List.length h
      rw [Nat.toDigits_of_lt_base (by omega)] at hlength
      have hpos := List.length_pos_iff.2 hds
      simp only [List.length_append, List.length_cons, List.length_nil] at hlength
      omega
    rw [Nat.toDigits_of_base_le (by decide) hlong, ← List.append_assoc] at h
    have hrest := (List.append_inj' h rfl).1
    by_cases hnil : es = []
    · subst hnil
      rw [List.append_nil] at hrest
      exact ⟨m / 10, Nat.div_pos hlong (by decide), hrest.symm⟩
    · exact ih hnil hrest

namespace Params

theorem toList_toString (n : ℕ) : (toString n).toList = Nat.toDigits 10 n := by
  rw [Nat.toString_eq_repr, Nat.toList_repr]

/-- A name that begins with a longer leading text gives the number by which it is longer. -/
theorem exists_number_between {shorter longer : String} {m n : ℕ} {ds : List Char} (hds : ds ≠ [])
    (hn : 0 < n) (hlonger : longer.toList = shorter.toList ++ ds)
    (h : Nat.toDigits 10 m = ds ++ Nat.toDigits 10 n) :
    ∃ d, 0 < d ∧ longer = shorter ++ toString d ∧ 10 * d < m := by
  obtain ⟨d, hd, rfl⟩ := exists_leading_number hds Nat.toDigits_ne_nil h
  refine ⟨d, hd, ?_, ?_⟩
  · apply String.toList_injective
    rw [hlonger, String.toList_append, toList_toString]
  · have hvalue : m = 10 ^ (Nat.toDigits 10 n).length * d + n := by
      have hread := congrArg (fun digits => Nat.ofDigitChars 10 digits 0) h
      simp only [Nat.ofDigitChars_append, Nat.ofDigitChars_ten_toDigits] at hread
      rw [hread, Nat.ofDigitChars_eq_ofDigitChars_zero, Nat.ofDigitChars_ten_toDigits]
    have hplaces : 10 ^ 1 ≤ 10 ^ (Nat.toDigits 10 n).length :=
      Nat.pow_le_pow_right (by decide) Nat.length_toDigits_pos
    have hshift := Nat.mul_le_mul_right d hplaces
    omega

/-- Names of different leading texts meet only if one leading text is the other with a number behind
it, and then not before the other has given out ten times as many. -/
theorem eq_append_of_meet {s stem : String} {m n : ℕ} (hne : s ≠ stem) (hm : 0 < m) (hn : 0 < n)
    (h : s ++ toString n = stem ++ toString m) :
    (∃ d, 0 < d ∧ s = stem ++ toString d ∧ 10 * d < m) ∨
      ∃ d, 0 < d ∧ stem = s ++ toString d ∧ 10 * d < n := by
  have hlist := congrArg String.toList h
  simp only [String.toList_append, toList_toString] at hlist
  have hapart {a b : String} {ds : List Char} (hab : a.toList = b.toList ++ ds) (hne : a ≠ b) :
      ds ≠ [] := by
    rintro rfl
    exact hne (String.toList_injective (by simpa using hab))
  rcases List.append_eq_append_iff.1 hlist with ⟨ds, hstem, hdigits⟩ | ⟨ds, hs, hdigits⟩
  · exact .inr (exists_number_between (hapart hstem hne.symm) hm hstem hdigits)
  · exact .inl (exists_number_between (hapart hs hne) hn hs hdigits)

/-- The eleventh of ten names more is the first name of the longer leading text. -/
theorem toString_ten_mul_add_one {d : ℕ} (hd : 0 < d) :
    toString (10 * d + 1) = toString d ++ toString 1 := by
  apply String.toList_injective
  rw [String.toList_append, toList_toString, toList_toString, toList_toString,
    Nat.toDigits_append_toDigits (by decide) hd (by decide)]

theorem count_concat_self (stems : List String) (s : String) :
    (stems ++ [s]).count s = stems.count s + 1 := by
  simp

theorem count_concat_of_ne (stems : List String) {s stem : String} (h : stem ≠ s) :
    (stems ++ [s]).count stem = stems.count stem := by
  have hlast : [s].count stem = 0 := List.count_eq_zero_of_not_mem (by simpa using h)
  rw [List.count_append, hlast, Nat.add_zero]

/-! ## Binding under several leading texts -/

/-- Bind values in order, each under its own leading text; the slots are those of the values. -/
def bindEach : List (String × Value) → Params → List Slot × Params
  | [], ps => ([], ps)
  | (stem, v) :: rest, ps =>
    let bound := ps.bind stem v
    let others := bindEach rest bound.2
    (bound.1 :: others.1, others.2)

@[simp] theorem bindEach_nil (ps : Params) : bindEach [] ps = ([], ps) := rfl

theorem bindEach_concat (pushes : List (String × Value)) (stem : String) (v : Value)
    (ps : Params) : bindEach (pushes ++ [(stem, v)]) ps =
      ((bindEach pushes ps).1 ++ [((bindEach pushes ps).2.bind stem v).1],
        ((bindEach pushes ps).2.bind stem v).2) := by
  induction pushes generalizing ps with
  | nil => rfl
  | cons push rest ih =>
    rw [List.cons_append, bindEach, bindEach, ih]
    rfl

theorem length_bindEach (pushes : List (String × Value)) (ps : Params) :
    (bindEach pushes ps).1.length = pushes.length := by
  induction pushes generalizing ps with
  | nil => rfl
  | cons push rest ih => rw [bindEach, List.length_cons, ih, List.length_cons]

/-- What is given out is what is registered. -/
theorem slots_bindEach (pushes : List (String × Value)) :
    (bindEach pushes empty).1 = (bindEach pushes empty).2.slots := by
  induction pushes using List.reverseRecOn with
  | nil => rfl
  | append_singleton pushes push ih => rw [bindEach_concat, slots_bind, ih]

theorem map_name_slots (ps : Params) : ps.slots.map Slot.name = ps.names := by
  rw [slots, List.map_map]
  exact List.zipIdx_map_fst 0 ps.names

theorem values_bindEach (pushes : List (String × Value)) :
    (bindEach pushes empty).2.values = pushes.map Prod.snd := by
  induction pushes using List.reverseRecOn with
  | nil => rfl
  | append_singleton pushes push ih =>
    rw [bindEach_concat, List.map_append, ← ih]
    simp [values]

/-- A leading text has given out as many names as values were bound under it. -/
theorem issued_bindEach (pushes : List (String × Value)) (stem : String) :
    (bindEach pushes empty).2.issued stem = (pushes.map Prod.fst).count stem := by
  induction pushes using List.reverseRecOn with
  | nil => rfl
  | append_singleton pushes push ih =>
    rw [bindEach_concat, issued_bind, List.map_append, List.map_singleton]
    by_cases h : stem = push.1
    · subst h
      rw [if_pos rfl, count_concat_self, ih]
    · rw [if_neg h, count_concat_of_ne _ h, ih]

/-- The names of the next value: its leading text with one more than has been given out. -/
theorem names_bindEach_concat (pushes : List (String × Value)) (stem : String) (v : Value) :
    (bindEach (pushes ++ [(stem, v)]) empty).2.names = (bindEach pushes empty).2.names ++
      [stem ++ toString ((pushes.map Prod.fst).count stem + 1)] := by
  rw [bindEach_concat, ← issued_bindEach]
  simp [names]

/-- A name has been given out if its number is not beyond those of its leading text. -/
theorem mem_names_bindEach {pushes : List (String × Value)} {name : String} :
    name ∈ (bindEach pushes empty).2.names ↔
      ∃ stem n, 0 < n ∧ n ≤ (pushes.map Prod.fst).count stem ∧ name = stem ++ toString n := by
  induction pushes using List.reverseRecOn with
  | nil =>
    constructor
    · rintro ⟨⟩
    · rintro ⟨stem, n, hpos, hle, -⟩
      simp only [List.map_nil, List.count_nil] at hle
      omega
  | append_singleton pushes push ih =>
    obtain ⟨s, v⟩ := push
    rw [names_bindEach_concat, List.mem_append, List.mem_singleton, ih, List.map_append,
      List.map_singleton]
    constructor
    · rintro (⟨stem, n, hpos, hle, rfl⟩ | rfl)
      · refine ⟨stem, n, hpos, ?_, rfl⟩
        rw [List.count_append]
        exact Nat.le_add_right_of_le hle
      · exact ⟨s, _, Nat.succ_pos _, Nat.le_of_eq (count_concat_self _ s).symm, rfl⟩
    · rintro ⟨stem, n, hpos, hle, rfl⟩
      by_cases hn : n ≤ (pushes.map Prod.fst).count stem
      · exact .inl ⟨stem, n, hpos, hn, rfl⟩
      · -- only the leading text of the last value has got that far
        have hs : stem = s := by
          by_contra hne
          exact hn (count_concat_of_ne _ hne ▸ hle)
        subst hs
        rw [count_concat_self] at hle
        have hlast : n = (pushes.map Prod.fst).count stem + 1 := by omega
        exact .inr (by rw [hlast])

/-! ## Crossing -/

/-- Some leading text is another one with a number behind it, and the other has given out more than
ten times as many names as the number says. -/
def Crossing (stems : List String) : Prop :=
  ∃ stem d, 0 < d ∧ stem ++ toString d ∈ stems ∧ 10 * d < stems.count stem

theorem not_crossing_nil : ¬Crossing [] := by
  rintro ⟨stem, d, -, hmem, -⟩
  cases hmem

/-- Leading texts that cross go on to do so. -/
theorem Crossing.concat {stems : List String} (h : Crossing stems) (s : String) :
    Crossing (stems ++ [s]) := by
  obtain ⟨stem, d, hd, hmem, hcount⟩ := h
  refine ⟨stem, d, hd, List.mem_append_left _ hmem, ?_⟩
  rw [List.count_append]
  exact Nat.lt_add_right _ hcount

/-- One more value makes leading texts cross where its name is taken. -/
theorem crossing_concat_iff {pushes : List (String × Value)} {s : String} :
    Crossing (pushes.map Prod.fst ++ [s]) ↔ Crossing (pushes.map Prod.fst) ∨
      s ++ toString ((pushes.map Prod.fst).count s + 1) ∈ (bindEach pushes empty).2.names := by
  rw [mem_names_bindEach]
  generalize pushes.map Prod.fst = stems
  constructor
  · rintro ⟨stem, d, hd, hmem, hcount⟩
    by_cases hstem : stem = s
    · subst hstem
      rw [count_concat_self] at hcount
      have hlonger : stem ++ toString d ∈ stems := by
        refine (List.mem_append.1 hmem).resolve_right fun hlast => ?_
        simp at hlast
      by_cases hlast : 10 * d < stems.count stem
      · exact .inl ⟨stem, d, hd, hlonger, hlast⟩
      · refine .inr ⟨stem ++ toString d, 1, Nat.one_pos, List.count_pos_iff.2 hlonger, ?_⟩
        rw [String.append_assoc, ← toString_ten_mul_add_one hd]
        congr 2
        omega
    · rw [count_concat_of_ne _ hstem] at hcount
      rcases List.mem_append.1 hmem with hearlier | hlast
      · exact .inl ⟨stem, d, hd, hearlier, hcount⟩
      · obtain rfl := List.mem_singleton.1 hlast
        by_cases hseen : stem ++ toString d ∈ stems
        · exact .inl ⟨stem, d, hd, hseen, hcount⟩
        · refine .inr ⟨stem, 10 * d + 1, Nat.succ_pos _, hcount, ?_⟩
          rw [List.count_eq_zero_of_not_mem hseen, toString_ten_mul_add_one hd,
            String.append_assoc]
  · rintro (h | ⟨stem, m, hm, hle, hmeet⟩)
    · exact h.concat s
    · have hne : s ≠ stem := by
        rintro rfl
        have hnumber := toString_injective ((String.append_right_inj s).1 hmeet)
        omega
      have hseen : stem ∈ stems := List.count_pos_iff.1 (by omega)
      rcases eq_append_of_meet hne hm (Nat.succ_pos _) hmeet with
        ⟨d, hd, rfl, hbefore⟩ | ⟨d, hd, rfl, hbefore⟩
      · refine ⟨stem, d, hd, List.mem_append_right _ (List.mem_singleton_self _), ?_⟩
        rw [count_concat_of_ne _ hne.symm]
        omega
      · refine ⟨s, d, hd, List.mem_append_left _ hseen, ?_⟩
        rw [count_concat_self]
        exact hbefore

/-- Names are given out once as long as no leading texts cross. -/
theorem nodup_names_bindEach_iff (pushes : List (String × Value)) :
    (bindEach pushes empty).2.names.Nodup ↔ ¬Crossing (pushes.map Prod.fst) := by
  induction pushes using List.reverseRecOn with
  | nil => exact iff_of_true List.nodup_nil not_crossing_nil
  | append_singleton pushes push ih =>
    rw [names_bindEach_concat, List.nodup_append, ih, List.map_append, List.map_singleton,
      crossing_concat_iff, not_or]
    simp only [List.nodup_singleton, List.mem_singleton, true_and]
    refine and_congr_right fun _ => ⟨fun h hmem => h _ hmem _ rfl rfl, fun h name hname _ he => ?_⟩
    rintro rfl
    exact h (he ▸ hname)

/-! ## Values found under their names -/

/-- Every value is found under the name that was given out for it. -/
def FindsEach (pushes : List (String × Value)) : Prop :=
  ∀ (k : ℕ) (slot : Slot) (v : Value), (bindEach pushes empty).1[k]? = some slot →
    (pushes.map Prod.snd)[k]? = some v → (bindEach pushes empty).2.get? slot.name = some v

theorem getElem?_toList {ps : Params} {k : ℕ} {slot : Slot} {v : Value}
    (hslot : ps.slots[k]? = some slot) (hv : ps.values[k]? = some v) :
    ps.toList[k]? = some ⟨slot.name, v⟩ := by
  have hname : ps.names[k]? = some slot.name := by
    rw [← map_name_slots, List.getElem?_map, hslot]
    rfl
  rw [names, List.getElem?_map] at hname
  rw [values, List.getElem?_map] at hv
  obtain ⟨p, hp, hpname⟩ := Option.map_eq_some_iff.1 hname
  obtain ⟨q, hq, hqvalue⟩ := Option.map_eq_some_iff.1 hv
  obtain rfl := Option.some.inj (hp.symm.trans hq)
  rw [hp, ← hpname, ← hqvalue]

theorem findsEach_of_nodup {pushes : List (String × Value)}
    (h : (bindEach pushes empty).2.names.Nodup) : FindsEach pushes := by
  intro k slot v hslot hv
  rw [slots_bindEach] at hslot
  rw [← values_bindEach] at hv
  exact get?_of_nodup h (getElem?_toList hslot hv)

/-- The given leading texts, each with its place as the value. -/
def labelled (stems : List String) : List (String × Value) :=
  stems.zipIdx.map fun (stem, i) => (stem, .text (toString i))

theorem map_fst_labelled (stems : List String) : (labelled stems).map Prod.fst = stems := by
  rw [labelled, List.map_map]
  exact List.zipIdx_map_fst 0 stems

/-- The names of a run depend on the leading texts alone. -/
theorem names_bindEach_congr {pushes pushes' : List (String × Value)}
    (h : pushes'.map Prod.fst = pushes.map Prod.fst) :
    (bindEach pushes' empty).2.names = (bindEach pushes empty).2.names := by
  induction pushes using List.reverseRecOn generalizing pushes' with
  | nil =>
    obtain rfl := List.map_eq_nil_iff.1 h
    rfl
  | append_singleton pushes push ih =>
    rw [List.map_append] at h
    obtain ⟨before, last, rfl, hbefore, hlast⟩ := List.map_eq_append_iff.1 h
    obtain ⟨push', rfl, hpush⟩ := List.map_eq_singleton_iff.1 hlast
    rw [names_bindEach_concat, names_bindEach_concat, ih hbefore, hbefore, hpush]

/-- Values that are all different are found under their names only if the names are different. -/
theorem nodup_of_findsEach_labelled {stems : List String} (h : FindsEach (labelled stems)) :
    (bindEach (labelled stems) empty).2.names.Nodup := by
  have hfound {k : ℕ} {name : String}
      (hname : (bindEach (labelled stems) empty).2.names[k]? = some name) :
      (bindEach (labelled stems) empty).2.get? name = some (.text (toString k)) := by
    rw [← map_name_slots, ← slots_bindEach, List.getElem?_map] at hname
    obtain ⟨slot, hslot, rfl⟩ := Option.map_eq_some_iff.1 hname
    refine h k slot _ hslot ?_
    have hlt : k < stems.length := by
      have hlength := (List.getElem?_eq_some_iff.1 hslot).1
      rwa [length_bindEach, ← List.length_map Prod.fst, map_fst_labelled] at hlength
    simp [labelled, hlt]
  rw [List.nodup_iff_getElem?_ne_getElem?]
  intro i j hij hj heq
  have hlast := List.getElem?_eq_getElem hj
  have hsame := (hfound (heq.trans hlast)).symm.trans (hfound hlast)
  have hplace := toString_injective (Value.text.inj (Option.some.inj hsame))
  omega

/-- No name is given out twice if and only if no leading texts cross. This is also when every value
is found under its name, whatever the values are. -/
theorem fresh_iff (pushes : List (String × Value)) :
    (((bindEach pushes empty).1.map Slot.name).Nodup ↔ ¬Crossing (pushes.map Prod.fst)) ∧
    ((∀ pushes', pushes'.map Prod.fst = pushes.map Prod.fst → FindsEach pushes') ↔
      ¬Crossing (pushes.map Prod.fst)) := by
  have hnames := nodup_names_bindEach_iff pushes
  refine ⟨?_, fun h => ?_, fun h pushes' hstems => ?_⟩
  · rw [slots_bindEach, map_name_slots, hnames]
  · have hlabelled := map_fst_labelled (pushes.map Prod.fst)
    rw [← hnames, ← names_bindEach_congr hlabelled]
    exact nodup_of_findsEach_labelled (h _ hlabelled)
  · apply findsEach_of_nodup
    rw [names_bindEach_congr hstems]
    exact hnames.2 h

/-- One value under `P1` and eleven under `P`. -/
def crossedPushes : List (String × Value) := ("P1", .int 1) :: List.replicate 11 ("P", .int 2)

/-- The first value and the last get one name, and the last is not found under it. -/
theorem not_findsEach_crossedPushes :
    (bindEach crossedPushes empty).1[0]? = some ⟨"P11", 1⟩ ∧
      (bindEach crossedPushes empty).1[11]? = some ⟨"P11", 12⟩ ∧
      (bindEach crossedPushes empty).2.get? "P11" = some (.int 1) ∧
      ¬((bindEach crossedPushes empty).1.map Slot.name).Nodup ∧ ¬FindsEach crossedPushes := by
  have hfirst : (bindEach crossedPushes empty).1[0]? = some ⟨"P11", 1⟩ := rfl
  have hlast : (bindEach crossedPushes empty).1[11]? = some ⟨"P11", 12⟩ := rfl
  have hget : (bindEach crossedPushes empty).2.get? "P11" = some (.int 1) := rfl
  refine ⟨hfirst, hlast, hget, fun hnodup => ?_, fun hfinds => ?_⟩
  · rw [List.nodup_iff_getElem?_ne_getElem?] at hnodup
    refine hnodup 0 11 (by decide) (by decide) ?_
    rw [List.getElem?_map, List.getElem?_map, hfirst, hlast]
    rfl
  · have hvalue := hfinds 11 ⟨"P11", 12⟩ (.int 2) hlast rfl
    rw [hget] at hvalue
    cases hvalue

end Params

end Sift
