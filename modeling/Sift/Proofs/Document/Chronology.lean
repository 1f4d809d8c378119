import Sift.Proofs.Acceptance
import Sift.Proofs.Document.Agreement
import Sift.Proofs.Postgres.Cell
import Sift.Proofs.Timestamp

/-!
# A document store keeps timestamps in order

A document store has no timestamps: it is given their texts, to be stored and to compare with. The
texts sort as the instants do that they are of, for years of four digits: `Instant.sorts_as_text`.
Leap seconds are among them, at the end of a minute as they are and elsewhere as the second that
follows, `Instant.settled`. A relational store is given microseconds instead, in which a leap second
counts on from the second before it; so the two agree on what comes first as far as microseconds
tell and no leap second at the end of a minute is in play, and `Instant.disorder_leap` says how they
part.
-/
namespace Sift

/-! ## Order of the texts -/

namespace Instant

/-- The text that a document holds. -/
def stored (t : Instant) : String := t.text "+00:00"

@[simp] theorem toJson_timestamp (t : Instant) :
    (Value.timestamp t).toJson = .string t.stored := rfl

/-- How two instants follow each other. -/
def order (a b : Instant) : Ordering :=
  (compare a.second b.second).then (compare a.nano b.nano)

theorem order_eq_lt_iff {a b : Instant} : a.order b = .lt ↔ a.Before b := by
  rw [order, Before, Ordering.then_eq_lt, Int.compare_eq_lt, Int.compare_eq_eq, Nat.compare_eq_lt]

theorem order_eq_gt_iff {a b : Instant} : a.order b = .gt ↔ b.Before a := by
  rw [order, Before, Ordering.then_eq_gt, Int.compare_eq_gt, Int.compare_eq_eq, Nat.compare_eq_gt,
    eq_comm]

@[simp] theorem order_self (t : Instant) : t.order t = .eq := by
  rw [order, Ordering.then_eq_eq, Int.compare_eq_eq, Nat.compare_eq_eq]
  exact ⟨rfl, rfl⟩

@[simp] theorem stored_settled (t : Instant) : t.settled.stored = t.stored :=
  text_settled "+00:00" t

theorem stored_lt_of_before {a b : Instant} (ha : a.HasFourDigits) (hb : b.HasFourDigits)
    (hleap : a.LeapsInPlace) (h : a.Before b) : a.stored < b.stored := by
  have hzone : "+00:00".toList = '+' :: ['0', '0', ':', '0', '0'] := rfl
  exact text_lt_of_before hzone (by decide) ha hb hleap h

theorem stored_lt_of_settled_before {a b : Instant} (ha : a.HasFourDigits) (hb : b.HasFourDigits)
    (h : a.settled.Before b.settled) : a.stored < b.stored := by
  rw [← stored_settled a, ← stored_settled b]
  exact stored_lt_of_before (hasFourDigits_settled.2 ha) (hasFourDigits_settled.2 hb)
    a.leapsInPlace_settled h

theorem compare_of_lt {s u : String} (h : s < u) : compare s u = .lt := if_pos h

theorem compare_of_gt {s u : String} (h : u < s) : compare s u = .gt := by
  have hne : s ≠ u := by
    rintro rfl
    exact String.lt_irrefl s h
  exact (if_neg (String.lt_asymm h)).trans (if_neg hne)

/-- Texts follow each other as the instants do that they are of. -/
theorem compare_stored {a b : Instant} (ha : a.HasFourDigits) (hb : b.HasFourDigits) :
    compare a.stored b.stored = a.settled.order b.settled := by
  rcases before_trichotomy a.settled b.settled with hlt | heq | hgt
  · rw [order_eq_lt_iff.2 hlt, compare_of_lt (stored_lt_of_settled_before ha hb hlt)]
  · rw [← stored_settled a, heq, stored_settled, order_self, Std.compare_eq_iff_eq]
  · rw [order_eq_gt_iff.2 hgt, compare_of_gt (stored_lt_of_settled_before hb ha hgt)]

theorem stored_lt_iff {a b : Instant} (ha : a.HasFourDigits) (hb : b.HasFourDigits) :
    a.stored < b.stored ↔ a.settled.Before b.settled := by
  refine ⟨fun h => ?_, stored_lt_of_settled_before ha hb⟩
  rw [← order_eq_lt_iff, ← compare_stored ha hb, compare_of_lt h]

theorem stored_eq_iff {a b : Instant} (ha : a.HasFourDigits) (hb : b.HasFourDigits) :
    a.stored = b.stored ↔ a.settled = b.settled := by
  constructor
  · intro h
    have horder : a.settled.order b.settled = .eq := by
      rw [← compare_stored ha hb, h, Std.compare_eq_iff_eq]
    rcases before_trichotomy a.settled b.settled with hlt | heq | hgt
    · rw [order_eq_lt_iff.2 hlt] at horder
      cases horder
    · exact heq
    · rw [order_eq_gt_iff.2 hgt] at horder
      cases horder
  · intro h
    rw [← stored_settled a, h, stored_settled]

/-! ## Order of the microseconds -/

@[simp] theorem sinceMillennium_settled (t : Instant) :
    t.settled.sinceMillennium = t.sinceMillennium := by
  obtain ⟨-, hsame⟩ | ⟨hleap, -, hsettled, hnano⟩ := t.settled_cases
  · rw [hsame]
  · rw [sinceMillennium, sinceMillennium, hsettled, hnano]
    omega

/-- Outside the leap seconds at the end of a minute, instants follow each other as their distances
from 2000 do. -/
theorem settled_before_iff {a b : Instant} (ha : a.settled.nano < 1000000000)
    (hb : b.settled.nano < 1000000000) :
    a.settled.Before b.settled ↔ a.sinceMillennium < b.sinceMillennium := by
  rw [← sinceMillennium_settled a, ← sinceMillennium_settled b, sinceMillennium, sinceMillennium,
    Before]
  omega

theorem sinceMillennium_lt_of_micros_lt {a b : Instant} (h : a.micros < b.micros) :
    a.sinceMillennium < b.sinceMillennium := by
  have ha := a.micros_bounds
  have hb := b.micros_bounds
  omega

/-- Nothing is cut off from whole microseconds. -/
theorem sinceMillennium_of_dvd {t : Instant} (h : 1000 ∣ t.nano) :
    t.sinceMillennium = 1000 * t.micros := by
  have hbounds := t.micros_bounds
  have hwhole : (1000 : Int) ∣ t.sinceMillennium := by
    unfold sinceMillennium
    omega
  omega

end Instant

/-! ## Timestamps in documents and filters -/

/-- The values that a plan stores, each in a field. -/
def Plan.stored : Plan → List (Field × Value)
  | update _ assigned => assigned
  | insert values => values
  | _ => []

/-- The members that a command stores. -/
def Command.stored : Command → List (String × Json)
  | update _ _ assigned => assigned
  | insert _ document => document
  | _ => []

/-- A command stores the values of its plan. -/
theorem Command.stored_ofPlan {t : Table} {p : Plan} {cmd : Command} (h : ofPlan t p = .ok cmd) :
    cmd.stored = members p.stored := by
  cases p with
  | select s =>
    rw [ofPlan] at h
    split at h
    · cases h
    · obtain ⟨filter, -, rfl⟩ := map_eq_ok_iff.1 h
      rfl
  | count filter =>
    obtain ⟨_, -, rfl⟩ := map_eq_ok_iff.1 h
    rfl
  | update filter assigned =>
    rw [ofPlan] at h
    split at h
    · cases h
    · obtain ⟨_, -, rfl⟩ := map_eq_ok_iff.1 h
      rfl
  | delete filter =>
    obtain ⟨_, -, rfl⟩ := map_eq_ok_iff.1 h
    rfl
  | insert values =>
    cases h
    rfl

/-- Texts are compared character by character. -/
def Comparison.OrdersTexts (cmp : Comparison) : Prop :=
  ∀ op s u, cmp.test op (.text s) (.text u) = op.admits (some (compare s u))

/-- A store that compares nothing but values of one type compares texts so. -/
theorem Comparison.ordersTexts_withinTypes : withinTypes.OrdersTexts := fun _ _ _ => rfl

theorem Comparison.holds_text {cmp : Comparison} (h : cmp.OrdersTexts) (op : Comparator)
    (s u : String) : cmp.holds op (.text s) (.text u) = op.admits (some (compare s u)) := by
  rw [← h]
  cases op with
  | ne => exact (cmp.test_ne (.text s) (.text u)).symm
  | _ => rfl

/-- A comparison with what documents hold as a text says of a text what it says of the two texts. -/
theorem Clause.holdsOn_filter_of_text {cmp : Comparison} (hcmp : cmp.OrdersTexts) (f : Field)
    (op : Comparator) {v : Value} {s u : String} (hv : v.toJson = .string u)
    (hnull : v.isNull = false) {doc : Document} (hdoc : doc f.column = some (.string s)) :
    (ofComparison f op v).filter.holdsOn cmp doc = op.admits (some (Ord.compare s u)) := by
  have hvalue : doc.value f.column = .text s := by
    rw [Document.value, hdoc]
    rfl
  have hkey : op.filterKey ≠ "$not" := by cases op <;> decide
  have hcore : (Json.member f.column (Json.member op.filterKey v.toJson)).holdsOn cmp doc =
      op.admits (some (Ord.compare s u)) := by
    rw [Json.holdsOn_operator cmp doc f.column _ _ hkey, Json.passesOperator_filterKey, hvalue, hv]
    exact Comparison.holds_text hcmp op s u
  have hpresent (negated : Bool) : (nullFilter f negated).holdsOn cmp doc = negated := by
    have hsame : doc.value f.column = doc.value f.column := rfl
    rw [holdsOn_nullFilter cmp f negated hsame, hvalue]
    cases negated <;> rfl
  rw [ofComparison_of_isNull_eq_false f op hnull, filter]
  cases op with
  | eq | gt | ge => exact hcore
  | ne => rw [compareGuard, guardFilter, Json.holdsOn_or, hpresent, hcore, Bool.false_or]
  | lt | le => rw [compareGuard, guardFilter, Json.holdsOn_and, hpresent, hcore, Bool.true_and]

/-! ## Stored and compared -/

/-- Two instants are told apart and put in order by the texts that documents hold of them, as far as
a text tells a leap second from the second that follows. -/
structure Instant.SortAsText (a b : Instant) : Prop where
  /-- The texts are what documents hold. -/
  json : (Value.timestamp a).toJson = .string a.stored ∧
    (Value.timestamp b).toJson = .string b.stored
  /-- The earlier one has the smaller text. -/
  lt_iff : a.settled.Before b.settled ↔ a.stored < b.stored
  /-- No two that count as different have the same text. -/
  eq_iff : a.stored = b.stored ↔ a.settled = b.settled
  /-- Both are so of the instants themselves if their leap seconds are at the end of a minute. -/
  inPlace : a.LeapsInPlace → b.LeapsInPlace →
    (a.Before b ↔ a.stored < b.stored) ∧ (a.stored = b.stored → a = b)
  /-- Unless one of the two is in a leap second at the end of a minute, the smaller text is the one
  with fewer microseconds, when nothing is cut off from them; and what has fewer microseconds has
  the smaller text even so. -/
  micros : a.settled.nano < 1000000000 → b.settled.nano < 1000000000 →
    (a.micros < b.micros → a.stored < b.stored) ∧
      (1000 ∣ a.nano → 1000 ∣ b.nano → (a.stored < b.stored ↔ a.micros < b.micros))
  /-- Commands store the texts, wherever a plan stores the instants. -/
  stored : ∀ (t : Table) (p : Plan) (cmd : Command), p.compile t = .ok (.document cmd) →
    ∀ f, (f, .timestamp a) ∈ p.stored → (f.column, .string a.stored) ∈ cmd.stored
  /-- A comparison of a field with one instant, on whichever side of the operator, holds on a
  document with the text of the other as the operator does of the instants. -/
  compared : ∀ (t : Table) (f : Field) (name : String) (op : Comparator), t.field? name = some f →
    ∃ filter, t.filterOf (.comparison op (.field name) (.constant (.timestamp b))) = .ok filter ∧
      t.filterOf (.comparison op.flip (.constant (.timestamp b)) (.field name)) = .ok filter ∧
      ∀ (cmp : Comparison) (doc : Document), cmp.OrdersTexts →
        doc f.column = some (.string a.stored) →
        filter.holdsOn cmp doc = op.admits (some (a.settled.order b.settled))

/-- Instants whose years have four digits sort as the texts that documents hold of them. -/
theorem Instant.sorts_as_text {a b : Instant} (ha : a.HasFourDigits) (hb : b.HasFourDigits) :
    a.SortAsText b := by
  have hlt := stored_lt_iff ha hb
  have heq := stored_eq_iff ha hb
  refine ⟨⟨rfl, rfl⟩, hlt.symm, heq, ?_, ?_, ?_, ?_⟩
  · intro hleap hleap'
    rw [settled_of_leapsInPlace hleap, settled_of_leapsInPlace hleap'] at hlt heq
    exact ⟨hlt.symm, heq.1⟩
  · intro hplain hplain'
    rw [hlt, settled_before_iff hplain hplain']
    refine ⟨sinceMillennium_lt_of_micros_lt, fun hwhole hwhole' => ?_⟩
    rw [sinceMillennium_of_dvd hwhole, sinceMillennium_of_dvd hwhole']
    omega
  · intro t p cmd hcompile f hmem
    cases hd : t.dialect with
    | sql d =>
      rw [Plan.compile_sql hd] at hcompile
      obtain ⟨_, -, hsql⟩ := map_eq_ok_iff.1 hcompile
      cases hsql
    | document =>
      rw [Plan.compile_document hd] at hcompile
      obtain ⟨_, hcmd, hdocument⟩ := map_eq_ok_iff.1 hcompile
      cases hdocument
      rw [Command.stored_ofPlan hcmd]
      exact List.mem_map.2 ⟨_, hmem, rfl⟩
  · intro t f name op hf
    have hfilter {p : Predicate}
        (hp : Condition.ofPredicate t p = .ok (.clause (.ofComparison f op (.timestamp b)))) :
        t.filterOf p = .ok (Clause.ofComparison f op (.timestamp b)).filter := by
      rw [Table.filterOf, hp]
      rfl
    refine ⟨(Clause.ofComparison f op (.timestamp b)).filter, hfilter ?_, hfilter ?_, ?_⟩
    · exact Condition.ofPredicate_comparison.2 ⟨name, op, _, f, rfl, hf, rfl⟩
    · refine Condition.ofPredicate_comparison.2 ⟨name, op, .timestamp b, f, ?_, hf, rfl⟩
      rw [orient, Comparator.flip_flip]
    · intro cmp doc hcmp hdoc
      rw [Clause.holdsOn_filter_of_text hcmp f op (toJson_timestamp b) rfl hdoc,
        compare_stored ha hb]

/-- The middle of the leap second at the end of 1998. -/
def leapHalf : Instant := ⟨915148799, 1500000000, by decide, by decide, by decide⟩

/-- A nanosecond later. -/
def leapLater : Instant := ⟨915148799, 1500000001, by decide, by decide, by decide⟩

/-- The two are stored in order, and a store that compares texts finds the first one before the
second. -/
theorem Instant.sorts_leapHalf : leapHalf.HasFourDigits ∧ leapLater.HasFourDigits ∧
    leapHalf.stored = "1998-12-31T23:59:60.500+00:00" ∧
    leapLater.stored = "1998-12-31T23:59:60.500000001+00:00" ∧ leapHalf.SortAsText leapLater ∧
    leapHalf.stored < leapLater.stored ∧
    ∀ (t : Table) (f : Field) (name : String), t.field? name = some f → ∃ filter,
      t.filterOf (.comparison .lt (.field name) (.constant (.timestamp leapLater))) = .ok filter ∧
      ∀ doc : Document, doc f.column = some (.string leapHalf.stored) →
        filter.holdsOn .withinTypes doc = true := by
  have hhalf : leapHalf.HasFourDigits := by decide
  have hlater : leapLater.HasFourDigits := by decide
  have hsort := Instant.sorts_as_text hhalf hlater
  have hplace := hsort.inPlace (by decide) (by decide)
  refine ⟨hhalf, hlater, rfl, rfl, hsort, hplace.1.1 (.inr ⟨rfl, by decide⟩), ?_⟩
  intro t f name hf
  obtain ⟨filter, hfilter, -, hholds⟩ := hsort.compared t f name .lt hf
  exact ⟨filter, hfilter, fun doc hdoc =>
    (hholds .withinTypes doc Comparison.ordersTexts_withinTypes hdoc).trans (by decide)⟩

/-- A tenth of a second into 1999, after that leap second. -/
def newYear : Instant := ⟨915148800, 100000000, by decide, by decide, by decide⟩

/-- Four minutes before midnight on the first day of 1970, in a leap second that is not at the end
of a minute. -/
def strayLeap : Instant := ⟨86164, 1333333333, by decide, by decide, by decide⟩

/-- The second that follows. -/
def strayLater : Instant := ⟨86165, 333333333, by decide, by decide, by decide⟩

/-- Two instants of one text, one before the other; two whose texts are in order and whose
microseconds are not; and two of different texts in the same microsecond. -/
theorem Instant.disorder_leap :
    (strayLeap.HasFourDigits ∧ strayLater.HasFourDigits ∧ strayLeap.Before strayLater ∧
      strayLeap ≠ strayLater ∧ strayLeap.stored = "1970-01-01T23:56:05.333333333+00:00" ∧
      strayLater.stored = strayLeap.stored) ∧
    (leapHalf.HasFourDigits ∧ newYear.HasFourDigits ∧ leapHalf.Before newYear ∧
      leapHalf.stored < newYear.stored ∧ newYear.micros < leapHalf.micros) ∧
    Postgres.lastOf1969.stored < epoch.stored ∧ Postgres.lastOf1969.micros = epoch.micros := by
  have hhalf : leapHalf.HasFourDigits := by decide
  have hyear : newYear.HasFourDigits := by decide
  have hleap : leapHalf.Before newYear := by decide
  have hleapStored : leapHalf.stored < newYear.stored :=
    stored_lt_of_before hhalf hyear (by decide) hleap
  have hlast : Postgres.lastOf1969.stored < epoch.stored :=
    stored_lt_of_before (by decide) (by decide) (by decide) (by decide)
  exact ⟨⟨by decide, by decide, by decide, by decide, rfl, rfl⟩,
    ⟨hhalf, hyear, hleap, hleapStored, by decide⟩, hlast, by decide⟩

end Sift
