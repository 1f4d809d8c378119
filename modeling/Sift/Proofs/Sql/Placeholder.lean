import Sift.Proofs.Sql.Phrase

/-!
# What placeholders stand for

A store takes a value for each placeholder of a text. `SqlDialect.valueOf?` says how the dialects
find it: by the number that is written, by the place among the placeholders, or by the name. A text
that mentions its parameters in the order of binding, under names that are given out once, gets back
at each place the value that was bound for it, `Lexeme.fill_lexemes`.
-/
namespace Sift

/-! ## The placeholders of a text -/

namespace Lexeme

variable {π : Type}

/-- What is known about a placeholder. -/
def param? : Lexeme π → Option π
  | param p => some p
  | _ => none

/-- The placeholders among lexemes, in reading order. -/
def placeholders (ls : List (Lexeme π)) : List π := ls.filterMap param?

theorem placeholders_lexemes (g : Params.Slot → π) (ts : List SqlToken) :
    placeholders (SqlToken.lexemes g ts) = (SqlToken.slots ts).map g := by
  induction ts with
  | nil => rfl
  | cons t ts ih =>
    cases t with
    | param slot => exact congrArg (g slot :: ·) ih
    | blank => exact ih
    | word w => exact ih
    | mark m => exact ih
    | number n => exact ih
    | literal s => exact ih
    | ident name => exact ih

end Lexeme

namespace SqlDialect

/-- The placeholders of a text that mentions each of its parameters once and in order. -/
def placeholders (d : SqlDialect) (ps : Params) : List String :=
  match d with
  | postgres => (List.range' 1 ps.size).map fun n => "$" ++ toString n
  | mySql => List.replicate ps.size "?"
  | sqlite => ps.names.map (":" ++ ·)
  | sqlServer => ps.names.map ("@" ++ ·)

theorem map_placeholder_slots (d : SqlDialect) (ps : Params) :
    ps.slots.map d.placeholder = d.placeholders ps := by
  have hsize : ps.names.length = ps.size := by simp [Params.names, Params.size, Params.toList]
  cases d with
  | postgres =>
    apply List.ext_getElem
    · simp [Params.slots, placeholders, hsize]
    · intro i hi hp
      simp [Params.slots, placeholders, placeholder, Nat.add_comm]
  | mySql =>
    apply List.ext_getElem
    · simp [Params.slots, placeholders, hsize]
    · intro i hi hp
      simp [placeholders, placeholder]
  | sqlite =>
    apply List.ext_getElem
    · simp [Params.slots, placeholders]
    · intro i hi hp
      simp [Params.slots, placeholders, placeholder]
  | sqlServer =>
    apply List.ext_getElem
    · simp [Params.slots, placeholders]
    · intro i hi hp
      simp [Params.slots, placeholders, placeholder]

/-! ## Values for placeholders -/

/-- The value of the placeholder `m`, which is the one after `k` others. -/
def valueOf? (d : SqlDialect) (ps : Params) (k : Nat) (m : String) : Option Value :=
  match d with
  | postgres =>
    match Nat.ofDigitChars 10 m.toList.tail 0 with
    | 0 => none
    | n + 1 => ps.values[n]?
  | mySql => ps.values[k]?
  | sqlite | sqlServer => ps.get? (String.ofList m.toList.tail)

theorem getElem?_slots {ps : Params} {k : Nat} {slot : Params.Slot}
    (h : ps.slots[k]? = some slot) :
    slot.position = k + 1 ∧ ∃ p, ps.toList[k]? = some p ∧ slot.name = p.name := by
  simp only [Params.slots, Params.names, List.getElem?_map, Option.map_eq_some_iff] at h
  obtain ⟨⟨name, i⟩, hk, rfl⟩ := h
  rw [List.getElem?_zipIdx, List.getElem?_map] at hk
  simp only [Option.map_map, Option.map_eq_some_iff, Function.comp_apply, Prod.mk.injEq] at hk
  obtain ⟨p, hp, rfl, rfl⟩ := hk
  exact ⟨congrArg (· + 1) (Nat.zero_add k), p, hp, rfl⟩

/-- Every dialect finds the value that was bound for a placeholder, in its own way. -/
theorem valueOf?_placeholder (d : SqlDialect) {ps : Params} (hnames : ps.names.Nodup) {k : Nat}
    {slot : Params.Slot} (hk : ps.slots[k]? = some slot) :
    d.valueOf? ps k (d.placeholder slot) = some (ps.valueAt slot) := by
  obtain ⟨hposition, p, hp, hname⟩ := getElem?_slots hk
  have hvalue : ps.values[k]? = some p.value := by simp [Params.values, hp]
  have hat : ps.valueAt slot = p.value := by simp [Params.valueAt, hposition, hvalue]
  have hget : ps.get? slot.name = some p.value := by
    rw [hname]
    exact Params.get?_of_nodup hnames hp
  rw [hat]
  cases d with
  | postgres =>
    have hdigits : Nat.ofDigitChars 10 (("$" ++ toString slot.position).toList.tail) 0 = k + 1 := by
      rw [String.toList_append, Nat.toString_eq_repr, Nat.toList_repr, hposition]
      exact Nat.ofDigitChars_ten_toDigits
    simp only [valueOf?, placeholder, hdigits, hvalue]
  | mySql => exact hvalue
  | sqlite => simpa [valueOf?, placeholder] using hget
  | sqlServer => simpa [valueOf?, placeholder] using hget

end SqlDialect

namespace Lexeme

/-- Lexemes with the values of their placeholders, `k` of which came before. -/
def fill (value? : Nat → String → Option Value) :
    Nat → List (Lexeme String) → Option (List (Lexeme Value))
  | _, [] => some []
  | k, param m :: rest => do
    let v ← value? k m
    let ls ← fill value? (k + 1) rest
    some (param v :: ls)
  | k, word w :: rest => (fill value? k rest).map (word w :: ·)
  | k, mark m :: rest => (fill value? k rest).map (mark m :: ·)
  | k, number n :: rest => (fill value? k rest).map (number n :: ·)
  | k, literal s :: rest => (fill value? k rest).map (literal s :: ·)
  | k, ident name :: rest => (fill value? k rest).map (ident name :: ·)

/-- Placeholders are filled one after another, each by its own value. -/
theorem fill_of_slots {d : SqlDialect} {value? : Nat → String → Option Value}
    {g : Params.Slot → Value} {ts : List SqlToken} {k : Nat}
    (h : ∀ i slot, (SqlToken.slots ts)[i]? = some slot →
      value? (k + i) (d.placeholder slot) = some (g slot)) :
    fill value? k (SqlToken.lexemes d.placeholder ts) = some (SqlToken.lexemes g ts) := by
  -- `k` counts the placeholders that were passed, not the tokens
  induction ts generalizing k with
  | nil => rfl
  | cons t ts ih =>
    cases t with
    | param slot =>
      have hfirst : value? k (d.placeholder slot) = some (g slot) := h 0 slot rfl
      have hrest : fill value? (k + 1) (SqlToken.lexemes d.placeholder ts) =
          some (SqlToken.lexemes g ts) := by
        apply ih
        intro i slot' hi
        have hnext := h (i + 1) slot' hi
        rwa [Nat.add_comm i 1, ← Nat.add_assoc] at hnext
      simp [fill, hfirst, hrest]
    | blank => exact ih h
    | word w => simpa [fill] using ih h
    | mark m => simpa [fill] using ih h
    | number n => simpa [fill] using ih h
    | literal s => simpa [fill] using ih h
    | ident name => simpa [fill] using ih h

/-- A text that mentions its parameters in the order of binding gets back their values. -/
theorem fill_lexemes {d : SqlDialect} {ps : Params} (hnames : ps.names.Nodup) {ts : List SqlToken}
    (hslots : SqlToken.slots ts = ps.slots) :
    fill (d.valueOf? ps) 0 (SqlToken.lexemes d.placeholder ts) =
      some (SqlToken.lexemes ps.valueAt ts) := by
  apply fill_of_slots
  intro i slot hi
  rw [hslots] at hi
  rw [Nat.zero_add]
  exact d.valueOf?_placeholder hnames hi

end Lexeme

end Sift
