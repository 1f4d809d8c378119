import Mathlib.Algebra.Group.Nat.Defs
import Sift.Instant
import Sift.Proofs.Calendar

/-!
# Timestamps in the order of their texts

Up to the second all texts of instants with years of four digits are of one length, and their digits
count from the left. Behind it stands a fraction of no, three, six or nine digits and then the zone.
A fraction that ends earlier is smaller, because the sign of the zone comes before the digits and
before the point. So later instants have greater texts, `Instant.text_lt_of_before`, as long as leap
seconds are put in at the end of a minute. A text does not tell one that is put in elsewhere from
the second that follows, which is then what counts: `Instant.text_settled`.
-/
namespace Sift

/-! ## Texts of one length -/

theorem append_lt_append_of_lt {s u : List Char} (hlength : s.length = u.length) (h : s < u)
    (x y : List Char) : s ++ x < u ++ y := by
  induction s generalizing u with
  | nil =>
    obtain rfl := List.length_eq_zero_iff.1 hlength.symm
    exact absurd h (List.lt_irrefl [])
  | cons c s ih =>
    cases u with
    | nil => cases hlength
    | cons d u =>
      rw [List.cons_append, List.cons_append, List.cons_lt_cons_iff]
      rcases List.cons_lt_cons_iff.1 h with hlt | ⟨heq, hrest⟩
      · exact .inl hlt
      · exact .inr ⟨heq, ih (Nat.succ.inj hlength) hrest⟩

/-- Two texts of one length stand in the order of two numbers. -/
structure InOrder (s u : List Char) (m n : Nat) : Prop where
  length_eq : s.length = u.length
  lt : m < n → s < u
  eq : m = n → s = u

namespace InOrder

variable {s u s' u' : List Char} {m n m' n' : Nat}

/-- Two more digits. -/
theorem append (h : InOrder s u m n) (h' : InOrder s' u' m' n') (hm' : m' < 100)
    (hn' : n' < 100) : InOrder (s ++ s') (u ++ u') (m * 100 + m') (n * 100 + n') where
  length_eq := by rw [List.length_append, List.length_append, h.length_eq, h'.length_eq]
  lt hlt := by
    by_cases hfirst : m < n
    · exact append_lt_append_of_lt h.length_eq (h.lt hfirst) s' u'
    · rw [h.eq (by omega)]
      exact List.append_left_lt (h'.lt (by omega))
  eq heq := by rw [h.eq (by omega), h'.eq (by omega)]

/-- A separator in front does not matter. -/
theorem cons (h : InOrder s u m n) (c : Char) : InOrder (c :: s) (c :: u) m n where
  length_eq := congrArg Nat.succ h.length_eq
  lt hlt := List.cons_lt_cons_iff.2 (.inr ⟨rfl, h.lt hlt⟩)
  eq heq := congrArg (c :: ·) (h.eq heq)

end InOrder

/-! ## Padded numbers -/

theorem padded_one {n : Nat} (h : n < 10) : padded 1 n = [Nat.digitChar n] := by
  rw [padded, Nat.toDigits_of_lt_base h]
  rfl

/-- The last digit of a number that is padded to more than one. -/
theorem padded_succ {width n : Nat} (hwidth : 0 < width) (h : n < 10 ^ (width + 1)) :
    padded (width + 1) n = padded width (n / 10) ++ [Nat.digitChar (n % 10)] := by
  unfold padded
  by_cases hn : n < 10
  · have hzero : n / 10 = 0 := by omega
    have hself : n % 10 = n := by omega
    rw [hzero, hself, Nat.toDigits_of_lt_base hn, Nat.toDigits_zero]
    obtain ⟨places, rfl⟩ := Nat.exists_eq_add_of_lt hwidth
    simp [List.replicate_succ']
  · rw [Nat.toDigits_of_base_le (by decide) (by omega)]
    simp

theorem length_padded {width n : Nat} (hwidth : 0 < width) (h : n < 10 ^ width) :
    (padded width n).length = width := by
  have hdigits := (Nat.length_toDigits_le_iff (b := 10) (by decide) hwidth).2 h
  rw [padded, List.length_append, List.length_replicate]
  omega

theorem padded_lt_padded {width m n : Nat} (hwidth : 0 < width) (hn : n < 10 ^ width)
    (h : m < n) : padded width m < padded width n := by
  have hdigits : ∀ n < 10, ∀ m < n, Nat.digitChar m < Nat.digitChar n := by decide
  induction width generalizing m n with
  | zero => exact absurd hwidth (Nat.lt_irrefl 0)
  | succ width ih =>
    by_cases hone : width = 0
    · subst hone
      rw [padded_one hn, padded_one (by omega), List.cons_lt_cons_iff]
      exact .inl (hdigits n hn m h)
    · have hpos : 0 < width := by omega
      rw [padded_succ hpos hn, padded_succ hpos (by omega)]
      have hpow : 10 ^ (width + 1) = 10 * 10 ^ width := Nat.pow_succ'
      by_cases hfront : m / 10 < n / 10
      · have hlength : (padded width (m / 10)).length = (padded width (n / 10)).length := by
          rw [length_padded hpos (by omega), length_padded hpos (by omega)]
        exact append_lt_append_of_lt hlength (ih hpos (by omega) hfront) _ _
      · have hsame : m / 10 = n / 10 := by omega
        rw [hsame]
        apply List.append_left_lt
        rw [List.cons_lt_cons_iff]
        exact .inl (hdigits _ (by omega) _ (by omega))

theorem inOrder_padded {width m n : Nat} (hwidth : 0 < width) (hm : m < 10 ^ width)
    (hn : n < 10 ^ width) : InOrder (padded width m) (padded width n) m n where
  length_eq := by rw [length_padded hwidth hm, length_padded hwidth hn]
  lt := padded_lt_padded hwidth hn
  eq := congrArg (padded width)

/-- A padded number is its leading digits and its last ones. -/
theorem padded_add {a b n : Nat} (ha : 0 < a) (hb : 0 < b) (h : n < 10 ^ (a + b)) :
    padded (a + b) n = padded a (n / 10 ^ b) ++ padded b (n % 10 ^ b) := by
  induction b generalizing n with
  | zero => exact absurd hb (Nat.lt_irrefl 0)
  | succ b ih =>
    rw [← Nat.add_assoc] at h ⊢
    rw [padded_succ (Nat.add_pos_left ha b) h]
    by_cases hone : b = 0
    · subst hone
      have hplace : 10 ^ (0 + 1) = 10 := rfl
      rw [hplace, padded_one (Nat.mod_lt n (by decide))]
      rfl
    · have hpos : 0 < b := by omega
      have hpow : 10 ^ (a + b + 1) = 10 * 10 ^ (a + b) := Nat.pow_succ'
      have hrest : n % 10 ^ (b + 1) < 10 ^ (b + 1) := Nat.mod_lt n (Nat.pow_pos (by decide))
      have hlast : n % 10 ^ (b + 1) % 10 = n % 10 :=
        Nat.mod_mod_of_dvd n ⟨10 ^ b, Nat.pow_succ'⟩
      have hmiddle : n % 10 ^ (b + 1) / 10 = n / 10 % 10 ^ b := by
        rw [Nat.pow_succ', Nat.mod_mul_right_div_self]
      have hfront : n / 10 / 10 ^ b = n / 10 ^ (b + 1) := by
        rw [Nat.div_div_eq_div_mul, ← Nat.pow_succ']
      rw [ih hpos (by omega), padded_succ hpos hrest, hlast, hmiddle, hfront, List.append_assoc]

theorem padded_six {n : Nat} (h : n < 1000000) :
    padded 6 n = padded 3 (n / 1000) ++ padded 3 (n % 1000) :=
  padded_add (a := 3) (b := 3) (by decide) (by decide) (by omega)

theorem padded_nine {n : Nat} (h : n < 1000000000) : padded 9 n =
    padded 3 (n / 1000000) ++ (padded 3 (n / 1000 % 1000) ++ padded 3 (n % 1000)) := by
  have hmiddle : n % 1000000 / 1000 = n / 1000 % 1000 := by omega
  have hlast : n % 1000000 % 1000 = n % 1000 := by omega
  rw [← hmiddle, ← hlast, ← padded_six (by omega)]
  exact padded_add (a := 3) (b := 6) (by decide) (by decide) (by omega)

/-! ## Fractions -/

/-- The digits of a fraction in groups of three, as far as they are needed, with the zone behind
them. -/
def fractionGroups (zone : List Char) : Nat → Nat → List Char
  | 0, _ => zone
  | groups + 1, n =>
    if n = 0 then zone
    else padded 3 (n / 1000 ^ groups) ++ fractionGroups zone groups (n % 1000 ^ groups)

theorem exists_padded_eq_cons (width n : Nat) :
    ∃ c rest, padded width n = c :: rest ∧ '0' ≤ c := by
  obtain ⟨c, rest, h⟩ : ∃ c rest, padded width n = c :: rest :=
    List.exists_cons_of_ne_nil (List.append_ne_nil_of_right_ne_nil _ Nat.toDigits_ne_nil)
  refine ⟨c, rest, h, ?_⟩
  have hmem : c ∈ padded width n := by
    rw [h]
    exact List.mem_cons_self ..
  rcases List.mem_append.1 hmem with hzero | hdigit
  · obtain rfl : c = '0' := List.eq_of_mem_replicate hzero
    exact Char.le_refl _
  · have hisDigit := Nat.isDigit_of_mem_toDigits (by decide) (by decide) hdigit
    rw [Char.isDigit, Bool.and_eq_true, decide_eq_true_iff] at hisDigit
    exact hisDigit.1

section Fractions

variable {sign : Char} {offset : List Char}

/-- What begins with a sign before the digits is before every number. -/
theorem sign_lt_padded (hsign : sign < '0') (width n : Nat) (rest : List Char) :
    sign :: offset < padded width n ++ rest := by
  obtain ⟨c, digits, hpadded, hc⟩ := exists_padded_eq_cons width n
  rw [hpadded, List.cons_append, List.cons_lt_cons_iff]
  exact .inl (Nat.lt_of_lt_of_le hsign hc)

theorem fractionGroups_lt (hsign : sign < '0') {groups m n : Nat} (hn : n < 1000 ^ groups)
    (h : m < n) :
    fractionGroups (sign :: offset) groups m < fractionGroups (sign :: offset) groups n := by
  induction groups generalizing m n with
  | zero =>
    rw [Nat.pow_zero] at hn
    omega
  | succ groups ih =>
    have hnonzero : n ≠ 0 := by omega
    rw [fractionGroups, fractionGroups, if_neg hnonzero]
    by_cases hm : m = 0
    · rw [if_pos hm]
      exact sign_lt_padded hsign 3 _ _
    · rw [if_neg hm]
      have hpos : 0 < 1000 ^ groups := Nat.pow_pos (by decide)
      have hfirst : n / 1000 ^ groups < 10 ^ 3 := Nat.div_lt_of_lt_mul hn
      have hle : m / 1000 ^ groups ≤ n / 1000 ^ groups := Nat.div_le_div_right (Nat.le_of_lt h)
      by_cases hfront : m / 1000 ^ groups < n / 1000 ^ groups
      · have horder := inOrder_padded (by decide) (Nat.lt_of_le_of_lt hle hfirst) hfirst
        exact append_lt_append_of_lt horder.length_eq (horder.lt hfront) _ _
      · have hsame : m / 1000 ^ groups = n / 1000 ^ groups := by omega
        rw [hsame]
        have hm := Nat.div_add_mod m (1000 ^ groups)
        have hn := Nat.div_add_mod n (1000 ^ groups)
        rw [hsame] at hm
        exact List.append_left_lt (ih (Nat.mod_lt n hpos) (by omega))

/-- A fraction of nanoseconds is three groups behind a point, or nothing at all. -/
theorem fractionText_append (zone : List Char) {nano : Nat} (h : nano < 1000000000) :
    Instant.fractionText nano ++ zone =
      if nano = 0 then zone else '.' :: fractionGroups zone 3 nano := by
  unfold Instant.fractionText
  by_cases hzero : nano = 0
  · rw [if_pos hzero, if_pos hzero, List.nil_append]
  · rw [if_neg hzero, if_neg hzero]
    have hrest : nano % 1000000 % 1000 = nano % 1000 := by omega
    have hmiddle : nano % 1000000 / 1000 = nano / 1000 % 1000 := by omega
    have hgroups : fractionGroups zone 3 nano = padded 3 (nano / 1000000) ++
        if nano % 1000000 = 0 then zone
        else padded 3 (nano / 1000 % 1000) ++
          if nano % 1000 = 0 then zone else padded 3 (nano % 1000) ++ zone := by
      rw [← hrest, ← hmiddle]
      simp only [fractionGroups, if_neg hzero, Nat.reducePow, Nat.div_one]
    rw [hgroups]
    by_cases hmilli : nano % 1000000 = 0
    · rw [if_pos hmilli, if_pos hmilli, List.cons_append]
    · rw [if_neg hmilli, if_neg hmilli]
      by_cases hmicro : nano % 1000 = 0
      · have hfront : nano / 1000 / 1000 = nano / 1000000 := by omega
        rw [if_pos hmicro, if_pos hmicro, padded_six (by omega), hfront, List.cons_append,
          List.append_assoc]
      · rw [if_neg hmicro, if_neg hmicro, padded_nine h, List.cons_append, List.append_assoc,
          List.append_assoc]

end Fractions

/-! ## Instants -/

namespace Instant

/-- An instant is earlier than another one; the nanoseconds of a leap second go on counting. -/
def Before (a b : Instant) : Prop := a.second < b.second ∨ a.second = b.second ∧ a.nano < b.nano

/-- The year of an instant is written with four digits. -/
def HasFourDigits (t : Instant) : Prop := 0 ≤ t.date.year ∧ t.date.year ≤ 9999

instance (a b : Instant) : Decidable (a.Before b) := inferInstanceAs (Decidable (_ ∨ _))

instance (t : Instant) : Decidable t.HasFourDigits := inferInstanceAs (Decidable (_ ∧ _))

/-- If the instant is in a leap second, that is at the end of a minute. -/
def LeapsInPlace (t : Instant) : Prop := 1000000000 ≤ t.nano → t.second % 60 = 59

instance (t : Instant) : Decidable t.LeapsInPlace := inferInstanceAs (Decidable (_ → _))

/-- An instant as it is written: a leap second that is not at the end of a minute counts as the
second that follows. -/
def settled (t : Instant) : Instant :=
  if h : 1000000000 ≤ t.nano ∧ t.second % 60 ≠ 59 then
    have hnano := t.nano_lt
    have hlower := t.lower
    have hupper := t.upper
    ⟨t.second + 1, t.nano - 1000000000, by omega, by omega, by omega⟩
  else t

theorem settled_of_leapsInPlace {t : Instant} (h : t.LeapsInPlace) : t.settled = t :=
  dif_neg fun hstray => hstray.2 (h hstray.1)

/-- What settling does to an instant. -/
theorem settled_cases (t : Instant) :
    (t.LeapsInPlace ∧ t.settled = t) ∨
      (1000000000 ≤ t.nano ∧ t.second % 60 ≠ 59 ∧
        t.settled.second = t.second + 1 ∧ t.settled.nano = t.nano - 1000000000) := by
  by_cases h : t.LeapsInPlace
  · exact .inl ⟨h, settled_of_leapsInPlace h⟩
  · obtain ⟨hleap, hsecond⟩ := Classical.not_imp.1 h
    rw [settled, dif_pos ⟨hleap, hsecond⟩]
    exact .inr ⟨hleap, hsecond, rfl, rfl⟩

theorem leapsInPlace_settled (t : Instant) : t.settled.LeapsInPlace := by
  obtain ⟨hplace, hsame⟩ | ⟨hleap, -, -, hnano⟩ := t.settled_cases
  · rwa [hsame]
  · have hbound := t.nano_lt
    intro hleap'
    omega

/-- The second that follows is on the same day. -/
theorem date_settled (t : Instant) : t.settled.date = t.date := by
  obtain ⟨-, hsame⟩ | ⟨hleap, hsecond, hsettled, -⟩ := t.settled_cases
  · rw [hsame]
  · have hday : (t.second + 1) / 86400 = t.second / 86400 := by omega
    rw [date, date, hsettled, hday]

/-- An instant is written as it is settled. -/
theorem text_settled (zone : String) (t : Instant) : t.settled.text zone = t.text zone := by
  obtain ⟨-, hsame⟩ | ⟨hleap, hsecond, hsettled, hnano⟩ := t.settled_cases
  · rw [hsame]
  · have hbound := t.nano_lt
    have hclock : t.settled.secondOfDay = t.secondOfDay + 1 := by
      unfold secondOfDay
      omega
    have hplace : t.secondOfDay % 60 ≠ 59 := by
      unfold secondOfDay
      omega
    have hhour : (t.secondOfDay + 1) / 3600 = t.secondOfDay / 3600 := by omega
    have hminute : (t.secondOfDay + 1) / 60 = t.secondOfDay / 60 := by omega
    have hlast : (t.secondOfDay + 1) % 60 + (t.nano - 1000000000) / 1000000000 =
        t.secondOfDay % 60 + t.nano / 1000000000 := by omega
    have hfraction : (t.nano - 1000000000) % 1000000000 = t.nano % 1000000000 := by omega
    simp only [text, date_settled, hclock, hnano, hhour, hminute, hlast, hfraction]

theorem hasFourDigits_settled {t : Instant} : t.settled.HasFourDigits ↔ t.HasFourDigits := by
  rw [HasFourDigits, HasFourDigits, date_settled]

/-- The second of the minute, sixty in a leap second at its end. -/
def secondOfMinute (t : Instant) : Nat := t.secondOfDay % 60 + t.nano / 1000000000

/-- What is written before the fraction. -/
def head (t : Instant) : List Char :=
  padded 4 t.date.year.toNat ++ '-' :: padded 2 t.date.month ++ '-' :: padded 2 t.date.day ++
    'T' :: padded 2 (t.secondOfDay / 3600) ++ ':' :: padded 2 (t.secondOfDay / 60 % 60) ++
    ':' :: padded 2 t.secondOfMinute

/-- The digits of the head as one number. -/
def number (t : Instant) : Nat :=
  ((((t.date.year.toNat * 100 + t.date.month) * 100 + t.date.day) * 100 + t.secondOfDay / 3600) *
    100 + t.secondOfDay / 60 % 60) * 100 + t.secondOfMinute

theorem toList_text (zone : String) {t : Instant} (h : t.HasFourDigits) :
    (t.text zone).toList = t.head ++ (fractionText (t.nano % 1000000000) ++ zone.toList) := by
  have hyear : yearText t.date.year = padded 4 t.date.year.toNat := if_pos h
  rw [text, String.toList_ofList, hyear, ← List.append_assoc]
  rfl

theorem secondOfDay_lt (t : Instant) : t.secondOfDay < 86400 := by
  unfold secondOfDay
  omega

theorem secondOfMinute_lt (t : Instant) : t.secondOfMinute < 100 := by
  have hnano := t.nano_lt
  unfold secondOfMinute
  omega

theorem inOrder_head {a b : Instant} (ha : a.HasFourDigits) (hb : b.HasFourDigits) :
    InOrder a.head b.head a.number b.number := by
  obtain ⟨hmonth, hday⟩ := Date.ofDays_bounds (a.second / 86400)
  obtain ⟨hmonth', hday'⟩ := Date.ofDays_bounds (b.second / 86400)
  have hsecond := a.secondOfDay_lt
  have hsecond' := b.secondOfDay_lt
  have hpair {m n : Nat} (hm : m < 100) (hn : n < 100) : InOrder (padded 2 m) (padded 2 n) m n :=
    inOrder_padded (by decide) hm hn
  have hyear : InOrder (padded 4 a.date.year.toNat) (padded 4 b.date.year.toNat)
      a.date.year.toNat b.date.year.toNat := by
    unfold HasFourDigits at ha hb
    exact inOrder_padded (by decide) (by omega) (by omega)
  have hmonths := hyear.append ((hpair hmonth hmonth').cons '-') hmonth hmonth'
  have hdays := hmonths.append ((hpair hday hday').cons '-') hday hday'
  have hours := hdays.append ((hpair (m := a.secondOfDay / 3600) (n := b.secondOfDay / 3600)
    (by omega) (by omega)).cons 'T') (by omega) (by omega)
  have hminutes := hours.append ((hpair (m := a.secondOfDay / 60 % 60)
    (n := b.secondOfDay / 60 % 60) (by omega) (by omega)).cons ':') (by omega) (by omega)
  exact hminutes.append ((hpair a.secondOfMinute_lt b.secondOfMinute_lt).cons ':')
    a.secondOfMinute_lt b.secondOfMinute_lt

/-- Later seconds of a day are in later minutes, or later in the minute; a leap second is the last
of its minute. -/
theorem clock_lt {s u : Nat} (h : s < u) {leap : Nat} (hleap : leap ≤ 1)
    (hlast : leap = 1 → s % 60 = 59) (leap' : Nat) :
    (s / 3600 * 100 + s / 60 % 60) * 100 + (s % 60 + leap) <
      (u / 3600 * 100 + u / 60 % 60) * 100 + (u % 60 + leap') := by
  have hhour : s / 3600 = s / 60 / 60 := (Nat.div_div_eq_div_mul s 60 60).symm
  have hhour' : u / 3600 = u / 60 / 60 := (Nat.div_div_eq_div_mul u 60 60).symm
  rw [hhour, hhour']
  by_cases hminute : s / 60 < u / 60
  · have hclock : s / 60 / 60 * 100 + s / 60 % 60 < u / 60 / 60 * 100 + u / 60 % 60 := by omega
    omega
  · have hsame : s / 60 = u / 60 := by omega
    rw [hsame]
    omega

/-- Later instants have later digits, or the same and a later fraction. -/
theorem number_lt_or_eq {a b : Instant} (ha : a.HasFourDigits) (hb : b.HasFourDigits)
    (hleap : a.LeapsInPlace) (h : a.Before b) : a.number < b.number ∨
      a.number = b.number ∧ a.nano % 1000000000 < b.nano % 1000000000 := by
  unfold LeapsInPlace at hleap
  have hnano := a.nano_lt
  have hsecond := a.secondOfDay_lt
  have hminute := a.secondOfMinute_lt
  rcases Int.lt_trichotomy (a.second / 86400) (b.second / 86400) with hday | hday | hday
  · have hdate : a.date.number < b.date.number := Date.number_lt_of_lt hday
    unfold HasFourDigits at ha hb
    simp only [number, Date.number] at hdate ⊢
    omega
  · have hdate : a.date = b.date := congrArg Date.ofDays hday
    simp only [number, hdate]
    have hlater : a.secondOfDay < b.secondOfDay ∨
        a.secondOfDay = b.secondOfDay ∧ a.nano < b.nano := by
      simp only [Before, secondOfDay] at *
      omega
    rcases hlater with hlt | ⟨heq, hlt⟩
    · have hbound : a.nano / 1000000000 ≤ 1 := by omega
      have hlast : a.nano / 1000000000 = 1 → a.secondOfDay % 60 = 59 := by
        unfold secondOfDay
        omega
      have hclock := clock_lt hlt hbound hlast (b.nano / 1000000000)
      unfold secondOfMinute
      omega
    · simp only [secondOfMinute, heq]
      omega
  · unfold Before at h
    omega

/-- Later instants have greater texts. -/
theorem text_lt_of_before {zone : String} {sign : Char} {offset : List Char}
    (hzone : zone.toList = sign :: offset) (hsign : sign < '.') {a b : Instant}
    (ha : a.HasFourDigits) (hb : b.HasFourDigits) (hleap : a.LeapsInPlace) (h : a.Before b) :
    a.text zone < b.text zone := by
  have horder := inOrder_head ha hb
  rw [String.lt_iff, toList_text zone ha, toList_text zone hb]
  rcases number_lt_or_eq ha hb hleap h with hlt | ⟨heq, hfraction⟩
  · exact append_lt_append_of_lt horder.length_eq (horder.lt hlt) _ _
  · rw [horder.eq heq]
    apply List.append_left_lt
    have hnano : a.nano % 1000000000 < 1000000000 := Nat.mod_lt _ (by decide)
    have hnano' : b.nano % 1000000000 < 1000000000 := Nat.mod_lt _ (by decide)
    rw [fractionText_append _ hnano, fractionText_append _ hnano', hzone]
    rw [if_neg (show b.nano % 1000000000 ≠ 0 by omega)]
    by_cases hzero : a.nano % 1000000000 = 0
    · rw [if_pos hzero, List.cons_lt_cons_iff]
      exact .inl hsign
    · rw [if_neg hzero, List.cons_lt_cons_iff]
      have hdigit : sign < '0' := Nat.lt_trans hsign (by decide)
      exact .inr ⟨rfl, fractionGroups_lt hdigit hnano' hfraction⟩

theorem before_trichotomy (a b : Instant) : a.Before b ∨ a = b ∨ b.Before a := by
  rcases Int.lt_trichotomy a.second b.second with hlt | heq | hgt
  · exact .inl (.inl hlt)
  · rcases Nat.lt_trichotomy a.nano b.nano with hlt | heq' | hgt
    · exact .inl (.inr ⟨heq, hlt⟩)
    · refine .inr (.inl ?_)
      cases a
      cases b
      cases heq
      cases heq'
      rfl
    · exact .inr (.inr (.inr ⟨heq.symm, hgt⟩))
  · exact .inr (.inr (.inl hgt))

end Instant

end Sift
