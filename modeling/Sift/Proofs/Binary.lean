import Mathlib.Algebra.Order.Field.Power
import Mathlib.Data.Int.Log
import Mathlib.Data.Rat.Floor
import Mathlib.Tactic.FieldSimp
import Sift.Binary

/-!
# Singles in double precision

A pattern without its sign stands for a number, `BinaryLayout.value`. What is rounded is a fraction;
if a pattern stands for it, that pattern is what it is rounded to (`BinaryLayout.round_eq`), so a
number is carried over to another layout as it is whenever the other layout has it. Every number of
single precision is one of double precision. Widening a single and narrowing it again therefore
gives it back, except that a NaN that was signalling becomes quiet:
`Binary32.toSingle_toDouble_iff`.
-/
namespace Sift

namespace BinaryLayout

variable {l : BinaryLayout}

/-! ## Binary logarithms -/

theorem two_zpow_eq (k : Int) : (2 : ℚ) ^ k = (2 : ℚ) ^ k.toNat / (2 : ℚ) ^ (-k).toNat := by
  rw [div_eq_mul_inv, ← zpow_natCast, ← zpow_natCast, ← zpow_neg, ← zpow_add₀ two_ne_zero]
  congr 1
  omega

theorem zpow_mul_pow {k : Int} {m n : Nat} (h : (m : Int) = k + n) :
    (2 : ℚ) ^ k * 2 ^ n = 2 ^ m := by
  rw [← zpow_natCast, ← zpow_natCast, ← zpow_add₀ two_ne_zero, h]

theorem pow_log2_le {n : Nat} (h : 0 < n) : (2 : ℚ) ^ Nat.log2 n ≤ n := by
  exact_mod_cast Nat.log2_self_le h.ne'

theorem lt_pow_log2 (n : Nat) : (n : ℚ) < 2 ^ (Nat.log2 n + 1) := by
  exact_mod_cast Nat.lt_log2_self

/-- The exponent of the highest binary place is the binary logarithm. -/
theorem binaryExponent_eq {num den : Nat} (hnum : 0 < num) (hden : 0 < den) :
    binaryExponent num den = Int.log 2 ((num : ℚ) / den) := by
  have hnum' : (0 : ℚ) < num := by exact_mod_cast hnum
  have hden' : (0 : ℚ) < den := by exact_mod_cast hden
  have hpos : (0 : ℚ) < num / den := div_pos hnum' hden'
  set k : Int := (Nat.log2 num : Int) - Nat.log2 den with hk
  -- the quotient of the highest places misses that of the fraction by one place at most
  have hlow : k - 1 ≤ Int.log 2 ((num : ℚ) / den) := by
    rw [← Int.zpow_le_iff_le_log one_lt_two hpos, le_div_iff₀ hden', Nat.cast_ofNat]
    calc (2 : ℚ) ^ (k - 1) * den ≤ 2 ^ (k - 1) * 2 ^ (Nat.log2 den + 1) := by
          have hle := (lt_pow_log2 den).le
          gcongr
      _ = 2 ^ Nat.log2 num := zpow_mul_pow (by omega)
      _ ≤ num := pow_log2_le hnum
  have hhigh : Int.log 2 ((num : ℚ) / den) < k + 1 := by
    rw [← Int.lt_zpow_iff_log_lt one_lt_two hpos, div_lt_iff₀ hden', Nat.cast_ofNat]
    calc (num : ℚ) < 2 ^ (Nat.log2 num + 1) := lt_pow_log2 num
      _ = 2 ^ (k + 1) * 2 ^ Nat.log2 den := (zpow_mul_pow (by omega)).symm
      _ ≤ 2 ^ (k + 1) * den := by
          have hle := pow_log2_le hden
          gcongr
  have htest : den * Nat.pow 2 k.toNat ≤ num * Nat.pow 2 (-k).toNat ↔
      k ≤ Int.log 2 ((num : ℚ) / den) := by
    rw [← Int.zpow_le_iff_le_log one_lt_two hpos, Nat.cast_ofNat, two_zpow_eq,
      div_le_div_iff₀ (by positivity) hden', ← Nat.cast_le (α := ℚ)]
    push_cast [Nat.pow_eq]
    rw [mul_comm]
  unfold binaryExponent
  simp only [← hk, htest]
  split <;> omega

/-- The binary logarithm of a number with a given significand. -/
theorem log_mul_zpow {s : Nat} (hs : 0 < s) (p : Int) :
    Int.log 2 ((s : ℚ) * 2 ^ p) = Nat.log2 s + p := by
  have hs' : (0 : ℚ) < s := by exact_mod_cast hs
  have hpos : (0 : ℚ) < s * 2 ^ p := by positivity
  have hlow : (Nat.log2 s : Int) + p ≤ Int.log 2 ((s : ℚ) * 2 ^ p) := by
    have hle := pow_log2_le hs
    rw [← Int.zpow_le_iff_le_log one_lt_two hpos, Nat.cast_ofNat, zpow_add₀ two_ne_zero,
      zpow_natCast]
    gcongr
  have hhigh : Int.log 2 ((s : ℚ) * 2 ^ p) < (Nat.log2 s : Int) + p + 1 := by
    have hlt := lt_pow_log2 s
    rw [← Int.lt_zpow_iff_log_lt one_lt_two hpos, Nat.cast_ofNat, add_right_comm,
      zpow_add₀ two_ne_zero, zpow_add_one₀ two_ne_zero, zpow_natCast, ← pow_succ]
    gcongr
  omega

/-- Shifted to the left until it has a given number of places behind its highest, a number lies
between two powers of two. -/
theorem shift_bounds {s n : Nat} (hs : 0 < s) (h : Nat.log2 s ≤ n) :
    2 ^ n ≤ s * 2 ^ (n - Nat.log2 s) ∧ s * 2 ^ (n - Nat.log2 s) < 2 * 2 ^ n := by
  constructor
  · calc 2 ^ n = 2 ^ Nat.log2 s * 2 ^ (n - Nat.log2 s) := by rw [← pow_add, Nat.add_sub_cancel' h]
      _ ≤ s * 2 ^ (n - Nat.log2 s) := Nat.mul_le_mul_right _ (Nat.log2_self_le hs.ne')
  · calc s * 2 ^ (n - Nat.log2 s) < 2 ^ (Nat.log2 s + 1) * 2 ^ (n - Nat.log2 s) :=
          Nat.mul_lt_mul_of_pos_right Nat.lt_log2_self (Nat.two_pow_pos _)
      _ = 2 * 2 ^ n := by rw [pow_succ', mul_assoc, ← pow_add, Nat.add_sub_cancel' h]

theorem shift_significand (s n : Nat) (p : Int) :
    ((s * 2 ^ n : Nat) : ℚ) * 2 ^ (p - n) = s * 2 ^ p := by
  rw [zpow_sub₀ two_ne_zero, zpow_natCast]
  push_cast
  field_simp

/-! ## What a pattern stands for -/

/-- The significand that a pattern without its sign stands for. -/
def significand (l : BinaryLayout) (m : Nat) : Nat :=
  if m < 2 ^ l.fractionBits then m else 2 ^ l.fractionBits + m % 2 ^ l.fractionBits

/-- The power of two that the significand of a pattern is multiplied with. -/
def power (l : BinaryLayout) (m : Nat) : Int := l.leastPower + (m / 2 ^ l.fractionBits - 1 : Nat)

/-- The number that a pattern without its sign stands for. -/
def value (l : BinaryLayout) (m : Nat) : ℚ := l.significand m * 2 ^ l.power m

theorem lt_infinity_iff {m : Nat} :
    m < l.infinity ↔ m / 2 ^ l.fractionBits < 2 ^ l.exponentBits - 1 := by
  simp only [infinity, Nat.pow_eq]
  rw [Nat.div_lt_iff_lt_mul (Nat.two_pow_pos _)]

theorem infinity_add (l : BinaryLayout) :
    l.infinity + 2 ^ l.fractionBits = 2 ^ (l.exponentBits + l.fractionBits) := by
  simp only [infinity, Nat.pow_eq]
  rw [← Nat.succ_mul, pow_add, Nat.succ_eq_add_one, Nat.sub_add_cancel Nat.one_le_two_pow]

theorem infinity_lt (l : BinaryLayout) : l.infinity < 2 ^ (l.exponentBits + l.fractionBits) := by
  have hpow := Nat.two_pow_pos l.fractionBits
  have hadd := l.infinity_add
  omega

theorem significand_of_lt {m : Nat} (h : m < 2 ^ l.fractionBits) : l.significand m = m := if_pos h

theorem significand_of_le {m : Nat} (h : 2 ^ l.fractionBits ≤ m) :
    l.significand m = 2 ^ l.fractionBits + m % 2 ^ l.fractionBits := if_neg (by omega)

theorem significand_pos {m : Nat} (h : 0 < m) : 0 < l.significand m := by
  have hpow := Nat.two_pow_pos l.fractionBits
  rcases Nat.lt_or_ge m (2 ^ l.fractionBits) with hlt | hle
  · rwa [significand_of_lt hlt]
  · rw [significand_of_le hle]
    omega

theorem significand_lt (l : BinaryLayout) (m : Nat) :
    l.significand m < 2 ^ (l.fractionBits + 1) := by
  have hrest := Nat.mod_lt m (Nat.two_pow_pos l.fractionBits)
  unfold significand
  split <;> omega

theorem power_of_lt {m : Nat} (h : m < 2 ^ l.fractionBits) : l.power m = l.leastPower := by
  rw [power, Nat.div_eq_of_lt h]
  simp

/-- The power of a pattern is where rounding puts the last place of its number. -/
theorem max_leastPower {m : Nat} (h : 0 < m) :
    max l.leastPower (Nat.log2 (l.significand m) + l.power m - l.fractionBits) = l.power m := by
  have hpow := Nat.two_pow_pos l.fractionBits
  rcases Nat.lt_or_ge m (2 ^ l.fractionBits) with hlt | hle
  · have hlog : Nat.log2 m < l.fractionBits := (Nat.log2_lt h.ne').2 hlt
    rw [significand_of_lt hlt, power_of_lt hlt]
    omega
  · have hrest := Nat.mod_lt m hpow
    have hlog : Nat.log2 (l.significand m) = l.fractionBits := by
      rw [significand_of_le hle, Nat.log2_eq_iff (by omega), pow_succ]
      omega
    rw [hlog, power]
    omega

/-- The pattern of a number is made of the power and the significand that it stands for. -/
theorem eq_of_significand_power (l : BinaryLayout) (m : Nat) :
    (if l.significand m < 2 ^ l.fractionBits then l.significand m
      else (l.power m - l.leastPower + 1).toNat * 2 ^ l.fractionBits +
        (l.significand m - 2 ^ l.fractionBits)) = m := by
  have hpow := Nat.two_pow_pos l.fractionBits
  rcases Nat.lt_or_ge m (2 ^ l.fractionBits) with hlt | hle
  · rw [significand_of_lt hlt, if_pos hlt]
  · have hexponent : 0 < m / 2 ^ l.fractionBits := Nat.div_pos hle hpow
    have hnat : (l.power m - l.leastPower + 1).toNat = m / 2 ^ l.fractionBits := by
      rw [power]
      omega
    rw [significand_of_le hle, if_neg (by omega), hnat, Nat.add_sub_cancel_left, Nat.mul_comm]
    exact Nat.div_add_mod m (2 ^ l.fractionBits)

/-! ## Rounding what needs no rounding -/

theorem divNearest_mul_left (s : Nat) {d : Nat} (hd : 0 < d) : divNearest (s * d) d = s := by
  simp [divNearest, Nat.mul_div_cancel _ hd, hd.ne']

/-- A number that a pattern stands for is rounded to that pattern. -/
theorem round_eq {m num den : Nat} (hm : m < l.infinity) (hden : 0 < den)
    (h : (num : ℚ) / den = l.value m) : l.round num den = m := by
  have hden' : (den : ℚ) ≠ 0 := by exact_mod_cast hden.ne'
  rcases Nat.eq_zero_or_pos m with rfl | hpos
  · have hnum : num = 0 := by simpa [value, significand, hden.ne'] using h
    rw [hnum, round_zero]
  · have hsig := l.significand_pos hpos
    have hscaled : num * 2 ^ (-l.power m).toNat =
        l.significand m * (den * 2 ^ (l.power m).toNat) := by
      rw [value, two_zpow_eq, div_eq_iff hden'] at h
      have hcast : (num : ℚ) * 2 ^ (-l.power m).toNat =
          l.significand m * (den * 2 ^ (l.power m).toNat) := by
        rw [h]
        field_simp
      exact_mod_cast hcast
    have hnum : 0 < num := by
      rcases Nat.eq_zero_or_pos num with rfl | hnum
      · simp at hscaled
        omega
      · exact hnum
    have hexponent : binaryExponent num den = Nat.log2 (l.significand m) + l.power m := by
      rw [binaryExponent_eq hnum hden, h, value, log_mul_zpow hsig]
    have hquotient := divNearest_mul_left (l.significand m)
      (Nat.mul_pos hden (Nat.two_pow_pos (l.power m).toNat))
    unfold round
    rw [if_neg hnum.ne']
    simp only [hexponent, max_leastPower hpos, Nat.pow_eq, hscaled, hquotient,
      eq_of_significand_power]
    omega

/-- So is a number that is given by another significand and another power. -/
theorem roundScaled_eq {m s : Nat} {p : Int} (hm : m < l.infinity)
    (h : (s : ℚ) * 2 ^ p = l.value m) : l.roundScaled s p = m := by
  refine round_eq hm (Nat.two_pow_pos _) ?_
  rw [← h, two_zpow_eq p, mul_div_assoc']
  push_cast [Nat.pow_eq]
  rfl

/-! ## Reading patterns -/

theorem signed_lt (l : BinaryLayout) (negative : Bool) {m : Nat}
    (h : m < 2 ^ (l.exponentBits + l.fractionBits)) :
    l.signed negative m < 2 ^ (l.exponentBits + l.fractionBits + 1) := by
  rw [pow_succ]
  cases negative <;> simp [signed] <;> omega

theorem signed_inj (l : BinaryLayout) (negative : Bool) {m m' : Nat} :
    l.signed negative m = l.signed negative m' ↔ m = m' := by
  cases negative <;> simp [signed]

/-- Every pattern of the width of a layout has a sign in front of it or not. -/
theorem exists_signed (l : BinaryLayout) {pattern : Nat}
    (h : pattern < 2 ^ (l.exponentBits + l.fractionBits + 1)) :
    ∃ negative m, m < 2 ^ (l.exponentBits + l.fractionBits) ∧ pattern = l.signed negative m := by
  rw [pow_succ] at h
  rcases Nat.lt_or_ge pattern (2 ^ (l.exponentBits + l.fractionBits)) with hlt | hle
  · exact ⟨false, pattern, hlt, rfl⟩
  · exact ⟨true, pattern - 2 ^ (l.exponentBits + l.fractionBits), by omega, by simp [signed, hle]⟩

/-- The parts of a pattern, with a sign in front of it or not. -/
theorem parts_signed (l : BinaryLayout) (negative : Bool) {m : Nat}
    (h : m < 2 ^ (l.exponentBits + l.fractionBits)) :
    l.signed negative m % 2 ^ l.fractionBits = m % 2 ^ l.fractionBits ∧
    l.signed negative m / 2 ^ l.fractionBits % 2 ^ l.exponentBits = m / 2 ^ l.fractionBits ∧
    (l.signed negative m / 2 ^ (l.exponentBits + l.fractionBits) % 2 == 1) = negative := by
  have hpow := Nat.two_pow_pos l.fractionBits
  have hexponent : m / 2 ^ l.fractionBits < 2 ^ l.exponentBits := by
    rwa [Nat.div_lt_iff_lt_mul hpow, ← pow_add]
  cases negative with
  | false =>
    refine ⟨rfl, Nat.mod_eq_of_lt hexponent, ?_⟩
    simp [signed, Nat.div_eq_of_lt h]
  | true =>
    have hsigned : l.signed true m = 2 ^ l.exponentBits * 2 ^ l.fractionBits + m := by
      simp [signed, pow_add]
    refine ⟨?_, ?_, ?_⟩
    · rw [hsigned, Nat.mul_add_mod_self_right]
    · rw [hsigned, Nat.mul_comm, Nat.mul_add_div hpow, Nat.add_mod_left, Nat.mod_eq_of_lt hexponent]
    · rw [hsigned, ← pow_add, Nat.add_div_left _ (Nat.two_pow_pos _), Nat.div_eq_of_lt h]
      rfl

/-- What is read off a pattern. -/
theorem decode_signed (l : BinaryLayout) (negative : Bool) {m : Nat}
    (h : m < 2 ^ (l.exponentBits + l.fractionBits)) :
    l.decode (l.signed negative m) =
      if m / 2 ^ l.fractionBits = 2 ^ l.exponentBits - 1 then
        if m % 2 ^ l.fractionBits = 0 then .infinite negative
        else .nan negative (m % 2 ^ l.fractionBits)
      else .finite negative (l.significand m) (l.power m) := by
  have hpow := Nat.two_pow_pos l.fractionBits
  obtain ⟨hfraction, hexponent, hnegative⟩ := l.parts_signed negative h
  simp only [decode, Nat.pow_eq, hfraction, hexponent, hnegative]
  split
  · rfl
  · split
    · rename_i hzero
      have hlt : m < 2 ^ l.fractionBits := by
        rwa [Nat.div_eq_zero_iff_lt hpow] at hzero
      rw [significand_of_lt hlt, power_of_lt hlt, Nat.mod_eq_of_lt hlt]
    · rename_i hnonzero
      have hle : 2 ^ l.fractionBits ≤ m := by
        by_contra hlt
        exact hnonzero (Nat.div_eq_of_lt (by omega))
      rw [significand_of_le hle, power]
      congr 1
      omega

theorem decode_finite (negative : Bool) {m : Nat} (h : m < l.infinity) :
    l.decode (l.signed negative m) = .finite negative (l.significand m) (l.power m) := by
  rw [decode_signed l negative (h.trans l.infinity_lt), if_neg (lt_infinity_iff.1 h).ne]

theorem decode_infinity (l : BinaryLayout) (negative : Bool) :
    l.decode (l.signed negative l.infinity) = .infinite negative := by
  rw [decode_signed l negative l.infinity_lt]
  simp [infinity, Nat.mul_div_cancel _ (Nat.two_pow_pos l.fractionBits)]

theorem decode_nan (negative : Bool) {payload : Nat} (hpos : 0 < payload)
    (hlt : payload < 2 ^ l.fractionBits) :
    l.decode (l.signed negative (l.infinity + payload)) = .nan negative payload := by
  have hadd := l.infinity_add
  have hmod : (l.infinity + payload) % 2 ^ l.fractionBits = payload := by
    simp [infinity, Nat.mod_eq_of_lt hlt]
  have hdiv : (l.infinity + payload) / 2 ^ l.fractionBits = 2 ^ l.exponentBits - 1 := by
    simp only [infinity, Nat.pow_eq]
    rw [Nat.mul_comm, Nat.mul_add_div (Nat.two_pow_pos _), Nat.div_eq_of_lt hlt, Nat.add_zero]
  rw [decode_signed l negative (by omega), hmod, hdiv, if_pos rfl, if_neg hpos.ne']

/-! ## Carrying numbers over -/

variable {source target : BinaryLayout}

/-- A number that both layouts have is carried over as it is. -/
theorem convert_finite (negative : Bool) {m m' : Nat} (hm : m < source.infinity)
    (hm' : m' < target.infinity) (h : source.value m = target.value m') :
    convert source target (source.signed negative m) = target.signed negative m' := by
  rw [convert, decode_finite negative hm]
  simp only [roundScaled_eq hm' h]

theorem convert_infinity (source target : BinaryLayout) (negative : Bool) :
    convert source target (source.signed negative source.infinity) =
      target.signed negative target.infinity := by
  rw [convert, decode_infinity]

theorem convert_nan (negative : Bool) {payload : Nat} (hpos : 0 < payload)
    (hlt : payload < 2 ^ source.fractionBits) :
    convert source target (source.signed negative (source.infinity + payload)) =
      target.signed negative (target.infinity + (2 ^ (target.fractionBits - 1) +
        payload * 2 ^ target.fractionBits / 2 ^ source.fractionBits %
          2 ^ (target.fractionBits - 1))) := by
  rw [convert, decode_nan negative hpos hlt]
  rfl

/-! ## Singles as doubles -/

theorem value_add (l : BinaryLayout) {e f : Nat} (he : 0 < e) (hf : f < 2 ^ l.fractionBits) :
    l.value (e * 2 ^ l.fractionBits + f) =
      (2 ^ l.fractionBits + f : Nat) * 2 ^ (l.leastPower + e - 1) := by
  have hpow := Nat.two_pow_pos l.fractionBits
  have hle : 2 ^ l.fractionBits ≤ e * 2 ^ l.fractionBits + f := by
    have := Nat.le_mul_of_pos_left (2 ^ l.fractionBits) he
    omega
  have hdiv : (e * 2 ^ l.fractionBits + f) / 2 ^ l.fractionBits = e := by
    rw [Nat.mul_comm, Nat.mul_add_div hpow, Nat.div_eq_of_lt hf, Nat.add_zero]
  have hmod : (e * 2 ^ l.fractionBits + f) % 2 ^ l.fractionBits = f := by
    rw [Nat.mul_comm, Nat.mul_add_mod, Nat.mod_eq_of_lt hf]
  rw [value, significand_of_le hle, power, hdiv, hmod]
  congr 2
  omega

/-- Every finite single is a double: there is room for the highest place of its significand to come
to the front. -/
theorem exists_double_value {m : Nat} (hm : m < single.infinity) :
    ∃ m' < double.infinity, double.value m' = single.value m := by
  rcases Nat.eq_zero_or_pos m with rfl | hpos
  · exact ⟨0, by decide, by simp [value, significand]⟩
  · set s := single.significand m with hs
    set j := Nat.log2 s with hj
    have hspos : 0 < s := significand_pos hpos
    have hlog : j < 24 := (Nat.log2_lt hspos.ne').2 (single.significand_lt m)
    have hrange : -149 ≤ single.power m ∧ single.power m ≤ 104 := by
      have hexponent : m / 2 ^ 23 < 255 := lt_infinity_iff.1 hm
      have hpower : single.power m = -149 + (m / 2 ^ 23 - 1 : Nat) := rfl
      omega
    obtain ⟨hlow, hhigh⟩ := shift_bounds hspos (show j ≤ 52 by omega)
    rw [← hj] at hlow hhigh
    obtain ⟨e, he⟩ : ∃ e : Nat, (e : Int) = single.power m + j + 1023 :=
      ⟨(single.power m + j + 1023).toNat, by omega⟩
    have hfraction : s * 2 ^ (52 - j) - 2 ^ 52 < 2 ^ double.fractionBits := by
      show _ < 2 ^ 52
      omega
    have hpower : double.leastPower + e - 1 = single.power m - (52 - j : Nat) := by
      show (-1074 : Int) + e - 1 = _
      omega
    have hsig : 2 ^ double.fractionBits + (s * 2 ^ (52 - j) - 2 ^ 52) = s * 2 ^ (52 - j) := by
      show 2 ^ 52 + _ = _
      omega
    refine ⟨e * 2 ^ double.fractionBits + (s * 2 ^ (52 - j) - 2 ^ 52), ?_, ?_⟩
    · show e * 2 ^ 52 + _ < 2047 * 2 ^ 52
      omega
    · rw [value_add double (by omega) hfraction, hpower, hsig, shift_significand, value, ← hs]

end BinaryLayout

namespace Binary32

open BinaryLayout

theorem bits_inj {x y : Binary32} : x.bits = y.bits ↔ x = y := by
  cases x
  cases y
  simp

/-- A NaN that is not quiet. -/
def isSignaling (x : Binary32) : Bool :=
  match single.decode x.bits.toNat with
  | .nan _ payload => payload < 2 ^ 22
  | _ => false

theorem bits_toSingle_toDouble {x : Binary32} {negative : Bool} {m : Nat}
    (h : convert .single .double x.bits.toNat = double.signed negative m) (hm : m < 2 ^ 63) :
    x.toDouble.toSingle.bits = (convert .double .single (double.signed negative m)).toUInt32 := by
  have hlt : double.signed negative m < 2 ^ 64 := double.signed_lt negative hm
  rw [Binary64.toSingle, toDouble, h]
  simp only [Nat.toUInt64_eq, UInt64.toNat_ofNat', Nat.mod_eq_of_lt hlt]

/-- A pattern of a single without its sign, made quiet if it is a NaN. -/
def quieted (m : Nat) : Nat :=
  if single.infinity < m then single.infinity + (2 ^ 22 + (m - single.infinity) % 2 ^ 22) else m

/-- A single that is carried over to double precision and back comes back quiet. -/
theorem convert_convert (negative : Bool) {m : Nat} (hm : m < 2 ^ 31) :
    ∃ m' < 2 ^ 63, convert .single .double (single.signed negative m) = double.signed negative m' ∧
      convert .double .single (double.signed negative m') = single.signed negative (quieted m) := by
  rcases Nat.lt_trichotomy m single.infinity with hlt | rfl | hgt
  · obtain ⟨m', hm', hvalue⟩ := exists_double_value hlt
    refine ⟨m', hm'.trans double.infinity_lt, convert_finite negative hlt hm' hvalue.symm, ?_⟩
    rw [quieted, if_neg (by omega)]
    exact convert_finite negative hm' hlt hvalue
  · refine ⟨double.infinity, double.infinity_lt, convert_infinity _ _ negative, ?_⟩
    rw [quieted, if_neg (by omega)]
    exact convert_infinity _ _ negative
  · have hsingle : single.infinity + 2 ^ 23 = 2 ^ 31 := single.infinity_add
    have hdouble : double.infinity + 2 ^ 52 = 2 ^ 63 := double.infinity_add
    obtain ⟨payload, rfl⟩ := Nat.exists_eq_add_of_le hgt.le
    set wide := 2 ^ 51 + payload * 2 ^ 52 / 2 ^ 23 % 2 ^ 51 with hwide
    refine ⟨double.infinity + wide, by omega,
      convert_nan negative (by omega) (show payload < 2 ^ 23 by omega), ?_⟩
    refine (convert_nan negative (by omega) (show wide < 2 ^ 52 by omega)).trans ?_
    have hnarrow : wide * 2 ^ 23 / 2 ^ 52 % 2 ^ 22 = payload % 2 ^ 22 := by omega
    rw [quieted, if_pos hgt, Nat.add_sub_cancel_left]
    show single.signed negative (single.infinity + (2 ^ 22 + wide * 2 ^ 23 / 2 ^ 52 % 2 ^ 22)) = _
    rw [hnarrow]

theorem quieted_lt {m : Nat} (h : m < 2 ^ 31) : quieted m < 2 ^ 31 := by
  have hsingle : single.infinity + 2 ^ 23 = 2 ^ 31 := single.infinity_add
  unfold quieted
  split <;> omega

theorem isSignaling_iff {x : Binary32} {negative : Bool} {m : Nat} (hm : m < 2 ^ 31)
    (hx : x.bits.toNat = single.signed negative m) : x.isSignaling = true ↔ quieted m ≠ m := by
  have hsingle : single.infinity + 2 ^ 23 = 2 ^ 31 := single.infinity_add
  unfold isSignaling quieted
  rw [hx]
  rcases Nat.lt_trichotomy m single.infinity with hlt | rfl | hgt
  · simp [decode_finite negative hlt, hlt.le]
  · simp [decode_infinity]
  · obtain ⟨payload, rfl⟩ := Nat.exists_eq_add_of_le hgt.le
    rw [decode_nan negative (by omega) (show payload < 2 ^ 23 by omega), if_pos hgt,
      decide_eq_true_iff]
    omega

/-- Widening a single and narrowing it again gives it back, unless it is a signalling NaN, which
becomes quiet. -/
theorem toSingle_toDouble_iff (x : Binary32) :
    x.toDouble.toSingle = x ↔ x.isSignaling = false := by
  obtain ⟨negative, m, hm, hx⟩ := single.exists_signed x.bits.toNat_lt
  obtain ⟨m', hm', hwide, hnarrow⟩ := convert_convert negative hm
  have hlt : single.signed negative (quieted m) < 2 ^ 32 :=
    single.signed_lt negative (quieted_lt hm)
  have hback : x.toDouble.toSingle.bits.toNat = single.signed negative (quieted m) := by
    rw [bits_toSingle_toDouble (hx ▸ hwide) hm', hnarrow, Nat.toUInt32_eq, UInt32.toNat_ofNat',
      Nat.mod_eq_of_lt hlt]
  have heq : x.toDouble.toSingle = x ↔ quieted m = m := by
    rw [← signed_inj single negative, ← hback, ← hx, UInt32.toNat_inj, bits_inj]
  rw [heq, ← Bool.not_eq_true, isSignaling_iff hm hx, not_not]

end Binary32

end Sift
