import Mathlib.Data.List.TakeWhile
import Mathlib.Data.Nat.Bitwise
import Mathlib.Data.Nat.Digits.Defs
import Mathlib.Tactic.Ring
import Sift.Proofs.Cursor
import Sift.Proofs.Outcome

/-!
# Which bytes hold an offset

`Cursor.Holds` says without a decoder which bytes stand for which offset: a version other than zero,
and behind it a number in seven-bit groups whose last group is among the first ten bytes and that
fits a word. The decoder finds an offset in these bytes and in no others, `ofBytes_eq_ok_iff`. On
machine words its loop never leaves the range of a shift and loses no bit, `readWords?_eq`. Of all
bytes that hold an offset under version 1, those that are written for it are the shortest.
-/
namespace Sift

namespace Cursor

/-! ## Where a number ends -/

/-- The first byte without its high bit stands at a place. -/
def EndsAt (body : List UInt8) (k : Nat) : Prop :=
  (∃ b ∈ body[k]?, b.toNat < 128) ∧ ∀ b ∈ body.take k, 128 ≤ b.toNat

/-- What the low seven bits of some bytes make to the base of 128, the lowest first. -/
def weight (bytes : List UInt8) : Nat := Nat.ofDigits 128 (bytes.map fun b => b.toNat % 128)

/-- Some bytes hold an offset: behind a version other than zero, one of the first ten bytes is the
first without its high bit, and the bytes up to this one make the offset. Bytes behind it are of no
account. -/
def Holds (bytes : List UInt8) (offset : UInt64) : Prop :=
  ∃ version body k, bytes = version :: body ∧ version ≠ 0 ∧ k < 10 ∧ EndsAt body k ∧
    weight (body.take (k + 1)) = offset.toNat

theorem not_endsAt_nil (k : Nat) : ¬EndsAt [] k := by
  simp [EndsAt]

@[simp] theorem endsAt_cons_zero (b : UInt8) (rest : List UInt8) :
    EndsAt (b :: rest) 0 ↔ b.toNat < 128 := by
  simp [EndsAt]

@[simp] theorem endsAt_cons_succ (b : UInt8) (rest : List UInt8) (k : Nat) :
    EndsAt (b :: rest) (k + 1) ↔ 128 ≤ b.toNat ∧ EndsAt rest k := by
  simp [EndsAt, and_left_comm]

@[simp] theorem weight_nil : weight [] = 0 := rfl

@[simp] theorem weight_cons (b : UInt8) (rest : List UInt8) :
    weight (b :: rest) = b.toNat % 128 + 128 * weight rest :=
  Nat.ofDigits_cons ..

/-- The bits of one group have room behind those of the groups before it. -/
theorem lt_room {place bits : Nat} (hbits : bits < 128)
    (hfits : ¬(64 ≤ 7 * place ∨ (7 * place = 63 ∧ 1 < bits))) : bits < 2 ^ (64 - 7 * place) := by
  by_cases htop : place = 9
  · subst htop
    omega
  · have hpow : 2 ^ 8 ≤ 2 ^ (64 - 7 * place) := Nat.pow_le_pow_right (by omega) (by omega)
    omega

/-- A group that is not the last takes seven bits of the room. -/
theorem room_eq {place : Nat} (h : place < 9) :
    2 ^ (64 - 7 * place) = 2 ^ (64 - 7 * (place + 1)) * 128 := by
  rw [show 64 - 7 * place = 64 - 7 * (place + 1) + 7 by omega, Nat.pow_add]

/-- Reading from a place on succeeds if the number ends before the tenth byte and its bits have room
in a word, and gives what has been read and the number in its place. -/
theorem readGroups_eq_ok_iff {place read n : Nat} {body : List UInt8} :
    readGroups (7 * place) read body = .ok n ↔
      ∃ k, place + k < 10 ∧ EndsAt body k ∧
        weight (body.take (k + 1)) < 2 ^ (64 - 7 * place) ∧
        n = read + weight (body.take (k + 1)) * 2 ^ (7 * place) := by
  induction body generalizing place read with
  | nil => simp [readGroups, not_endsAt_nil]
  | cons b rest ih =>
    by_cases hover : 64 ≤ 7 * place ∨ (7 * place = 63 ∧ 1 < b.toNat % 128)
    · rw [readGroups, if_pos hover]
      constructor
      · intro h
        cases h
      · rintro ⟨k, hk, -, hroom, -⟩
        -- the tenth byte has room for one bit
        obtain ⟨rfl, rfl⟩ : place = 9 ∧ k = 0 := by omega
        simp only [List.take_succ_cons, List.take_zero, weight_cons, weight_nil] at hroom
        omega
    · have hgroup : b.toNat % 128 < 128 := Nat.mod_lt _ (by omega)
      by_cases hlast : b.toNat < 128
      · rw [readGroups, if_neg hover, if_pos hlast]
        constructor
        · intro h
          cases h
          refine ⟨0, by omega, (endsAt_cons_zero b rest).2 hlast, ?_, by simp⟩
          simpa using lt_room hgroup hover
        · rintro ⟨k, hk, hends, hroom, rfl⟩
          cases k with
          | zero => simp
          | succ k =>
            have hhigh := ((endsAt_cons_succ b rest k).1 hends).1
            omega
      · have hpower : 2 ^ (7 * (place + 1)) = 2 ^ (7 * place) * 128 := Nat.pow_add 2 (7 * place) 7
        have hvalue (w : Nat) : read + b.toNat % 128 * 2 ^ (7 * place) + w * 2 ^ (7 * (place + 1)) =
            read + (b.toNat % 128 + 128 * w) * 2 ^ (7 * place) := by
          rw [hpower]
          ring
        rw [readGroups, if_neg hover, if_neg hlast, show 7 * place + 7 = 7 * (place + 1) by ring, ih]
        constructor
        · rintro ⟨k, hk, hends, hroom, rfl⟩
          have hsplit := @room_eq place (by omega)
          refine ⟨k + 1, by omega, (endsAt_cons_succ b rest k).2 ⟨by omega, hends⟩, ?_, ?_⟩
          · rw [List.take_succ_cons, weight_cons]
            omega
          · rw [List.take_succ_cons, weight_cons]
            exact hvalue _
        · rintro ⟨k, hk, hends, hroom, rfl⟩
          cases k with
          | zero => exact absurd ((endsAt_cons_zero b rest).1 hends) hlast
          | succ k =>
            have hsplit := @room_eq place (by omega)
            rw [List.take_succ_cons, weight_cons] at hroom ⊢
            refine ⟨k, by omega, ((endsAt_cons_succ b rest k).1 hends).2, by omega, ?_⟩
            exact (hvalue _).symm

/-- An offset is found in bytes that hold it, and in no others. -/
theorem ofBytes_eq_ok_iff {bytes : List UInt8} {offset : UInt64} :
    ofBytes bytes = .ok offset ↔ Holds bytes offset := by
  cases bytes with
  | nil => simp [ofBytes, Holds]
  | cons version body =>
    rw [ofBytes]
    by_cases hversion : version = 0
    · rw [if_pos hversion]
      constructor
      · intro h
        cases h
      · rintro ⟨_, _, _, heq, hne, -⟩
        cases heq
        exact absurd hversion hne
    · rw [if_neg hversion, map_eq_ok_iff]
      have hread (n : Nat) := @readGroups_eq_ok_iff 0 0 n body
      simp only [Nat.mul_zero, Nat.zero_add, Nat.sub_zero, Nat.pow_zero, Nat.mul_one] at hread
      constructor
      · rintro ⟨n, hn, rfl⟩
        obtain ⟨k, hk, hends, hroom, rfl⟩ := (hread n).1 hn
        exact ⟨version, body, k, rfl, hversion, hk, hends, (UInt64.toNat_ofNat_of_lt' hroom).symm⟩
      · rintro ⟨_, _, k, heq, -, hk, hends, hweight⟩
        cases heq
        have hroom : weight (body.take (k + 1)) < 2 ^ 64 := by
          rw [hweight]
          exact offset.toNat_lt
        refine ⟨_, (hread _).2 ⟨k, hk, hends, hroom, rfl⟩, ?_⟩
        rw [hweight, UInt64.ofNat_toNat]

/-! ## The loop on machine words -/

/-- A word shifted to the left, if the amount is below its width and no bit is shifted out. -/
def shiftLeft? (w : UInt64) (amount : UInt32) : Option UInt64 :=
  if amount.toNat < 64 ∧ w.toNat * 2 ^ amount.toNat < UInt64.size then
    some (w <<< amount.toUInt64)
  else none

/-- The amount by which the group at a place is shifted, if it is a word of 32 bits. -/
def shiftAt? (place : Nat) : Option UInt32 :=
  if 7 * place < UInt32.size then some (UInt32.ofNat (7 * place)) else none

/-- The loop of the decoder on machine words; it has no result where an amount or a shifted word
does not fit. -/
def readWords? (place : Nat) (read : UInt64) :
    List UInt8 → Option (Except CursorFault UInt64)
  | [] => some (.error .truncated)
  | b :: rest => do
    let shift ← shiftAt? place
    let bits := (b &&& 0x7f).toUInt64
    if 64 ≤ shift ∨ (shift = 63 ∧ 1 < bits) then some (.error .overflow)
    else do
      let moved ← shiftLeft? bits shift
      if b &&& 0x80 = 0 then some (.ok (read ||| moved))
      else readWords? (place + 1) (read ||| moved) rest

theorem toNat_low (b : UInt8) : (b &&& 0x7f).toUInt64.toNat = b.toNat % 128 := by
  rw [UInt8.toNat_toUInt64, UInt8.toNat_and]
  exact Nat.and_two_pow_sub_one_eq_mod b.toNat 7

theorem high_eq_zero_iff (b : UInt8) : b &&& 0x80 = 0 ↔ b.toNat < 128 := by
  have hb := b.toNat_lt
  have hhigh : (b &&& 0x80).toNat = (b.toNat.testBit 7).toNat * 128 :=
    Nat.and_two_pow b.toNat 7
  rw [← UInt8.toNat_inj, hhigh, Nat.testBit_eq_decide_div_mod_eq]
  by_cases hlast : b.toNat < 128
  · have hbit : ¬b.toNat / 2 ^ 7 % 2 = 1 := by omega
    rw [decide_eq_false hbit]
    simp [hlast]
  · have hbit : b.toNat / 2 ^ 7 % 2 = 1 := by omega
    rw [decide_eq_true hbit]
    simp [hlast]

theorem shiftAt?_eq {place : Nat} (h : place ≤ 10) :
    ∃ shift, shiftAt? place = some shift ∧ shift.toNat = 7 * place := by
  have hsize : 7 * place < UInt32.size := by
    change 7 * place < 4294967296
    omega
  exact ⟨_, if_pos hsize, UInt32.toNat_ofNat_of_lt' hsize⟩

/-- A group whose bits have room is shifted to its place behind the groups that have been read, and
joined to them without carrying. -/
theorem shiftLeft?_eq {place : Nat} {shift : UInt32} (hshift : shift.toNat = 7 * place)
    {read bits : UInt64} (hplace : place < 10) (hread : read.toNat < 2 ^ (7 * place))
    (hbits : bits.toNat < 2 ^ (64 - 7 * place)) :
    ∃ moved, shiftLeft? bits shift = some moved ∧
      (read ||| moved).toNat = read.toNat + bits.toNat * 2 ^ (7 * place) := by
  have hfits : bits.toNat * 2 ^ (7 * place) < 2 ^ 64 := by
    calc bits.toNat * 2 ^ (7 * place)
        < 2 ^ (64 - 7 * place) * 2 ^ (7 * place) :=
          Nat.mul_lt_mul_of_pos_right hbits (Nat.two_pow_pos _)
      _ = 2 ^ 64 := by rw [← Nat.pow_add, Nat.sub_add_cancel (by omega)]
  have hmoved : (bits <<< shift.toUInt64).toNat = bits.toNat * 2 ^ (7 * place) := by
    have hamount : 7 * place % 64 = 7 * place := Nat.mod_eq_of_lt (by omega)
    rw [UInt64.toNat_shiftLeft, UInt32.toNat_toUInt64, hshift, hamount, Nat.shiftLeft_eq,
      Nat.mod_eq_of_lt hfits]
  refine ⟨bits <<< shift.toUInt64, ?_, ?_⟩
  · rw [← hshift] at hfits
    exact if_pos ⟨by omega, hfits⟩
  · rw [UInt64.toNat_or, hmoved, Nat.or_comm, Nat.mul_comm, ← Nat.two_pow_add_eq_or_of_lt hread,
      Nat.add_comm]

/-- On machine words the loop always has a result, and the result is the right one: no amount is
beyond the width of a word, and no bit is shifted out. -/
theorem readWords?_eq {place : Nat} (hplace : place ≤ 10) {read : UInt64}
    (hread : read.toNat < 2 ^ (7 * place)) (body : List UInt8) :
    readWords? place read body =
      some ((readGroups (7 * place) read.toNat body).map UInt64.ofNat) := by
  induction body generalizing place read with
  | nil => rfl
  | cons b rest ih =>
    obtain ⟨shift, hat, hshift⟩ := shiftAt?_eq hplace
    have hover : (64 ≤ shift ∨ (shift = 63 ∧ 1 < (b &&& 0x7f).toUInt64)) ↔
        (64 ≤ 7 * place ∨ (7 * place = 63 ∧ 1 < b.toNat % 128)) := by
      rw [UInt32.le_iff_toNat_le, ← UInt32.toNat_inj, UInt64.lt_iff_toNat_lt, toNat_low, hshift]
      rfl
    rw [readWords?, hat, Option.bind_eq_bind, Option.bind_some, readGroups]
    by_cases hfits : 64 ≤ 7 * place ∨ (7 * place = 63 ∧ 1 < b.toNat % 128)
    · rw [if_pos (hover.2 hfits), if_pos hfits]
      rfl
    · have hgroup : b.toNat % 128 < 128 := Nat.mod_lt _ (by omega)
      have hroom : (b &&& 0x7f).toUInt64.toNat < 2 ^ (64 - 7 * place) := by
        rw [toNat_low]
        exact lt_room hgroup hfits
      obtain ⟨moved, hmoved, hjoined⟩ := shiftLeft?_eq hshift (by omega) hread hroom
      rw [toNat_low] at hjoined
      rw [if_neg (mt hover.1 hfits), if_neg hfits, hmoved, Option.bind_eq_bind,
        Option.bind_some]
      by_cases hlast : b.toNat < 128
      · rw [if_pos ((high_eq_zero_iff b).2 hlast), if_pos hlast]
        have hword : UInt64.ofNat (read.toNat + b.toNat % 128 * 2 ^ (7 * place)) = read ||| moved := by
          rw [← hjoined, UInt64.ofNat_toNat]
        exact congrArg (fun w => some (Except.ok w)) hword.symm
      · have hnext : (read ||| moved).toNat < 2 ^ (7 * (place + 1)) := by
          have hpower : 2 ^ (7 * (place + 1)) = 2 ^ (7 * place) * 128 :=
            Nat.pow_add 2 (7 * place) 7
          have hbits : b.toNat % 128 * 2 ^ (7 * place) ≤ 127 * 2 ^ (7 * place) :=
            Nat.mul_le_mul_right _ (by omega)
          omega
        rw [if_neg (mt (high_eq_zero_iff b).1 hlast), if_neg hlast, ih (by omega) hnext, hjoined]
        rfl

/-! ## The shortest bytes -/

/-- A number below a power of 128 has no more groups than the exponent says. -/
theorem length_groups_le {n k : Nat} (h : n < 128 ^ (k + 1)) : (groups n).length ≤ k + 1 := by
  induction k generalizing n with
  | zero =>
    rw [groups, if_pos (by omega)]
    rfl
  | succ k ih =>
    rw [groups]
    split
    · simp
    · have hrest : n / 128 < 128 ^ (k + 1) := by
        rw [Nat.div_lt_iff_lt_mul (by omega), ← Nat.pow_succ]
        exact h
      have hlength := ih hrest
      simpa using hlength

theorem weight_lt (bytes : List UInt8) : weight bytes < 128 ^ bytes.length := by
  have hdigits : ∀ d ∈ bytes.map fun b => b.toNat % 128, d < 128 := by
    intro d hd
    obtain ⟨b, -, rfl⟩ := List.mem_map.1 hd
    exact Nat.mod_lt _ (by omega)
  simpa [weight] using Nat.ofDigits_lt_base_pow_length (by omega) hdigits

/-- A number that ends at the last of as many bytes as it has groups is written with these bytes. -/
theorem eq_groups_of_endsAt {body : List UInt8} {k : Nat} (hends : EndsAt body k)
    (hlast : body.length = k + 1) (hlength : (groups (weight body)).length = k + 1) :
    body = groups (weight body) := by
  induction k generalizing body with
  | zero =>
    obtain ⟨b, rfl⟩ := List.length_eq_one_iff.1 hlast
    have hb : b.toNat < 128 := (endsAt_cons_zero b []).1 hends
    have hvalue : weight [b] = b.toNat := by simp [Nat.mod_eq_of_lt hb]
    rw [hvalue, groups, if_pos hb, Base64.toUInt8_eq_of_toNat_eq rfl]
  | succ k ih =>
    obtain ⟨b, rest, rfl⟩ := List.exists_cons_of_length_eq_add_one hlast
    obtain ⟨hhigh, hrest⟩ := (endsAt_cons_succ b rest k).1 hends
    have hb := b.toNat_lt
    rw [weight_cons] at hlength ⊢
    have hmore : ¬b.toNat % 128 + 128 * weight rest < 128 := by
      intro hone
      rw [groups, if_pos hone, List.length_singleton] at hlength
      omega
    have hlow : (b.toNat % 128 + 128 * weight rest) % 128 = b.toNat % 128 := by omega
    have hhead : (b.toNat % 128 + 128).toUInt8 = b := Base64.toUInt8_eq_of_toNat_eq (by omega)
    have htail : (b.toNat % 128 + 128 * weight rest) / 128 = weight rest := by omega
    rw [groups, if_neg hmore, hlow, htail, List.length_cons] at hlength
    rw [groups, if_neg hmore, hlow, hhead, htail, ← ih hrest (by simpa using hlast) (by omega)]

theorem EndsAt.lt_length {body : List UInt8} {k : Nat} (h : EndsAt body k) : k < body.length := by
  obtain ⟨⟨b, hb, -⟩, -⟩ := h
  exact (List.getElem?_eq_some_iff.1 hb).1

/-- Some bytes hold an offset under version 1, and no others that do are as short. -/
structure Shortest (bytes : List UInt8) (offset : UInt64) : Prop where
  version : bytes.head? = some 1
  holds : Holds bytes offset
  length_le : ∀ other, other.head? = some 1 → Holds other offset → bytes.length ≤ other.length
  eq_of_length : ∀ other, other.head? = some 1 → Holds other offset →
    other.length = bytes.length → other = bytes

theorem shortest_toBytes (offset : UInt64) : Shortest (toBytes offset) offset := by
  have hholds : Holds (toBytes offset) offset := by
    have hread := ofBytes_toBytes offset []
    rw [List.append_nil] at hread
    exact ofBytes_eq_ok_iff.1 hread
  -- the number in other bytes ends no earlier than the groups of the offset do
  have hother : ∀ other, other.head? = some 1 → Holds other offset → ∃ body k, other = 1 :: body ∧
      EndsAt body k ∧ weight (body.take (k + 1)) = offset.toNat ∧
      (groups offset.toNat).length ≤ k + 1 ∧ k + 1 ≤ body.length := by
    rintro _ hversion ⟨version, body, k, rfl, -, -, hends, hweight⟩
    obtain rfl : version = 1 := Option.some.inj hversion
    have hlength : (body.take (k + 1)).length = k + 1 := List.length_take_of_le hends.lt_length
    have hlt := weight_lt (body.take (k + 1))
    rw [hweight, hlength] at hlt
    exact ⟨body, k, rfl, hends, hweight, length_groups_le hlt, hends.lt_length⟩
  refine ⟨rfl, hholds, fun other hversion hheld => ?_, fun other hversion hheld hlength => ?_⟩
  · obtain ⟨body, k, rfl, -, -, hgroups, hbody⟩ := hother other hversion hheld
    rw [toBytes, List.length_cons, List.length_cons]
    omega
  · obtain ⟨body, k, rfl, hends, hweight, hgroups, hbody⟩ := hother other hversion hheld
    rw [toBytes, List.length_cons, List.length_cons, Nat.add_right_cancel_iff] at hlength
    have hall : body.take (k + 1) = body := List.take_of_length_le (by omega)
    rw [hall] at hweight
    have heq := eq_groups_of_endsAt hends (by omega) (by rw [hweight]; omega)
    rw [hweight] at heq
    rw [toBytes, ← heq]

/-! ## Tokens -/

/-- Blanks around a token do not count. -/
theorem trimBlanks_around {before after : List Char} (hbefore : ∀ c ∈ before, Text.isBlank c = true)
    (hafter : ∀ c ∈ after, Text.isBlank c = true) (cs : List Char) :
    Text.trimBlanks (before ++ cs ++ after) = Text.trimBlanks cs := by
  have hback : ∀ c ∈ after.reverse, Text.isBlank c = true := fun c hc =>
    hafter c (List.mem_reverse.1 hc)
  rw [Text.trimBlanks, Text.trimBlanks, List.append_assoc, List.dropWhile_append_of_pos hbefore,
    List.dropWhile_append]
  by_cases hcs : cs.dropWhile Text.isBlank = []
  · have hnone : after.dropWhile Text.isBlank = [] := List.dropWhile_eq_nil_iff.2 hafter
    simp [hcs, hnone]
  · rw [if_neg (by simpa using hcs), List.reverse_append, List.dropWhile_append_of_pos hback]

theorem decode_around {before after : List Char} (hbefore : ∀ c ∈ before, Text.isBlank c = true)
    (hafter : ∀ c ∈ after, Text.isBlank c = true) (bytes : List UInt8) :
    decode (String.ofList (before ++ Base64.encode bytes ++ after)) = ofBytes bytes := by
  rw [← decode_encode_bytes, decode, decode, String.toList_ofList, String.toList_ofList,
    trimBlanks_around hbefore hafter]

/-- Reading tokens is exact. Whatever blanks stand around it, the token of an offset is read as the
offset, and the token of any bytes as the offset that they hold; where they hold none it is refused
as an invalid cursor. On machine words nothing overflows on the way and no bit is lost. Of all bytes
that hold an offset under version 1, those of its own token are the shortest. -/
theorem decode_exact {before after : List Char} (hbefore : ∀ c ∈ before, Text.isBlank c = true)
    (hafter : ∀ c ∈ after, Text.isBlank c = true) :
    (∀ offset : UInt64,
      decode (String.ofList (before ++ (encode offset).toList ++ after)) = .ok offset) ∧
    (∀ bytes offset, decode (String.ofList (before ++ Base64.encode bytes ++ after)) = .ok offset ↔
      Holds bytes offset) ∧
    (∀ bytes, (¬∃ offset, Holds bytes offset) → ∃ message,
      (decode (String.ofList (before ++ Base64.encode bytes ++ after))).mapError
        CursorFault.toError = .error (.invalidCursor message)) ∧
    (∀ version body, version ≠ 0 → readWords? 0 0 body = some (ofBytes (version :: body))) ∧
    ∀ offset, encode offset = String.ofList (Base64.encode (toBytes offset)) ∧
      Shortest (toBytes offset) offset := by
  refine ⟨fun offset => ?_, fun bytes offset => ?_, fun bytes hnone => ?_,
    fun version body hversion => ?_, fun offset => ⟨rfl, shortest_toBytes offset⟩⟩
  · rw [encode, String.toList_ofList, decode_around hbefore hafter]
    exact ofBytes_eq_ok_iff.2 (shortest_toBytes offset).holds
  · rw [decode_around hbefore hafter]
    exact ofBytes_eq_ok_iff
  · rw [decode_around hbefore hafter]
    cases hread : ofBytes bytes with
    | ok offset => exact absurd ⟨offset, ofBytes_eq_ok_iff.1 hread⟩ hnone
    | error fault => exact ⟨fault.message, rfl⟩
  · rw [ofBytes, if_neg hversion]
    exact @readWords?_eq 0 (by omega) 0 (by decide) body

theorem decode_exact_later :
    (∀ c ∈ ['\u00a0'], Text.isBlank c = true) ∧ (∀ c ∈ ['\u2003', '\n'], Text.isBlank c = true) ∧
    -- a version of later times with more behind the offset
    decode "\u00a0AqwCZnV0dXJl\u2003\n" = .ok 300 ∧
    -- a tenth byte that is too large by one bit
    ∃ message, (decode "\u00a0Af___________wI\u2003\n").mapError CursorFault.toError =
      .error (.invalidCursor message) := by
  have hbefore : ∀ c ∈ ['\u00a0'], Text.isBlank c = true :=
    List.forall_mem_singleton.2 (by decide)
  have hafter : ∀ c ∈ ['\u2003', '\n'], Text.isBlank c = true :=
    List.forall_mem_cons.2 ⟨by decide, List.forall_mem_singleton.2 (by decide)⟩
  obtain ⟨-, hread, hrefuse, -, -⟩ := decode_exact hbefore hafter
  refine ⟨hbefore, hafter, ?_, ?_⟩
  · refine (hread [2, 0xac, 2, 102, 117, 116, 117, 114, 101] 300).2 ?_
    exact ⟨2, _, 1, rfl, by decide, by decide, by simp [EndsAt], by decide⟩
  · refine hrefuse [1, 0xff, 0xff, 0xff, 0xff, 0xff, 0xff, 0xff, 0xff, 0xff, 2] ?_
    rintro ⟨offset, hholds⟩
    have hfound := ofBytes_eq_ok_iff.2 hholds
    cases hfound

end Cursor

end Sift
