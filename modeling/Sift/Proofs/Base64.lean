import Sift.Cursor

/-!
# Base64 is read as it was written

Writing gives quads of symbols; reading takes all quads but the last by their values and the last
one symbol by symbol. Both are taken one quad at a time: a quad of values below 64 is read as the
bytes that these values hold, and the values that were written of three bytes hold those bytes. The
text of a token is plain: each symbol is one byte in UTF-8, and none of them is blank.
-/
namespace Sift

namespace Base64

/-- The byte of a symbol. -/
def byteOf (n : Nat) : UInt8 := (symbol n).toNat.toUInt8

/-- The numbers whose symbols are written. -/
def sextets : List UInt8 → List Nat
  | a :: b :: c :: rest =>
    a.toNat / 4 :: (a.toNat % 4 * 16 + b.toNat / 16) :: (b.toNat % 16 * 4 + c.toNat / 64) ::
      c.toNat % 64 :: sextets rest
  | [a, b] => [a.toNat / 4, a.toNat % 4 * 16 + b.toNat / 16, b.toNat % 16 * 4]
  | [a] => [a.toNat / 4, a.toNat % 4 * 16]
  | [] => []

theorem encode_eq (bytes : List UInt8) : encode bytes = (sextets bytes).map symbol := by
  fun_induction sextets bytes with
  | case1 a b c rest ih => simp [encode, ih]
  | case2 a b => rfl
  | case3 a => rfl
  | case4 => rfl

theorem sextets_lt (bytes : List UInt8) : ∀ n ∈ sextets bytes, n < 64 := by
  fun_induction sextets bytes with
  | case1 a b c rest ih =>
    have ha := a.toNat_lt
    have hb := b.toNat_lt
    have hc := c.toNat_lt
    intro n hn
    simp only [List.mem_cons] at hn
    rcases hn with rfl | rfl | rfl | rfl | hn
    · omega
    · omega
    · omega
    · omega
    · exact ih n hn
  | case2 a b =>
    have ha := a.toNat_lt
    have hb := b.toNat_lt
    intro n hn
    simp only [List.mem_cons, List.not_mem_nil, or_false] at hn
    omega
  | case3 a =>
    have ha := a.toNat_lt
    intro n hn
    simp only [List.mem_cons, List.not_mem_nil, or_false] at hn
    omega
  | case4 => simp

theorem length_sextets_mod (bytes : List UInt8) : (sextets bytes).length % 4 ≠ 1 := by
  fun_induction sextets bytes with
  | case1 a b c rest ih =>
    simp only [List.length_cons]
    omega
  | case2 a b => simp
  | case3 a => simp
  | case4 => simp

theorem sextets_eq_nil_iff {bytes : List UInt8} : sextets bytes = [] ↔ bytes = [] := by
  fun_cases sextets bytes with
  | case1 a b c rest => simp
  | case2 a b => simp
  | case3 a => simp
  | case4 => simp

/-! ## One symbol -/

theorem value?_byteOf {n : Nat} (h : n < 64) : value? (byteOf n) = some n := value?_symbol h

theorem byteOf_ne_pad {n : Nat} (h : n < 64) : byteOf n ≠ pad := by
  intro heq
  have hvalue := value?_byteOf h
  have hpad : value? pad = none := by decide
  rw [heq, hpad] at hvalue
  cases hvalue

theorem utf8EncodeChar_symbol {n : Nat} (h : n < 64) :
    String.utf8EncodeChar (symbol n) = [byteOf n] := by
  revert n
  decide

theorem isBlank_symbol {n : Nat} (h : n < 64) : Text.isBlank (symbol n) = false := by
  revert n
  decide

/-! ## Quads -/

theorem toUInt8_eq_of_toNat_eq {n : Nat} {b : UInt8} (h : n = b.toNat) : n.toUInt8 = b := by
  subst h
  exact UInt8.ofNat_toNat

/-- Symbols alone are read as their numbers, without padding. -/
theorem lastSymbols_map_byteOf (start : Nat) {ns : List Nat} (h : ∀ n ∈ ns, n < 64) (i : Nat) :
    lastSymbols start i none (ns.map byteOf) = .ok (ns, false) := by
  induction ns generalizing i with
  | nil => rfl
  | cons n ns ih =>
    have hn : n < 64 := h n (List.mem_cons_self ..)
    have hns : ∀ m ∈ ns, m < 64 := fun m hm => h m (List.mem_cons_of_mem n hm)
    rw [List.map_cons, lastSymbols, if_neg (byteOf_ne_pad hn), value?_byteOf hn, ih hns]
    rfl

theorem valueAt_byteOf {n : Nat} (h : n < 64) (offset : Nat) :
    valueAt (byteOf n) offset = .ok n := by
  rw [valueAt, value?_byteOf h]

/-- A quad before the last is read by the values of its symbols. -/
theorem decodeFrom_quad (start : Nat) {p q r s : Nat} (hp : p < 64) (hq : q < 64) (hr : r < 64)
    (hs : s < 64) (next : UInt8) (rest : List UInt8) :
    decodeFrom start (byteOf p :: byteOf q :: byteOf r :: byteOf s :: next :: rest) =
      (decodeFrom (start + 4) (next :: rest)).map fun bytes =>
        (p * 4 + q / 16).toUInt8 :: (q % 16 * 16 + r / 4).toUInt8 ::
          (r % 4 * 64 + s).toUInt8 :: bytes := by
  rw [decodeFrom, valueAt_byteOf hp, valueAt_byteOf hq, valueAt_byteOf hr, valueAt_byteOf hs]
  simp only [bind, Except.bind]
  cases decodeFrom (start + 4) (next :: rest) with
  | error fault => rfl
  | ok bytes => rfl

/-- The first byte is what the first two symbols of a quad hold. -/
theorem first_of_quad (a b : UInt8) :
    (a.toNat / 4 * 4 + (a.toNat % 4 * 16 + b.toNat / 16) / 16).toUInt8 = a := by
  have hb := b.toNat_lt
  apply toUInt8_eq_of_toNat_eq
  omega

/-- The second byte is what the second and the third symbol hold. -/
theorem second_of_quad (a b c : UInt8) :
    ((a.toNat % 4 * 16 + b.toNat / 16) % 16 * 16 + (b.toNat % 16 * 4 + c.toNat / 64) / 4).toUInt8 =
      b := by
  have hb := b.toNat_lt
  have hc := c.toNat_lt
  apply toUInt8_eq_of_toNat_eq
  omega

/-- The third byte is what the last two symbols hold. -/
theorem third_of_quad (b c : UInt8) :
    ((b.toNat % 16 * 4 + c.toNat / 64) % 4 * 64 + c.toNat % 64).toUInt8 = c := by
  have hc := c.toNat_lt
  apply toUInt8_eq_of_toNat_eq
  omega

theorem decodeLast_four (start : Nat) {p q r s : Nat} (h : ∀ n ∈ [p, q, r, s], n < 64) :
    decodeLast start ([p, q, r, s].map byteOf) =
      .ok [(p * 4 + q / 16).toUInt8, (q % 16 * 16 + r / 4).toUInt8, (r % 4 * 64 + s).toUInt8] := by
  rw [decodeLast, lastSymbols_map_byteOf start h]
  rfl

theorem decodeLast_three (start : Nat) {p q r : Nat} (h : ∀ n ∈ [p, q, r], n < 64)
    (hr : r % 4 = 0) :
    decodeLast start ([p, q, r].map byteOf) =
      .ok [(p * 4 + q / 16).toUInt8, (q % 16 * 16 + r / 4).toUInt8] := by
  rw [decodeLast, lastSymbols_map_byteOf start h]
  exact if_pos hr

theorem decodeLast_two (start : Nat) {p q : Nat} (h : ∀ n ∈ [p, q], n < 64) (hq : q % 16 = 0) :
    decodeLast start ([p, q].map byteOf) = .ok [(p * 4 + q / 16).toUInt8] := by
  rw [decodeLast, lastSymbols_map_byteOf start h]
  exact if_pos hq

theorem decodeFrom_sextets (start : Nat) (bytes : List UInt8) :
    decodeFrom start ((sextets bytes).map byteOf) = .ok bytes := by
  fun_induction sextets bytes generalizing start with
  | case1 a b c rest ih =>
    have hlt := sextets_lt (a :: b :: c :: rest)
    rw [sextets] at hlt
    by_cases hrest : rest = []
    · subst hrest
      refine (decodeLast_four start hlt).trans ?_
      rw [first_of_quad, second_of_quad, third_of_quad]
    · obtain ⟨n, ns, hns⟩ := List.exists_cons_of_ne_nil (mt sextets_eq_nil_iff.1 hrest)
      have hread := ih (start + 4)
      simp only [List.mem_cons, forall_eq_or_imp] at hlt
      obtain ⟨hp, hq, hr, hs, -⟩ := hlt
      rw [hns, List.map_cons] at hread
      simp only [List.map_cons, hns]
      rw [decodeFrom_quad start hp hq hr hs, hread, first_of_quad, second_of_quad, third_of_quad]
      rfl
  | case2 a b =>
    -- a missing third byte is written as if it were zero
    have hsecond := second_of_quad a b 0
    rw [UInt8.toNat_zero, Nat.zero_div, Nat.add_zero] at hsecond
    refine (decodeLast_three start (sextets_lt [a, b]) (by omega)).trans ?_
    rw [first_of_quad, hsecond]
  | case3 a =>
    have hfirst := first_of_quad a 0
    rw [UInt8.toNat_zero, Nat.zero_div, Nat.add_zero] at hfirst
    refine (decodeLast_two start (sextets_lt [a]) (by omega)).trans ?_
    rw [hfirst]
  | case4 => rfl

/-- What was written is read. -/
theorem decode_sextets (bytes : List UInt8) : decode ((sextets bytes).map byteOf) = .ok bytes := by
  unfold decode
  split
  · rename_i b hb
    have hlength := length_sextets_mod bytes
    rw [if_neg (by simp [hlength])]
    exact decodeFrom_sextets 0 bytes
  · rename_i hnone
    rw [List.getLast?_eq_none_iff, List.map_eq_nil_iff, sextets_eq_nil_iff] at hnone
    rw [hnone]

end Base64

end Sift
