import Mathlib.Tactic.Ring
import Sift.Proofs.Base64

/-!
# Tokens are read as they were written

The groups of an offset below `2 ^ 64` are read back as the offset: no group comes too late and no
bit is lost. The token of the groups is plain text without blanks, and its bytes are those that were
encoded.
-/
namespace Sift

namespace Cursor

/-! ## Seven-bit groups -/

/-- A group that is not the last. -/
theorem readGroups_of_continued {shift read : Nat} {b : UInt8} (hb : 128 ≤ b.toNat)
    (hshift : shift < 57) (rest : List UInt8) :
    readGroups shift read (b :: rest) =
      readGroups (shift + 7) (read + b.toNat % 128 * Nat.pow 2 shift) rest := by
  have hfits : ¬(64 ≤ shift ∨ (shift = 63 ∧ 1 < b.toNat % 128)) := by omega
  rw [readGroups, if_neg hfits, if_neg (by omega)]

/-- The last group. -/
theorem readGroups_of_last {shift read : Nat} {b : UInt8} (hb : b.toNat < 128)
    (hshift : shift < 64) (htop : shift = 63 → b.toNat < 2) (rest : List UInt8) :
    readGroups shift read (b :: rest) = .ok (read + b.toNat * Nat.pow 2 shift) := by
  have hbits : b.toNat % 128 = b.toNat := Nat.mod_eq_of_lt hb
  have hfits : ¬(64 ≤ shift ∨ (shift = 63 ∧ 1 < b.toNat % 128)) := by omega
  rw [readGroups, if_neg hfits, if_pos hb, hbits]

/-- The groups of a number are read as the number in its place, whatever follows, if there is room
for its bits. -/
theorem readGroups_groups (n shift read : Nat) (hshift : shift < 64) (hn : n < 2 ^ (64 - shift))
    (rest : List UInt8) :
    readGroups shift read (groups n ++ rest) = .ok (read + n * Nat.pow 2 shift) := by
  induction n using Nat.strongRecOn generalizing shift read with
  | ind n ih =>
    rw [groups]
    by_cases hlast : n < 128
    · have hbyte : n.toUInt8.toNat = n := by
        rw [Nat.toUInt8_eq, UInt8.toNat_ofNat']
        omega
      have htop : shift = 63 → n.toUInt8.toNat < 2 := by
        rintro rfl
        omega
      rw [if_pos hlast, List.singleton_append,
        readGroups_of_last (by omega) hshift htop rest, hbyte]
    · have hbyte : (n % 128 + 128).toUInt8.toNat = n % 128 + 128 := by
        rw [Nat.toUInt8_eq, UInt8.toNat_ofNat']
        omega
      have hroom : shift < 57 := by
        by_contra hlate
        have hpow : 2 ^ (64 - shift) ≤ 2 ^ 7 := Nat.pow_le_pow_right (by omega) (by omega)
        omega
      have hrest : n / 128 < 2 ^ (64 - (shift + 7)) := by
        have hsplit : 2 ^ (64 - shift) = 2 ^ (64 - (shift + 7)) * 128 := by
          rw [show 64 - shift = 64 - (shift + 7) + 7 by omega, Nat.pow_add]
        omega
      rw [if_neg hlast, List.cons_append, readGroups_of_continued (by omega) hroom,
        ih (n / 128) (by omega) (shift + 7) _ (by omega) hrest, hbyte]
      congr 1
      have hlow : (n % 128 + 128) % 128 = n % 128 := by omega
      have hpow : Nat.pow 2 (shift + 7) = Nat.pow 2 shift * 128 := Nat.pow_add 2 shift 7
      calc read + (n % 128 + 128) % 128 * Nat.pow 2 shift + n / 128 * Nat.pow 2 (shift + 7)
          = read + (n % 128 + 128 * (n / 128)) * Nat.pow 2 shift := by rw [hlow, hpow]; ring
        _ = read + n * Nat.pow 2 shift := by rw [Nat.mod_add_div]

/-- The bytes of an offset are read as the offset, whatever follows. -/
theorem ofBytes_toBytes (offset : UInt64) (rest : List UInt8) :
    ofBytes (toBytes offset ++ rest) = .ok offset := by
  have hread := readGroups_groups offset.toNat 0 0 (by omega) offset.toNat_lt rest
  have hversion : (1 : UInt8) ≠ 0 := by decide
  rw [toBytes, List.cons_append, ofBytes, if_neg hversion, hread]
  simp [Except.map]

/-! ## The text of a token -/

/-- The text of a token has nothing to be trimmed. -/
theorem trimBlanks_eq_self {cs : List Char} (h : ∀ c ∈ cs, Text.isBlank c = false) :
    Text.trimBlanks cs = cs := by
  have hkeep : ∀ ds : List Char, (∀ c ∈ ds, Text.isBlank c = false) →
      ds.dropWhile Text.isBlank = ds := by
    intro ds hds
    cases ds with
    | nil => rfl
    | cons c ds => simp [hds c (List.mem_cons_self ..)]
  have hback := hkeep cs.reverse fun c hc => h c (List.mem_reverse.1 hc)
  rw [Text.trimBlanks, hkeep cs h, hback, List.reverse_reverse]

theorem utf8_map_symbol {ns : List Nat} (h : ∀ n ∈ ns, n < 64) :
    utf8 (ns.map Base64.symbol) = ns.map Base64.byteOf := by
  induction ns with
  | nil => rfl
  | cons n ns ih =>
    have hn : n < 64 := h n (List.mem_cons_self ..)
    have hns : ∀ m ∈ ns, m < 64 := fun m hm => h m (List.mem_cons_of_mem n hm)
    have hcons : utf8 (Base64.symbol n :: ns.map Base64.symbol) =
        String.utf8EncodeChar (Base64.symbol n) ++ utf8 (ns.map Base64.symbol) := rfl
    rw [List.map_cons, hcons, Base64.utf8EncodeChar_symbol hn, ih hns]
    rfl

/-- The token of some bytes is read as the offset in these bytes. -/
theorem decode_encode_bytes (bytes : List UInt8) :
    decode (String.ofList (Base64.encode bytes)) = ofBytes bytes := by
  have hlt := Base64.sextets_lt bytes
  have hblank : ∀ c ∈ Base64.encode bytes, Text.isBlank c = false := by
    intro c hc
    rw [Base64.encode_eq] at hc
    obtain ⟨n, hn, rfl⟩ := List.mem_map.1 hc
    exact Base64.isBlank_symbol (hlt n hn)
  have hbytes : utf8 (Base64.encode bytes) = (Base64.sextets bytes).map Base64.byteOf := by
    rw [Base64.encode_eq, utf8_map_symbol hlt]
  rw [decode, String.toList_ofList, trimBlanks_eq_self hblank, hbytes, Base64.decode_sextets]
  rfl

/-- The token of an offset is read as the offset. -/
@[simp] theorem decode_encode (offset : UInt64) : decode (encode offset) = .ok offset := by
  have hread := ofBytes_toBytes offset []
  rw [List.append_nil] at hread
  rw [encode, decode_encode_bytes, hread]

end Cursor

end Sift
