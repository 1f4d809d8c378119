/-!
# Big-endian numbers

A number as a fixed count of bytes, the most significant first. `ofNat` keeps the bytes that fit;
`ofInt` writes a signed number in two's complement. The bytes of a number are read back by `toNat`
and `toInt`, and a number that fits its width is what its bytes read as.
-/
namespace Sift.BigEndian

/-- The last `width` bytes of a number. -/
def ofNat : (width : Nat) → Nat → List UInt8
  | 0, _ => []
  | width + 1, n => ofNat width (n / 256) ++ [UInt8.ofNat n]

/-- The number of some bytes. -/
def toNat (bytes : List UInt8) : Nat := bytes.foldl (fun n b => n * 256 + b.toNat) 0

/-- The last `width` bytes of a signed number. -/
def ofInt (width : Nat) (n : Int) : List UInt8 := ofNat width (n % (Nat.pow 256 width : Nat)).toNat

/-- The signed number of some bytes. -/
def toInt (bytes : List UInt8) : Int := Int.bmod (toNat bytes) (Nat.pow 256 bytes.length)

@[simp] theorem length_ofNat (width n : Nat) : (ofNat width n).length = width := by
  induction width generalizing n with
  | zero => rfl
  | succ width ih => simp [ofNat, ih]

@[simp] theorem length_ofInt (width : Nat) (n : Int) : (ofInt width n).length = width := by
  simp [ofInt]

@[simp] theorem toNat_nil : toNat [] = 0 := rfl

@[simp] theorem toNat_append_singleton (bytes : List UInt8) (b : UInt8) :
    toNat (bytes ++ [b]) = toNat bytes * 256 + b.toNat := by
  simp [toNat]

theorem toNat_ofNat (width n : Nat) : toNat (ofNat width n) = n % Nat.pow 256 width := by
  induction width generalizing n with
  | zero => simp [ofNat, Nat.mod_one]
  | succ width ih =>
    have h : (UInt8.ofNat n).toNat = n % 256 := by simp
    have step : Nat.pow 256 (width + 1) = 256 * Nat.pow 256 width := Nat.mul_comm _ _
    rw [ofNat, toNat_append_singleton, ih, h, step, Nat.mod_mul]
    omega

theorem toInt_ofInt (width : Nat) (n : Int) :
    toInt (ofInt width n) = Int.bmod n (Nat.pow 256 width) := by
  have positive : 0 < Nat.pow 256 width := Nat.pow_pos (by decide)
  rw [toInt, length_ofInt, ofInt, toNat_ofNat]
  generalize Nat.pow 256 width = m at positive
  have nonneg : 0 ≤ n % (m : Int) := Int.emod_nonneg _ (by omega)
  have small : n % (m : Int) < m := Int.emod_lt_of_pos _ (by omega)
  rw [Nat.mod_eq_of_lt (by omega), Int.toNat_of_nonneg nonneg, Int.emod_bmod]

end Sift.BigEndian
