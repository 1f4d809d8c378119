/-!
# Binary floating point

A float is its bit pattern. A `BinaryLayout` gives the widths of the exponent and fraction fields;
`decode` reads a pattern as a sign, a significand and a power of two, and `round` finds the pattern
nearest to a positive fraction. All arithmetic is exact, on natural numbers, so that the value of
every conversion is a matter of proof and not of the machine.

`Binary64` and `Binary32` are the two interchange formats in use. Signalling and quiet NaNs are
distinguished only by their bits.
-/
namespace Sift

/-- Field widths of an interchange format, the sign bit apart. -/
structure BinaryLayout where
  exponentBits : Nat
  fractionBits : Nat
deriving DecidableEq

/-- What a bit pattern stands for: `significand * 2 ^ power`, an infinity, or no number. -/
inductive BinaryDatum where
  | finite (negative : Bool) (significand : Nat) (power : Int)
  | infinite (negative : Bool)
  | nan (negative : Bool) (payload : Nat)
deriving DecidableEq

namespace BinaryLayout

/-- Double precision. -/
def double : BinaryLayout := ⟨11, 52⟩

/-- Single precision. -/
def single : BinaryLayout := ⟨8, 23⟩

/-- The power of two that the last place of a subnormal number stands for. -/
def leastPower (l : BinaryLayout) : Int :=
  2 - (Nat.pow 2 (l.exponentBits - 1) : Nat) - l.fractionBits

/-- The pattern of positive infinity; every pattern above it, the sign apart, is no number. -/
def infinity (l : BinaryLayout) : Nat :=
  (Nat.pow 2 l.exponentBits - 1) * Nat.pow 2 l.fractionBits

/-- Put the sign in front of a pattern. -/
def signed (l : BinaryLayout) (negative : Bool) (magnitude : Nat) : Nat :=
  if negative then Nat.pow 2 (l.exponentBits + l.fractionBits) + magnitude else magnitude

/-- Read a pattern. -/
def decode (l : BinaryLayout) (pattern : Nat) : BinaryDatum :=
  let fraction := pattern % Nat.pow 2 l.fractionBits
  let exponent := pattern / Nat.pow 2 l.fractionBits % Nat.pow 2 l.exponentBits
  let negative := pattern / Nat.pow 2 (l.exponentBits + l.fractionBits) % 2 == 1
  if exponent = Nat.pow 2 l.exponentBits - 1 then
    if fraction = 0 then .infinite negative else .nan negative fraction
  else if exponent = 0 then .finite negative fraction l.leastPower
  else .finite negative (Nat.pow 2 l.fractionBits + fraction) (l.leastPower + exponent - 1)

/-- The quotient rounded to the nearest integer, a half to the even one. -/
def divNearest (num den : Nat) : Nat :=
  let q := num / den
  let r := num % den
  if den < 2 * r ∨ (den = 2 * r ∧ q % 2 = 1) then q + 1 else q

/-- The exponent of the highest binary place of a positive fraction. -/
def binaryExponent (num den : Nat) : Int :=
  let k : Int := (Nat.log2 num : Int) - Nat.log2 den
  if den * Nat.pow 2 k.toNat ≤ num * Nat.pow 2 (-k).toNat then k else k - 1

/-- The pattern nearest to `num / den`. A significand that rounds up to the next power of two
carries into the exponent field by itself, and whatever reaches the largest exponent is infinity. -/
def round (l : BinaryLayout) (num den : Nat) : Nat :=
  if num = 0 then 0
  else
    let power := max l.leastPower (binaryExponent num den - l.fractionBits)
    let q := divNearest (num * Nat.pow 2 (-power).toNat) (den * Nat.pow 2 power.toNat)
    let pattern :=
      if q < Nat.pow 2 l.fractionBits then q
      else
        (power - l.leastPower + 1).toNat * Nat.pow 2 l.fractionBits +
          (q - Nat.pow 2 l.fractionBits)
    min pattern l.infinity

/-- The pattern nearest to `significand * 2 ^ power`. -/
def roundScaled (l : BinaryLayout) (significand : Nat) (power : Int) : Nat :=
  l.round (significand * Nat.pow 2 power.toNat) (Nat.pow 2 (-power).toNat)

@[simp] theorem round_zero (l : BinaryLayout) (den : Nat) : l.round 0 den = 0 := by
  simp [round]

/-- Carry a number over to another layout. What is no number stays none: its payload keeps its
leading bits and becomes quiet. -/
def convert (source target : BinaryLayout) (pattern : Nat) : Nat :=
  match source.decode pattern with
  | .finite negative significand power =>
    target.signed negative (target.roundScaled significand power)
  | .infinite negative => target.signed negative target.infinity
  | .nan negative payload =>
    let kept := payload * Nat.pow 2 target.fractionBits / Nat.pow 2 source.fractionBits
    let quiet := Nat.pow 2 (target.fractionBits - 1)
    target.signed negative (target.infinity + (quiet + kept % quiet))

end BinaryLayout

/-- A double precision number, as its bits. -/
structure Binary64 where
  bits : UInt64
deriving DecidableEq

/-- A single precision number, as its bits. -/
structure Binary32 where
  bits : UInt32
deriving DecidableEq

namespace Binary32

/-- Positive zero. -/
def zero : Binary32 := ⟨0⟩

/-- The same number in double precision; exact for every number. -/
def toDouble (x : Binary32) : Binary64 :=
  ⟨(BinaryLayout.convert .single .double x.bits.toNat).toUInt64⟩

end Binary32

namespace Binary64

/-- Positive zero. -/
def zero : Binary64 := ⟨0⟩

/-- What the bits stand for. -/
def datum (x : Binary64) : BinaryDatum := BinaryLayout.double.decode x.bits.toNat

/-- Neither an infinity nor a NaN. -/
def isFinite (x : Binary64) : Bool :=
  match x.datum with
  | .finite .. => true
  | _ => false

/-- No number at all. -/
def isNaN (x : Binary64) : Bool :=
  match x.datum with
  | .nan .. => true
  | _ => false

/-- The double nearest to an integer. -/
def ofInt (n : Int) : Binary64 :=
  ⟨(BinaryLayout.double.signed (n < 0) (BinaryLayout.double.round n.natAbs 1)).toUInt64⟩

/-- The double nearest to a nonnegative fraction. -/
def ofFraction (num den : Nat) : Binary64 :=
  ⟨(BinaryLayout.double.round num den).toUInt64⟩

/-- The nearest single precision number. -/
def toSingle (x : Binary64) : Binary32 :=
  ⟨(BinaryLayout.convert .double .single x.bits.toNat).toUInt32⟩

/-- The same number with the other sign. -/
def negate (x : Binary64) : Binary64 := ⟨x.bits ^^^ 0x8000000000000000⟩

@[simp] theorem isFinite_zero : zero.isFinite = true := rfl

end Binary64

end Sift
