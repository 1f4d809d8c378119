import Sift.Binary

/-!
# Shortest decimal digits

Every double stands for an interval of reals: those that round to it. `Decimal.shortest` finds the
decimal with the fewest digits in that interval, and of two such decimals the nearer, an exact tie
going to the even digit. A power of ten `10 ^ k` is tried from coarse to fine; on each grid only the
two neighbours of the value have to be looked at, because if any point of the grid lies in the
interval then so does one of them.

How the digits are laid out is the business of a `DecimalStyle`.
-/
namespace Sift

/-- A positive decimal: `digits * 10 ^ exponent`. -/
structure Decimal where
  digits : Nat
  exponent : Int
deriving DecidableEq

namespace Decimal

/-- Four times a value and the ends of its interval, all in units of `2 ^ (power - 2)`. The ends
belong to the interval when the significand is even. -/
structure Interval where
  low : Nat
  value : Nat
  high : Nat
  closed : Bool
  power : Int

/-- The reals that round to `significand * 2 ^ power`. Below a power of two the next double is only
half as far away. -/
def Interval.around (significand : Nat) (power : Int) : Interval :=
  let narrow := significand = Nat.pow 2 52 ∧ BinaryLayout.double.leastPower < power
  { low := 4 * significand - if narrow then 1 else 2
    value := 4 * significand
    high := 4 * significand + 2
    closed := significand % 2 = 0
    power := power - 2 }

/-- The multiple of `10 ^ k` in the interval that is nearest to its value, if there is one. -/
def Interval.onGrid (i : Interval) (k : Int) : Option Nat :=
  let num := Nat.pow 2 i.power.toNat * Nat.pow 10 (-k).toNat
  let den := Nat.pow 2 (-i.power).toNat * Nat.pow 10 k.toNat
  let inside (d : Nat) : Bool :=
    if i.closed then i.low * num ≤ d * den && d * den ≤ i.high * num
    else i.low * num < d * den && d * den < i.high * num
  let below := i.value * num / den
  let above := below + 1
  match 0 < below && inside below, inside above with
  | true, true =>
    let down := i.value * num - below * den
    let up := above * den - i.value * num
    if down < up ∨ (down = up ∧ below % 2 = 0) then some below else some above
  | true, false => some below
  | false, true => some above
  | false, false => none

/-- A grid too coarse to have a point in the interval: one above the value's leading digit. -/
def Interval.coarsest (i : Interval) : Int :=
  ((Nat.log2 i.value : Int) + i.power + 1) * 30103 / 100000 + 2

/-- The shortest decimal that rounds to the positive value `significand * 2 ^ power`. Twenty grids
below the leading digit are more than a double needs. -/
def shortest (significand : Nat) (power : Int) : Decimal :=
  let i := Interval.around significand power
  let hit := (List.range 24).findSome? fun (step : Nat) =>
    (i.onGrid (i.coarsest - step)).map fun d => ⟨d, i.coarsest - step⟩
  hit.getD ⟨0, 0⟩

/-- The digits from the first to the last. -/
def text (d : Decimal) : List Char := Nat.toDigits 10 d.digits

/-- The power of ten of the first digit. -/
def leading (d : Decimal) : Int := d.exponent + (d.text.length : Int) - 1

end Decimal

/-- How a decimal is written: with a point while its leading power of ten lies between two bounds,
and with an exponent otherwise. -/
structure DecimalStyle where
  leastPositional : Int
  greatestPositional : Int
deriving DecidableEq

namespace DecimalStyle

/-- Positional notation, always with a digit after the point. -/
def positional (digits : List Char) (leading : Int) : List Char :=
  if leading < 0 then
    '0' :: '.' :: (List.replicate (-leading - 1).toNat '0' ++ digits)
  else
    let whole := leading.toNat + 1
    let fraction := digits.drop whole
    digits.take whole ++ List.replicate (whole - digits.length) '0' ++
      '.' :: (if fraction.isEmpty then ['0'] else fraction)

/-- One digit before the point, the point only if more follow, and a signed exponent. -/
def scientific (digits : List Char) (leading : Int) : List Char :=
  let mantissa := match digits with
    | first :: second :: rest => first :: '.' :: second :: rest
    | short => short
  mantissa ++ 'e' :: (if leading < 0 then '-' else '+') :: Nat.toDigits 10 leading.natAbs

/-- Write a positive decimal. -/
def write (s : DecimalStyle) (d : Decimal) : List Char :=
  if s.leastPositional ≤ d.leading ∧ d.leading ≤ s.greatestPositional then
    positional d.text d.leading
  else scientific d.text d.leading

/-- Write a finite double; zero has its own text. `none` for an infinity or a NaN. -/
def writeDouble? (s : DecimalStyle) (x : Binary64) : Option String :=
  match x.datum with
  | .finite negative significand power =>
    let magnitude :=
      if significand = 0 then ['0', '.', '0'] else s.write (Decimal.shortest significand power)
    some (String.ofList (if negative then '-' :: magnitude else magnitude))
  | _ => none

end DecimalStyle

end Sift
