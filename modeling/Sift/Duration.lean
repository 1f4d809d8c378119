/-!
# Durations

A span of time in nanoseconds. Its text counts in the largest of seconds, milliseconds, microseconds
and nanoseconds of which it holds at least one, with the exact fraction and no zeros at its end.
-/
namespace Sift

/-- A span of time. -/
structure Duration where
  nanos : Nat
deriving DecidableEq

namespace Duration

/-- A span of whole milliseconds. -/
def ofMillis (n : Nat) : Duration := ⟨n * 1000000⟩

/-- The whole milliseconds of a span. -/
def millis (d : Duration) : Nat := d.nanos / 1000000

/-- The digits of a fraction with `width` places, without the zeros at its end. -/
def fractionDigits (width rest : Nat) : List Char :=
  let ds := Nat.toDigits 10 rest
  let all := List.replicate (width - ds.length) '0' ++ ds
  (all.reverse.dropWhile (· = '0')).reverse

/-- A count of units of `10 ^ width` nanoseconds. -/
def inUnits (width : Nat) (name : String) (nanos : Nat) : String :=
  let whole := toString (nanos / Nat.pow 10 width)
  let fraction := fractionDigits width (nanos % Nat.pow 10 width)
  if fraction.isEmpty then whole ++ name
  else whole ++ "." ++ String.ofList fraction ++ name

/-- The text of a span. -/
def text (d : Duration) : String :=
  if 1000000000 ≤ d.nanos then inUnits 9 "s" d.nanos
  else if 1000000 ≤ d.nanos then inUnits 6 "ms" d.nanos
  else if 1000 ≤ d.nanos then inUnits 3 "µs" d.nanos
  else inUnits 0 "ns" d.nanos

@[simp] theorem millis_ofMillis (n : Nat) : (ofMillis n).millis = n := by
  simp [ofMillis, millis]

end Duration

end Sift
