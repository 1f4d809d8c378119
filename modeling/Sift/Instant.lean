import Sift.Calendar

/-!
# Instants

A point in time: whole seconds since 1970 and nanoseconds within the second. Nanoseconds from one to
two thousand million are in a leap second that runs on past the second. One past the last second of
a minute is written as second sixty; past any other, where none is ever put in, it is written as the
second that follows. The years go from -262143 to 262142.

The text of an instant is the one of RFC 3339, with as few fraction digits as are exact out of none,
three, six and nine, and with a sign for years of more or fewer than four digits. How the zone is
spelled is left to the caller: the time is always the one at Greenwich.
-/
namespace Sift

/-- A point in time. -/
structure Instant where
  second : Int
  nano : Nat
  nano_lt : nano < 2000000000
  lower : -8334601228800 ≤ second
  upper : second ≤ 8210266876799
deriving DecidableEq

namespace Instant

/-- The instant of a second and its nanoseconds, if there is one. A leap second is only taken at the
end of a minute. -/
def ofUnix? (second : Int) (nano : Nat) : Option Instant :=
  if h : nano < 2000000000 ∧ (1000000000 ≤ nano → second % 60 = 59) ∧
      -8334601228800 ≤ second ∧ second ≤ 8210266876799 then
    some ⟨second, nano, h.1, h.2.2.1, h.2.2.2⟩
  else none

/-- The start of 1970. -/
def epoch : Instant := ⟨0, 0, by decide, by decide, by decide⟩

/-- The calendar date. -/
def date (t : Instant) : Date := Date.ofDays (t.second / 86400)

/-- The second of the day. -/
def secondOfDay (t : Instant) : Nat := (t.second % 86400).toNat

/-- A year in four digits, or with a sign when four digits do not tell it. -/
def yearText (year : Int) : List Char :=
  if 0 ≤ year ∧ year ≤ 9999 then padded 4 year.toNat
  else (if year < 0 then '-' else '+') :: padded 4 year.natAbs

/-- The fraction of a second. -/
def fractionText (nano : Nat) : List Char :=
  if nano = 0 then []
  else if nano % 1000000 = 0 then '.' :: padded 3 (nano / 1000000)
  else if nano % 1000 = 0 then '.' :: padded 6 (nano / 1000)
  else '.' :: padded 9 nano

/-- The text with a given spelling of the zone. -/
def text (zone : String) (t : Instant) : String :=
  let d := t.date
  let s := t.secondOfDay
  let second := s % 60 + t.nano / 1000000000
  String.ofList (yearText d.year ++ '-' :: padded 2 d.month ++ '-' :: padded 2 d.day ++
    'T' :: padded 2 (s / 3600) ++ ':' :: padded 2 (s / 60 % 60) ++ ':' :: padded 2 second ++
    fractionText (t.nano % 1000000000) ++ zone.toList)

end Instant

end Sift
