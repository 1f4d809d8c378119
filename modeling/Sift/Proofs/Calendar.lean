import Sift.Calendar

/-!
# Dates in the order of their days

A day lies in the year whose first of March is the last one not after it:
`Date.firstOfMarch_marchYear`. Later days have later dates therefore, the year counting before the
month and the month before the day of the month, `Date.number_lt_of_lt`.
-/
namespace Sift.Date

/-- The first of March of a year, in days since the first of March of the year zero. -/
def firstOfMarch (year : Int) : Int := 365 * year + year / 4 - year / 100 + year / 400

theorem firstOfMarch_le_of_lt {y z : Int} (h : y < z) : firstOfMarch (y + 1) ≤ firstOfMarch z := by
  unfold firstOfMarch
  omega

/-- The year of a day of an era. -/
def yearOfEra (dayOfEra : Nat) : Nat :=
  (dayOfEra - dayOfEra / 1460 + dayOfEra / 36524 - dayOfEra / 146096) / 365

/-- The year of a day, reckoned from March. -/
def marchYear (days : Int) : Int :=
  yearOfEra ((days + 719468) % 146097).toNat + (days + 719468) / 146097 * 400

/-- The day of the year of a day, reckoned from March. -/
def dayOfMarchYear (days : Int) : Nat :=
  let dayOfEra := ((days + 719468) % 146097).toNat
  let year := yearOfEra dayOfEra
  dayOfEra - (365 * year + year / 4 - year / 100)

/-- The month of a day of a year, counted from March as zero. -/
def marchMonth (dayOfYear : Nat) : Nat := (5 * dayOfYear + 2) / 153

/-- The day of the month of a day of a year, counted from zero. -/
def dayOfMonth (dayOfYear : Nat) : Nat := dayOfYear - (153 * marchMonth dayOfYear + 2) / 5

/-- A day of an era is counted by centuries, by cycles of four years, by years and by days. Day 365
is a leap day: the last year of a cycle has one, but in the last cycle of a century only the last
century's does. -/
theorem exists_parts_of_era {dayOfEra : Nat} (h : dayOfEra < 146097) :
    ∃ century cycle rest day, century < 4 ∧ cycle < 25 ∧ rest < 4 ∧ day ≤ 365 ∧
      (day = 365 → rest = 3 ∧ (cycle = 24 → century = 3)) ∧
      dayOfEra = 36524 * century + 1461 * cycle + 365 * rest + day := by
  let century := min (dayOfEra / 36524) 3
  let dayOfCentury := dayOfEra - 36524 * century
  let dayOfCycle := dayOfCentury % 1461
  let rest := min (dayOfCycle / 365) 3
  refine ⟨century, dayOfCentury / 1461, rest, dayOfCycle - 365 * rest, ?_, ?_, ?_, ?_, ?_, ?_⟩ <;>
    omega

theorem yearOfEra_eq {century cycle rest day : Nat} (hcentury : century < 4) (hcycle : cycle < 25)
    (hrest : rest < 4) (hday : day ≤ 365)
    (hleap : day = 365 → rest = 3 ∧ (cycle = 24 → century = 3)) :
    yearOfEra (36524 * century + 1461 * cycle + 365 * rest + day) =
      100 * century + 4 * cycle + rest := by
  unfold yearOfEra
  generalize hdays : 36524 * century + 1461 * cycle + 365 * rest + day = days
  -- leap days of the four years before: the day itself may be behind one more
  have hfour : days / 1460 = 25 * century + cycle +
      if 1460 ≤ 24 * century + cycle + 365 * rest + day then 1 else 0 := by
    split <;> omega
  -- the last day of an era is in a fifth century by its number
  have hhundred : days / 36524 = century + days / 146096 := by
    by_cases hlast : days = 146096
    · have h : century = 3 := by omega
      rw [hlast, h]
    · have hnone : days / 146096 = 0 := by omega
      omega
  rw [hfour, hhundred]
  split <;> omega

theorem firstOfMarch_eq {century cycle rest : Nat} (hcentury : century < 4) (hcycle : cycle < 25)
    (hrest : rest < 4) (era : Int) :
    firstOfMarch (era * 400 + (100 * century + 4 * cycle + rest : Nat)) =
      146097 * era + (36524 * century + 1461 * cycle + 365 * rest : Nat) := by
  unfold firstOfMarch
  generalize hyear : era * 400 + ((100 * century + 4 * cycle + rest : Nat) : Int) = year
  have hfour : year / 4 = 100 * era + 25 * century + cycle := by omega
  have hhundred : year / 100 = 4 * era + century := by omega
  have hera : year / 400 = era := by omega
  rw [hfour, hhundred, hera]
  omega

/-- A year is over when the next one begins, which is the first of a cycle, a century or an era
where the one before was the last. -/
theorem lt_firstOfMarch_succ {century cycle rest day : Nat} (hcentury : century < 4)
    (hcycle : cycle < 25) (hrest : rest < 4) (hday : day ≤ 365)
    (hleap : day = 365 → rest = 3 ∧ (cycle = 24 → century = 3)) (era : Int) :
    146097 * era + (36524 * century + 1461 * cycle + 365 * rest + day : Nat) <
      firstOfMarch (era * 400 + (100 * century + 4 * cycle + rest : Nat) + 1) := by
  generalize hyear : era * 400 + ((100 * century + 4 * cycle + rest : Nat) : Int) + 1 = year
  have hnext (c q r : Nat) (e : Int) (hc : c < 4) (hq : q < 25) (hr : r < 4)
      (h : year = e * 400 + (100 * c + 4 * q + r : Nat)) :
      firstOfMarch year = 146097 * e + (36524 * c + 1461 * q + 365 * r : Nat) := by
    rw [h, firstOfMarch_eq hc hq hr]
  by_cases hr : rest < 3
  · rw [hnext century cycle (rest + 1) era hcentury hcycle (by omega) (by omega)]
    omega
  · by_cases hq : cycle < 24
    · rw [hnext century (cycle + 1) 0 era hcentury (by omega) (by decide) (by omega)]
      omega
    · by_cases hc : century < 3
      · rw [hnext (century + 1) 0 0 era (by omega) (by decide) (by decide) (by omega)]
        omega
      · rw [hnext 0 0 0 (era + 1) (by decide) (by decide) (by decide) (by omega)]
        omega

/-- A day lies in the year that begins last, not after it. -/
theorem firstOfMarch_marchYear (days : Int) :
    days + 719468 = firstOfMarch (marchYear days) + dayOfMarchYear days ∧
      dayOfMarchYear days ≤ 365 ∧ days + 719468 < firstOfMarch (marchYear days + 1) := by
  have hera : ((days + 719468) % 146097).toNat < 146097 := by omega
  obtain ⟨century, cycle, rest, day, hcentury, hcycle, hrest, hday, hleap, hparts⟩ :=
    exists_parts_of_era hera
  have hyear := yearOfEra_eq hcentury hcycle hrest hday hleap
  rw [← hparts] at hyear
  have hfour : (100 * century + 4 * cycle + rest) / 4 = 25 * century + cycle := by omega
  have hhundred : (100 * century + 4 * cycle + rest) / 100 = century := by omega
  have hof : dayOfMarchYear days = day := by
    simp only [dayOfMarchYear, hyear, hfour, hhundred]
    omega
  have hdays : days + 719468 = 146097 * ((days + 719468) / 146097) +
      (36524 * century + 1461 * cycle + 365 * rest + day : Nat) := by omega
  have hmarch : marchYear days =
      (days + 719468) / 146097 * 400 + (100 * century + 4 * cycle + rest : Nat) := by
    rw [marchYear, hyear, Int.add_comm]
  rw [hof, hmarch, firstOfMarch_eq hcentury hcycle hrest]
  refine ⟨by omega, hday, ?_⟩
  have hafter := lt_firstOfMarch_succ hcentury hcycle hrest hday hleap
    ((days + 719468) / 146097)
  omega

/-- Later days are in later years, or later in the year. -/
theorem marchYear_lt_or_eq {m n : Int} (h : m < n) :
    marchYear m < marchYear n ∨
      marchYear m = marchYear n ∧ dayOfMarchYear m < dayOfMarchYear n := by
  obtain ⟨hm, -, hafter⟩ := firstOfMarch_marchYear m
  obtain ⟨hn, -, hbefore⟩ := firstOfMarch_marchYear n
  rcases Int.lt_trichotomy (marchYear m) (marchYear n) with hlt | heq | hgt
  · exact .inl hlt
  · rw [heq] at hm
    exact .inr ⟨heq, by omega⟩
  · have hfirst := firstOfMarch_le_of_lt hgt
    omega

/-- The digits of a date as one number. -/
def number (d : Date) : Int := (d.year * 100 + d.month) * 100 + d.day

/-- March to December are months of the year that began in March, January and February of the next
one. -/
theorem ofDays_cases (days : Int) :
    let dayOfYear := dayOfMarchYear days
    (marchMonth dayOfYear < 10 ∧
      ofDays days = ⟨marchYear days, marchMonth dayOfYear + 3, dayOfMonth dayOfYear + 1⟩) ∨
    ((10 ≤ marchMonth dayOfYear ∧ marchMonth dayOfYear < 12) ∧
      ofDays days = ⟨marchYear days + 1, marchMonth dayOfYear - 9, dayOfMonth dayOfYear + 1⟩) := by
  obtain ⟨-, hday, -⟩ := firstOfMarch_marchYear days
  have hlast : marchMonth (dayOfMarchYear days) < 12 := by
    unfold marchMonth
    omega
  have hdate : ofDays days =
      let month := marchMonth (dayOfMarchYear days)
      let civil := if month < 10 then month + 3 else month - 9
      ⟨marchYear days + (if civil ≤ 2 then 1 else 0), civil,
        dayOfMonth (dayOfMarchYear days) + 1⟩ := rfl
  by_cases hmonth : marchMonth (dayOfMarchYear days) < 10
  · refine .inl ⟨hmonth, ?_⟩
    have hlate : ¬marchMonth (dayOfMarchYear days) + 3 ≤ 2 := by omega
    simp only [hdate, if_pos hmonth, if_neg hlate, Int.add_zero]
  · refine .inr ⟨⟨by omega, hlast⟩, ?_⟩
    have hearly : marchMonth (dayOfMarchYear days) - 9 ≤ 2 := by omega
    simp only [hdate, if_neg hmonth, if_pos hearly]

theorem ofDays_bounds (days : Int) : (ofDays days).month < 100 ∧ (ofDays days).day < 100 := by
  obtain ⟨-, hday, -⟩ := firstOfMarch_marchYear days
  rcases ofDays_cases days with ⟨hmonth, hdate⟩ | ⟨hmonth, hdate⟩ <;> rw [hdate] <;>
    simp only [marchMonth, dayOfMonth] at * <;> omega

/-- Later days of a year are in later months, or later in the month. -/
theorem marchMonth_lt_or_eq {i j : Nat} (h : i < j) :
    marchMonth i < marchMonth j ∨ marchMonth i = marchMonth j ∧ dayOfMonth i < dayOfMonth j := by
  unfold dayOfMonth marchMonth
  omega

/-- Later days have later dates. -/
theorem number_lt_of_lt {m n : Int} (h : m < n) : (ofDays m).number < (ofDays n).number := by
  have hm := ofDays_bounds m
  have hn := ofDays_bounds n
  have hyears := marchYear_lt_or_eq h
  have hmonths := @marchMonth_lt_or_eq (dayOfMarchYear m) (dayOfMarchYear n)
  unfold number
  rcases ofDays_cases m with ⟨hmonth, hdate⟩ | ⟨hmonth, hdate⟩ <;>
    rcases ofDays_cases n with ⟨hmonth', hdate'⟩ | ⟨hmonth', hdate'⟩ <;>
      rw [hdate] at hm ⊢ <;> rw [hdate'] at hn ⊢ <;> dsimp only at * <;> omega

end Sift.Date
