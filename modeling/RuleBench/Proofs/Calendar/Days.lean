import RuleBench.Calendar.Instant

set_option autoImplicit false

/-!
# Days and instants

Days are counted from the first of January of the year one, and the date after a date is the date of
the next day.  So a clock that is set ahead shows another date and time, but the same instant.
-/

namespace RuleBench.Calendar

/-! ## Counting days -/

/-- The days from the first of January of the year one to that of another year. -/
def daysBefore (year : Int) : Int :=
  365 * (year - 1) + (year - 1) / 4 - (year - 1) / 100 + (year - 1) / 400

/-- The days in the first months of a year. -/
def daysInMonths (year : Int) : Nat → Nat
  | 0 => 0
  | months + 1 => daysInMonths year months + daysIn year (months + 1)

theorem daysIn_bounds (year : Int) (month : Nat) :
    1 ≤ daysIn year month ∧ daysIn year month ≤ 31 := by
  unfold daysIn
  split
  · split <;> decide
  all_goals decide

theorem daysInMonths_of_pos (year : Int) {month : Nat} (h : 1 ≤ month) :
    daysInMonths year month = daysInMonths year (month - 1) + daysIn year month := by
  obtain ⟨months, rfl⟩ := Nat.exists_eq_add_of_le' h
  rfl

theorem daysBefore_succ (year : Int) :
    daysBefore (year + 1) = daysBefore year + daysInMonths year 12 := by
  have hyear : daysInMonths year 12 = if isLeap year then 366 else 365 := by
    simp only [daysInMonths, daysIn]
    split <;> rfl
  rw [hyear]
  unfold daysBefore isLeap
  split <;> simp_all <;> omega

namespace Date

/-- The first of January of the year one has the number 1. -/
def dayNumber (d : Date) : Int :=
  daysBefore d.year + daysInMonths d.year (d.month - 1) + d.day

theorem of?_eq_some {year : Int} {month day : Nat} (h : IsDate year month day) :
    of? year month day = some ⟨year, month, day, h⟩ := dif_pos h

theorem of?_eq_none {year : Int} {month day : Nat} (h : ¬ IsDate year month day) :
    of? year month day = none := dif_neg h

theorem dayNumber_next {d : Date} (h : d.year < 262142) :
    d.next.dayNumber = d.dayNumber + 1 := by
  obtain ⟨hlow, hhigh, hmonth, hmonth', hday, hday'⟩ := d.valid
  unfold next
  by_cases hlast : d.day + 1 ≤ daysIn d.year d.month
  · rw [of?_eq_some ⟨hlow, hhigh, hmonth, hmonth', by omega, hlast⟩]
    change daysBefore d.year + daysInMonths d.year (d.month - 1) + (d.day + 1 : Nat) = _
    unfold dayNumber
    omega
  · -- The day behind the last one of a month is the first of the next month, or of the next year.
    rw [of?_eq_none fun hdate => hlast hdate.2.2.2.2.2]
    have hmonths := daysInMonths_of_pos d.year hmonth
    by_cases hyear : d.month + 1 ≤ 12
    · rw [of?_eq_some ⟨hlow, hhigh, by omega, hyear, Nat.le_refl 1, (daysIn_bounds _ _).1⟩]
      change daysBefore d.year + daysInMonths d.year d.month + (1 : Nat) = _
      unfold dayNumber
      omega
    · rw [of?_eq_none fun hdate => hyear hdate.2.2.2.1,
        of?_eq_some ⟨by omega, by omega, by decide, by decide, Nat.le_refl 1,
          (daysIn_bounds _ _).1⟩]
      change daysBefore (d.year + 1) + (0 : Nat) + (1 : Nat) = _
      have htwelve : d.month = 12 := by omega
      rw [htwelve] at hmonths hday' hlast
      rw [daysBefore_succ, dayNumber, htwelve]
      omega

theorem dayNumber_previous {d : Date} (h : -262143 < d.year) :
    d.previous.dayNumber = d.dayNumber - 1 := by
  obtain ⟨hlow, hhigh, hmonth, hmonth', hday, hday'⟩ := d.valid
  unfold previous
  by_cases hfirst : 1 ≤ d.day - 1
  · rw [of?_eq_some ⟨hlow, hhigh, hmonth, hmonth', hfirst, by omega⟩]
    change daysBefore d.year + daysInMonths d.year (d.month - 1) + (d.day - 1 : Nat) = _
    unfold dayNumber
    omega
  · rw [of?_eq_none fun hdate => hfirst hdate.2.2.2.2.1]
    by_cases hyear : 1 ≤ d.month - 1
    · have hmonths := daysInMonths_of_pos d.year hyear
      rw [of?_eq_some ⟨hlow, hhigh, hyear, by omega, (daysIn_bounds _ _).1, Nat.le_refl _⟩]
      change daysBefore d.year + daysInMonths d.year (d.month - 1 - 1) +
        daysIn d.year (d.month - 1) = _
      unfold dayNumber
      omega
    · rw [of?_eq_none fun hdate => hyear hdate.2.2.1,
        of?_eq_some ⟨by omega, by omega, by decide, by decide, by decide, Nat.le_refl 31⟩]
      change daysBefore (d.year - 1) + daysInMonths (d.year - 1) 11 + (31 : Nat) = _
      have hbefore := daysBefore_succ (d.year - 1)
      have hmonths : daysInMonths (d.year - 1) 12 = daysInMonths (d.year - 1) 11 + 31 := rfl
      have hone : d.month = 1 := by omega
      rw [Int.sub_add_cancel] at hbefore
      rw [dayNumber, hone, hbefore, hmonths]
      change _ = _ + ((0 : Nat) : Int) + _ - 1
      omega

end Date

/-! ## The time that has passed -/

namespace Instant

/-- What a clock can show: a time of day, in which a second that is counted twice may stand, and a
distance from UTC of less than a day. -/
structure IsReading (t : Instant) : Prop where
  second : t.second < 86400
  nanosecond : t.nanosecond < 2000000000
  offset : -86400 < t.offset ∧ t.offset < 86400

/-- The nanoseconds from the beginning of the year one in UTC. -/
def elapsed (t : Instant) : Int :=
  (t.date.dayNumber * 86400 + t.second - t.offset) * 1000000000 + t.nanosecond

theorem elapsed_shift {t : Instant} {seconds : Int} (hsecond : t.second < 86400)
    (hseconds : -86400 < seconds ∧ seconds < 86400)
    (hyear : -262143 < t.date.year ∧ t.date.year < 262142) :
    (t.shift seconds).elapsed = t.elapsed ∧ (t.shift seconds).second < 86400 := by
  have hnext := Date.dayNumber_next hyear.2
  have hprevious := Date.dayNumber_previous hyear.1
  unfold shift daySeconds
  simp only
  split
  · simp only [elapsed, hprevious]
    omega
  · split
    · simp only [elapsed, hnext]
      omega
    · simp only [elapsed]
      omega

variable {t : Instant}

theorem shift_offset (seconds : Int) : (t.shift seconds).offset = t.offset + seconds := by
  unfold shift
  simp only
  split
  · rfl
  · split <;> rfl

theorem shift_nanosecond (seconds : Int) : (t.shift seconds).nanosecond = t.nanosecond := by
  unfold shift
  simp only
  split
  · rfl
  · split <;> rfl

theorem toUtc_offset (t : Instant) : t.toUtc.offset = 0 := by
  rw [toUtc, shift_offset, Int.add_right_neg]

namespace IsReading

/-- On a clock in UTC the same instant is another reading. -/
theorem toUtc (h : t.IsReading) (hyear : -262143 < t.date.year ∧ t.date.year < 262142) :
    t.toUtc.IsReading ∧ t.toUtc.elapsed = t.elapsed := by
  have hoffset := h.offset
  have hseconds : -86400 < -t.offset ∧ -t.offset < 86400 := by omega
  obtain ⟨helapsed, hsecond⟩ := elapsed_shift h.second hseconds hyear
  refine ⟨⟨hsecond, ?_, ?_⟩, helapsed⟩
  · rw [Instant.toUtc, shift_nanosecond]
    exact h.nanosecond
  · rw [toUtc_offset]
    decide

end IsReading

end Instant

end RuleBench.Calendar
