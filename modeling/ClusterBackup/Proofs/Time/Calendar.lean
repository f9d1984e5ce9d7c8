import ClusterBackup.Time.Calendar
import Mathlib.Tactic.IntervalCases

/-! Dates and numbers of days: the date of a number of days exists, and counts as many days.

In an era the years from March begin at the days `firstDay`. The year of a day is found by a division
that makes up for the leap days before it. The division is monotone, so it is right on every day if it is
right on the first and the last day of each year. -/

set_option autoImplicit false

namespace ClusterBackup.Date

/-! ### Years of an era -/

/-- The first day of a year of an era. -/
def firstDay (year : Int) : Int := year * 365 + year / 4 - year / 100

/-- The day of an era without the leap days before it. -/
def commonDays (day : Int) : Int := day - day / 1460 + day / 36524 - day / 146096

def yearOf (day : Int) : Int := commonDays day / 365

theorem commonDays_le_commonDays {day later : Int} (order : day ≤ later) :
    commonDays day ≤ commonDays later := by
  -- Every fourth century has one leap day less to make up for.
  have centuries (n : Int) : n / 146096 = n / 36524 / 4 := by omega
  have years : day - day / 1460 ≤ later - later / 1460 := by omega
  have corrected : day / 36524 - day / 36524 / 4 ≤ later / 36524 - later / 36524 / 4 := by omega
  simp only [commonDays, centuries]
  omega

theorem commonDays_firstDay : ∀ year : Nat, year < 400 →
    (year : Int) * 365 ≤ commonDays (firstDay year) ∧
      (0 < year → commonDays (firstDay year - 1) < year * 365) := by
  decide +kernel

theorem yearOf_spec {day : Int} (low : 0 ≤ day) (high : day < 146097) :
    0 ≤ yearOf day ∧ yearOf day ≤ 399 ∧ firstDay (yearOf day) ≤ day ∧
      (yearOf day = 399 ∨ day < firstDay (yearOf day + 1)) := by
  have first := commonDays_le_commonDays low
  have last := commonDays_le_commonDays (show day ≤ 146096 by omega)
  have zero : commonDays 0 = 0 := rfl
  have final : commonDays 146096 = 145999 := rfl
  obtain ⟨bottom, top⟩ : 0 ≤ yearOf day ∧ yearOf day ≤ 399 := by
    unfold yearOf
    omega
  have bounds : yearOf day * 365 ≤ commonDays day ∧ commonDays day < (yearOf day + 1) * 365 := by
    unfold yearOf
    omega
  -- Common days grow with the days, so the first days of two years are all there is to compare.
  obtain ⟨year, same⟩ := Int.eq_ofNat_of_zero_le bottom
  rw [same] at top bounds ⊢
  refine ⟨by omega, by omega, ?_, ?_⟩
  · by_contra before
    have earlier := commonDays_le_commonDays (show day ≤ firstDay year - 1 by omega)
    have positive : 0 < year := by
      by_contra none
      obtain rfl : year = 0 := by omega
      exact before low
    have table := (commonDays_firstDay year (by omega)).2 positive
    omega
  · by_contra neither
    obtain ⟨inside, after⟩ := not_or.mp neither
    have later := commonDays_le_commonDays (show firstDay ((year + 1 : Nat) : Int) ≤ day by
      push_cast
      omega)
    have table := (commonDays_firstDay (year + 1) (by omega)).1
    push_cast at later table
    omega

theorem firstDay_succ (year : Int) : firstDay (year + 1) =
    firstDay year + 365 + (if (year + 1) % 4 = 0 then 1 else 0) - if (year + 1) % 100 = 0 then 1 else 0 := by
  have fourth : (year + 1) / 4 = year / 4 + if (year + 1) % 4 = 0 then 1 else 0 := by omega
  have century : (year + 1) / 100 = year / 100 + if (year + 1) % 100 = 0 then 1 else 0 := by omega
  rw [firstDay, firstDay, fourth, century]
  omega

/-! ### Days of a year -/

def monthOf (day : Int) : Int := (5 * day + 2) / 153

def dayOf (day : Int) : Int := day - (153 * monthOf day + 2) / 5 + 1

theorem monthOf_spec {day : Int} (low : 0 ≤ day) (high : day ≤ 365) :
    0 ≤ monthOf day ∧ monthOf day ≤ 11 ∧ 1 ≤ dayOf day ∧ dayOf day ≤ 31 := by
  unfold dayOf monthOf
  omega

def ofPlace (era year day : Int) : Date :=
  let month := if monthOf day < 10 then monthOf day + 3 else monthOf day - 9
  ⟨year + era * 400 + if month ≤ 2 then 1 else 0, month.toNat, (dayOf day).toNat⟩

/-- A day of a year from March. Only those years have a last day more that end in a leap year. -/
structure IsPlace (year day : Int) : Prop where
  year_nonneg : 0 ≤ year
  year_le : year ≤ 399
  day_nonneg : 0 ≤ day
  day_le : day ≤ 365
  leap : day = 365 → (year + 1) % 4 = 0 ∧ (year + 1) % 100 ≠ 0 ∨ year = 399

theorem exists_place (days : Int) : ∃ era year day, IsPlace year day ∧
    days + 719468 = era * 146097 + firstDay year + day ∧ ofDays days = ofPlace era year day := by
  have low : 0 ≤ (days + 719468) % 146097 := by omega
  have high : (days + 719468) % 146097 < 146097 := by omega
  have whole : (days + 719468) / 146097 * 146097 + (days + 719468) % 146097 = days + 719468 := by omega
  obtain ⟨bottom, top, first, next⟩ := yearOf_spec low high
  refine ⟨(days + 719468) / 146097, yearOf ((days + 719468) % 146097),
    (days + 719468) % 146097 - firstDay (yearOf ((days + 719468) % 146097)), ?_, by omega, ?_⟩
  · generalize yearOf ((days + 719468) % 146097) = year at *
    have longest : firstDay 399 = 145731 := rfl
    rw [firstDay_succ] at next
    refine ⟨bottom, top, by omega, ?_, fun last => ?_⟩
    · rcases next with rfl | next
      · omega
      · split at next <;> omega
    · rcases next with rfl | next
      · exact .inr rfl
      · exact .inl (by split at next <;> omega)
  · have same : 365 * yearOf ((days + 719468) % 146097) + yearOf ((days + 719468) % 146097) / 4
        - yearOf ((days + 719468) % 146097) / 100 = firstDay (yearOf ((days + 719468) % 146097)) := by
      rw [firstDay, Int.mul_comm]
    unfold ofPlace dayOf monthOf
    rw [← same]
    rfl

theorem toDays_ofPlace {era year day : Int} (place : IsPlace year day) :
    (ofPlace era year day).toDays = era * 146097 + firstDay year + day - 719468 := by
  obtain ⟨bottom, top, first, last⟩ := monthOf_spec place.day_nonneg place.day_le
  have years := place.year_nonneg
  have bound := place.year_le
  unfold ofPlace toDays firstDay
  unfold dayOf at *
  -- Within a month the day of the year and the day of the month differ by a number.
  generalize monthOf day = month at *
  interval_cases month <;> simp <;> omega

theorem ofPlace_valid {era year day : Int} (place : IsPlace year day) :
    1 ≤ (ofPlace era year day).month ∧ (ofPlace era year day).month ≤ 12 ∧
      1 ≤ (ofPlace era year day).day ∧
      (ofPlace era year day).day ≤ daysInMonth (ofPlace era year day).year (ofPlace era year day).month := by
  obtain ⟨bottom, top, first, last⟩ := monthOf_spec place.day_nonneg place.day_le
  have named : (5 * day + 2) / 153 = monthOf day := rfl
  have limit := place.day_le
  unfold ofPlace dayOf
  generalize monthOf day = month at *
  by_cases february : month = 11
  · -- February is the last month of a year from March, and has its last day in leap years only.
    subst february
    have leap := place.leap
    by_cases last : day = 365
    · have divides : isLeapYear (year + era * 400 + 1) = true := by
        simp only [isLeapYear, Bool.or_eq_true, Bool.and_eq_true, beq_iff_eq, bne_iff_ne]
        omega
      simp [daysInMonth, divides, last]
    · simp only [daysInMonth]
      split <;> simp <;> omega
  · interval_cases month <;> simp [daysInMonth] <;> omega

theorem toDays_ofDays (days : Int) : (ofDays days).toDays = days := by
  obtain ⟨era, year, day, place, whole, same⟩ := exists_place days
  rw [same, toDays_ofPlace place]
  omega

theorem ofDays_valid (days : Int) :
    1 ≤ (ofDays days).month ∧ (ofDays days).month ≤ 12 ∧ 1 ≤ (ofDays days).day ∧
      (ofDays days).day ≤ daysInMonth (ofDays days).year (ofDays days).month := by
  obtain ⟨era, year, day, place, -, same⟩ := exists_place days
  exact same ▸ ofPlace_valid place

theorem daysInMonth_le (year : Int) (month : Nat) : daysInMonth year month ≤ 31 := by
  unfold daysInMonth
  split
  case h_5 => split <;> decide
  all_goals decide

end ClusterBackup.Date
