import Mathlib.Tactic.IntervalCases
import Listing.Instant.Basic

namespace Listing

namespace Date

def daysBefore (year : Int) : Int := 365 * year + year / 4 - year / 100

def ofMarch (year dayOfYear : Int) : Date :=
  let month := (5 * dayOfYear + 2) / 153
  let day := dayOfYear - (153 * month + 2) / 5 + 1
  if month < 10 then ⟨year, (month + 3).toNat, day.toNat⟩
  else ⟨year + 1, (month - 9).toNat, day.toNat⟩

def InCalendar (d : Date) : Prop :=
  1 ≤ d.month ∧ d.month ≤ 12 ∧ 1 ≤ d.day ∧ d.day ≤ monthLength d.year d.month

structure Within (year day : Int) : Prop where
  low : 0 ≤ year
  high : year < 400
  first : daysBefore year ≤ day
  last : year < 399 → day < daysBefore (year + 1)

theorem within_yearOfCycle {day year : Int} (low : 0 ≤ day) (high : day < 146097)
    (h : year = (day - day / 1460 + day / 36524 - day / 146096) / 365) : Within year day := by
  -- Years and days have the same quotients, but for the day that ends four years and that of the cycle.
  have century : year / 100 = day / 36524 ∨ day = 146096 := by omega
  have ofLeap : year / 4 = day / 1460 ∨ year / 4 + 1 = day / 1460 := by omega
  refine ⟨by omega, by omega, ?_, ?_⟩ <;> unfold daysBefore
  · obtain century | rfl := century
    · obtain ofLeap | ofLeap := ofLeap <;> omega
    · omega
  · intro inside
    replace century : year / 100 = day / 36524 := by omega
    have lastDay : day / 146096 = 0 := by omega
    have next : (year + 1) / 4 = year / 4 ∧ (year + 1) / 100 = year / 100 ∨
        year % 4 = 3 ∧ (year + 1) / 4 = year / 4 + 1 := by omega
    have nextCentury : (year + 1) / 100 = year / 100 ∨
        year % 100 = 99 ∧ (year + 1) / 100 = year / 100 + 1 := by omega
    rw [lastDay] at h
    obtain ⟨next, same⟩ | ⟨fourth, next⟩ := next
    · rw [next, same]
      obtain ofLeap | ofLeap := ofLeap <;> omega
    · rw [next]
      obtain same | ⟨hundredth, nextCentury⟩ := nextCentury
      · rw [same]
        obtain ofLeap | ofLeap := ofLeap <;> omega
      · rw [nextCentury]
        obtain ofLeap | ofLeap := ofLeap <;> omega

theorem Within.leap {year day : Int} (h : Within year day) (bound : day < 146097) (cycle : Int) :
    day - daysBefore year ≤ 365 ∧
      (day - daysBefore year = 365 → isLeap (cycle * 400 + year + 1) = true) := by
  have low := h.low
  have high := h.high
  have last := h.last
  unfold daysBefore at *
  simp only [isLeap, Bool.and_eq_true, Bool.or_eq_true, decide_eq_true_eq]
  omega

theorem toDays_ofMarch (year : Int) {dayOfYear : Int} (low : 0 ≤ dayOfYear) (high : dayOfYear ≤ 365) :
    (ofMarch year dayOfYear).toDays =
      year / 400 * 146097 + (daysBefore (year % 400) + dayOfYear) - 719468 := by
  have month : 0 ≤ (5 * dayOfYear + 2) / 153 ∧ (5 * dayOfYear + 2) / 153 ≤ 11 := by omega
  have day : (153 * ((5 * dayOfYear + 2) / 153) + 2) / 5 ≤ dayOfYear := by omega
  unfold ofMarch
  dsimp only
  generalize (5 * dayOfYear + 2) / 153 = m at month day
  split
  all_goals
    simp only [toDays, daysBefore]
    split <;> omega

theorem inCalendar_ofMarch {year dayOfYear : Int} (low : 0 ≤ dayOfYear) (high : dayOfYear ≤ 365)
    (leap : dayOfYear = 365 → isLeap (year + 1) = true) : (ofMarch year dayOfYear).InCalendar := by
  have month : 0 ≤ (5 * dayOfYear + 2) / 153 ∧ (5 * dayOfYear + 2) / 153 ≤ 11 := by omega
  have first : (153 * ((5 * dayOfYear + 2) / 153) + 2) / 5 ≤ dayOfYear := by omega
  have last : dayOfYear < (153 * ((5 * dayOfYear + 2) / 153 + 1) + 2) / 5 := by omega
  have february : dayOfYear ≤ 336 + monthLength (year + 1) 2 := by
    cases leapYear : isLeap (year + 1) with
    | true =>
      simp only [monthLength, leapYear, if_true]
      omega
    | false =>
      have short : dayOfYear ≠ 365 := fun long => by simp [leap long] at leapYear
      simp only [monthLength, leapYear, Bool.false_eq_true, if_false]
      omega
  unfold ofMarch InCalendar
  dsimp only
  generalize (5 * dayOfYear + 2) / 153 = m at month first last
  obtain ⟨m, rfl⟩ := Int.eq_ofNat_of_zero_le month.1
  obtain rfl | before : m = 11 ∨ m < 11 := by omega
  · rw [if_neg (by decide)]
    refine ⟨by simp, by simp, ?_, ?_⟩
    · dsimp only
      omega
    · show (dayOfYear - (153 * (11 : Nat) + 2) / 5 + 1).toNat ≤ monthLength (year + 1) 2
      omega
  · clear february
    interval_cases m
    all_goals
      simp [monthLength]
      omega

theorem exists_ofMarch (days : Int) : ∃ cycle year day : Int, Within year day ∧ day < 146097 ∧
    days = cycle * 146097 + day - 719468 ∧
      ofDays days = ofMarch (cycle * 400 + year) (day - daysBefore year) := by
  refine ⟨(days + 719468) / 146097, _, (days + 719468) % 146097,
    within_yearOfCycle (by omega) (by omega) rfl, by omega, by omega, rfl⟩

theorem toDays_ofDays (days : Int) : (ofDays days).toDays = days := by
  obtain ⟨cycle, year, day, within, bound, same, date⟩ := exists_ofMarch days
  have first := within.first
  have low := within.low
  have high := within.high
  have ofCycle : (cycle * 400 + year) / 400 = cycle ∧ (cycle * 400 + year) % 400 = year := by omega
  rw [date, toDays_ofMarch _ (by omega) (within.leap bound cycle).1, ofCycle.1, ofCycle.2, same]
  omega

theorem inCalendar_ofDays (days : Int) : (ofDays days).InCalendar := by
  obtain ⟨cycle, year, day, within, bound, -, date⟩ := exists_ofMarch days
  have first := within.first
  obtain ⟨long, leap⟩ := within.leap bound cycle
  rw [date]
  exact inCalendar_ofMarch (by omega) long leap

end Date

namespace Instant

def OnClock (t : Instant) : Prop :=
  t.nanos < nanosPerSecond ∨ t.seconds % 60 = 59 ∧ t.nanos < 2 * nanosPerSecond

variable {t : Instant}

theorem OnClock.valid_clock (h : t.OnClock) : t.clock.Valid := by
  unfold OnClock at h
  simp only [Clock.Valid, clock, nanosPerSecond] at *
  omega

theorem ofCivil_date_clock (h : t.OnClock) : ofCivil t.date t.clock 0 = t := by
  have seconds : t.date.toDays = t.seconds / 86400 := Date.toDays_ofDays _
  obtain ⟨s, n⟩ := t
  unfold OnClock at h
  by_cases leap : (clock ⟨s, n⟩).second = 60
  · simp only [ofCivil, leap, if_true, seconds, Instant.mk.injEq]
    simp only [clock, nanosPerSecond] at *
    omega
  · simp only [ofCivil, leap, if_false, seconds, Instant.mk.injEq]
    simp only [clock, nanosPerSecond] at *
    omega

end Instant

end Listing
