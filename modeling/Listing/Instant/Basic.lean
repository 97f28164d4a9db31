/-!
# Instants and the civil calendar

An `Instant` counts seconds from the first of January 1970 in UTC, and nanoseconds within the
second. A leap second has no number of its own: it is the last second of its minute, with a thousand
million nanoseconds more. Dates are those of the Gregorian calendar, extended in both directions
without a year missing.
-/

namespace Listing

def nanosPerSecond : Nat := 1000000000

structure Instant where
  seconds : Int
  nanos : Nat
  deriving DecidableEq

structure Date where
  year : Int
  month : Nat
  day : Nat
  deriving DecidableEq

/-- A time of day; `second` is 60 in a leap second. -/
structure Clock where
  hour : Nat
  minute : Nat
  second : Nat
  nanos : Nat
  deriving DecidableEq

namespace Date

def isLeap (year : Int) : Bool := year % 4 = 0 && (year % 100 ≠ 0 || year % 400 = 0)

def monthLength (year : Int) (month : Nat) : Nat :=
  match month with
  | 2 => if isLeap year then 29 else 28
  | 4 | 6 | 9 | 11 => 30
  | _ => 31

def Valid (d : Date) : Prop :=
  -262143 ≤ d.year ∧ d.year ≤ 262142 ∧ 1 ≤ d.month ∧ d.month ≤ 12 ∧
    1 ≤ d.day ∧ d.day ≤ monthLength d.year d.month

instance (d : Date) : Decidable d.Valid := by unfold Valid; infer_instance

/-- Days from the first of January 1970. Years are counted from March, so that the day a leap year
adds is the last one; 400 such years have 146097 days. -/
def toDays (d : Date) : Int :=
  let year := if d.month ≤ 2 then d.year - 1 else d.year
  let month : Int := if d.month ≤ 2 then d.month + 9 else d.month - 3
  let yearOfCycle := year % 400
  let dayOfYear := (153 * month + 2) / 5 + d.day - 1
  year / 400 * 146097 + (365 * yearOfCycle + yearOfCycle / 4 - yearOfCycle / 100 + dayOfYear) - 719468

def ofDays (days : Int) : Date :=
  let shifted := days + 719468
  let dayOfCycle := shifted % 146097
  let yearOfCycle :=
    (dayOfCycle - dayOfCycle / 1460 + dayOfCycle / 36524 - dayOfCycle / 146096) / 365
  let dayOfYear := dayOfCycle - (365 * yearOfCycle + yearOfCycle / 4 - yearOfCycle / 100)
  let month := (5 * dayOfYear + 2) / 153
  let day := dayOfYear - (153 * month + 2) / 5 + 1
  let year := shifted / 146097 * 400 + yearOfCycle
  if month < 10 then ⟨year, (month + 3).toNat, day.toNat⟩
  else ⟨year + 1, (month - 9).toNat, day.toNat⟩

end Date

namespace Clock

def Valid (c : Clock) : Prop :=
  c.hour ≤ 23 ∧ c.minute ≤ 59 ∧ c.second ≤ 60 ∧ c.nanos < nanosPerSecond

instance (c : Clock) : Decidable c.Valid := by unfold Valid; infer_instance

end Clock

namespace Instant

def ofCivil (d : Date) (c : Clock) (offset : Int) : Instant :=
  let (second, nanos) :=
    if c.second = 60 then (59, c.nanos + nanosPerSecond) else (c.second, c.nanos)
  ⟨d.toDays * 86400 + c.hour * 3600 + (c.minute - offset) * 60 + second, nanos⟩

def ofCivil? (d : Date) (c : Clock) (offset : Int) : Option Instant :=
  if d.Valid ∧ c.Valid then some (ofCivil d c offset) else none

def date (t : Instant) : Date := Date.ofDays (t.seconds / 86400)

def clock (t : Instant) : Clock :=
  let ofDay := (t.seconds % 86400).toNat
  ⟨ofDay / 3600, ofDay / 60 % 60, ofDay % 60 + t.nanos / nanosPerSecond,
    t.nanos % nanosPerSecond⟩

def ofMillis? (millis : Int) : Option Instant :=
  if -8334601228800000 ≤ millis ∧ millis ≤ 8210266876799999 then
    some ⟨millis / 1000, (millis % 1000).toNat * 1000000⟩
  else none

/-- By time; a leap second comes behind the second it shares its number with. -/
def order (s t : Instant) : Ordering :=
  (compare s.seconds t.seconds).then (compare s.nanos t.nanos)

end Instant

end Listing
