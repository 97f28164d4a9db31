import Listing.Binary64.Basic

/-!
# The shortest decimal that reads back

Every real number nearer to a finite number than to its two neighbours rounds to it, and so do the
two midpoints when the significand is even. Among the grids of multiples of a power of ten, the
coarsest one with a point in this interval gives the shortest decimal; of its points next to the
number, the nearer is taken.
-/

namespace Listing.Binary64

structure Decimal where
  digits : Nat
  scale : Int

inductive Tie where
  | up | toEven

/-- A positive finite number and the interval that rounds to it, as quarters of its unit in the last
place: `low`, `mid` and `high` times `2 ^ power`. -/
structure Interval where
  low : Nat
  mid : Nat
  high : Nat
  power : Int
  closed : Bool

def interval (x : Binary64) : Interval :=
  let m := x.significand
  let below := if m = hiddenBit ∧ -1074 < x.exponent then 1 else 2
  ⟨4 * m - below, 4 * m, 4 * m + 2, x.exponent - 2, m % 2 = 0⟩

def Interval.onGrid? (i : Interval) (tie : Tie) (scale : Int) : Option Nat :=
  let up := Nat.pow 10 (-scale).toNat <<< i.power.toNat
  let down := Nat.pow 10 scale.toNat <<< (-i.power).toNat
  let inside (point : Nat) : Bool :=
    if i.closed then i.low * up ≤ point * down && point * down ≤ i.high * up
    else i.low * up < point * down && point * down < i.high * up
  let floor := i.mid * up / down
  let rest := 2 * (i.mid * up % down)
  let nearer :=
    if rest < down then floor
    else if down < rest then floor + 1
    else match tie with
      | .up => floor + 1
      | .toEven => floor + floor % 2
  match inside floor, inside (floor + 1) with
  | true, true => some nearer
  | true, false => some floor
  | false, true => some (floor + 1)
  | false, false => none

def Interval.coarsest (i : Interval) (tie : Tie) (scale : Int) : Nat → Decimal
  | 0 => ⟨i.mid, 0⟩
  | grids + 1 =>
    match i.onGrid? tie scale with
    | some digits => ⟨digits, scale⟩
    | none => i.coarsest tie (scale - 1) grids

/-- A power of ten above the interval: `30103 / 100000` is just above the logarithm of two, and
below zero `30102 / 100000` just below it. -/
def Interval.startScale (i : Interval) : Int :=
  let size : Int := Nat.log2 i.high + 1 + i.power
  (if 0 ≤ size then size * 30103 else size * 30102) / 100000 + 1

/-- Seventeen digits always suffice, and the search starts at most three grids above the first. -/
def shortest (tie : Tie) (x : Binary64) : Decimal :=
  if x.significand = 0 then ⟨0, 0⟩
  else
    let i := x.interval
    i.coarsest tie i.startScale 24

end Listing.Binary64
