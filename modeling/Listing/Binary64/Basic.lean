/-!
# Binary floating-point numbers of 64 bits

A number is its bit pattern: one sign bit, eleven bits of exponent and 52 bits of fraction. Read
as a natural number, the pattern without its sign grows with the magnitude it stands for, so every
comparison is a comparison of integers:

* `compare?` is the numerical order, in which the two zeros are equal and a NaN is unordered;
* `totalOrder` orders all patterns, negative ones in front of positive ones, zeros included.

`ofRatio` rounds a quotient of natural numbers to the nearest number, a tie to the even fraction.
-/

namespace Listing

structure Binary64 where
  bits : UInt64
  deriving DecidableEq

namespace Binary64

def signBit : Nat := 0x8000000000000000

def hiddenBit : Nat := 0x10000000000000

def infinite : Nat := 0x7ff0000000000000

def negative (x : Binary64) : Bool := signBit ≤ x.bits.toNat

def magnitude (x : Binary64) : Nat := x.bits.toNat % signBit

def isNaN (x : Binary64) : Bool := infinite < x.magnitude

def isFinite (x : Binary64) : Bool := x.magnitude < infinite

def ofParts (negative : Bool) (magnitude : Nat) : Binary64 :=
  ⟨UInt64.ofNat (if negative then signBit + magnitude else magnitude)⟩

def nan : Binary64 := ofParts false 0x7ff8000000000000

/-! ## Order -/

def place (x : Binary64) : Int := if x.negative then -x.magnitude else x.magnitude

def compare? (x y : Binary64) : Option Ordering :=
  if x.isNaN || y.isNaN then none else some (compare x.place y.place)

def equal (x y : Binary64) : Bool := x.compare? y == some .eq

def totalPlace (x : Binary64) : Int := if x.negative then -x.magnitude - 1 else x.magnitude

def totalOrder (x y : Binary64) : Ordering := compare x.totalPlace y.totalPlace

def alike (x y : Binary64) : Bool := x.isNaN && y.isNaN || x.equal y

/-! ## Exact value

A finite number is `significand * 2 ^ exponent`, with the sign in front. -/

def significand (x : Binary64) : Nat :=
  if x.magnitude < hiddenBit then x.magnitude else hiddenBit + x.magnitude % hiddenBit

def exponent (x : Binary64) : Int :=
  if x.magnitude < hiddenBit then -1074 else (x.magnitude / hiddenBit : Nat) - 1075

def whole? (x : Binary64) : Option Int :=
  let size : Option Nat :=
    if 0 ≤ x.exponent then some (x.significand <<< x.exponent.toNat)
    else
      let unit := 1 <<< (-x.exponent).toNat
      if x.significand % unit = 0 then some (x.significand / unit) else none
  if x.isFinite then size.map fun n => if x.negative then -(n : Int) else n else none

/-! ## Rounding -/

def roundDiv (num den : Nat) : Nat :=
  let low := num / den
  let rest := 2 * (num % den)
  if rest < den then low else if den < rest then low + 1 else low + low % 2

/-- The nearest number to `num / den`, a tie to the even fraction. All numbers are multiples of
`2 ^ -1074`; one with more than 53 binary digits of these units loses the last `shift` of them. -/
def ofRatio (negative : Bool) (num den : Nat) : Binary64 :=
  let units := num <<< 1074
  let shift := Nat.log2 (units / den) - 52
  ofParts negative (min infinite (shift * hiddenBit + roundDiv units (den <<< shift)))

def ofInt (n : Int) : Binary64 := ofRatio (n < 0) n.natAbs 1

/-- The nearest number to `digits * 10 ^ scale`. A scale that puts the number beyond the range on
either side is cut off first, so the quotient stays small. -/
def ofDecimal (negative : Bool) (digits : Nat) (scale : Int) : Binary64 :=
  let size : Int := (Nat.toDigits 10 digits).length + scale
  if digits = 0 ∨ size < -400 then ofParts negative 0
  else if 400 < size then ofParts negative infinite
  else if 0 ≤ scale then ofRatio negative (digits * Nat.pow 10 scale.toNat) 1
  else ofRatio negative digits (Nat.pow 10 (-scale).toNat)

end Binary64

end Listing
