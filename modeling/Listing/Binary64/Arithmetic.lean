import Listing.Binary64.Basic

namespace Listing.Binary64

def ofScaled (negative : Bool) (num den : Nat) (power : Int) : Binary64 :=
  if 0 ≤ power then ofRatio negative (num <<< power.toNat) den
  else ofRatio negative num (den <<< (-power).toNat)

def mul (x y : Binary64) : Binary64 :=
  ofScaled (x.negative != y.negative) (x.significand * y.significand) 1 (x.exponent + y.exponent)

def div (x y : Binary64) : Binary64 :=
  ofScaled (x.negative != y.negative) x.significand y.significand (x.exponent - y.exponent)

def finite? (x : Binary64) : Option Binary64 := if x.isFinite then some x else none

end Listing.Binary64
