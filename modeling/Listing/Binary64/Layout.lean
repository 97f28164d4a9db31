import Listing.Binary64.Shortest
import Listing.Integer

namespace Listing.Binary64

structure Layout where
  tie : Tie
  /-- The exponents of the first digit from and below which the number is written positionally;
  `none` for all. -/
  positional : Option (Int × Int)
  keepsPoint : Bool
  signsExponent : Bool

def Layout.plain : Layout := ⟨.up, none, false, false⟩

def Layout.diagnostic : Layout := ⟨.up, some (-4, 16), true, false⟩

def Layout.json : Layout := ⟨.toEven, some (-5, 16), true, true⟩

def stripZeros (digits : List Char) (scale : Int) : List Char × Int :=
  let zeros := (digits.reverse.takeWhile (· == '0')).length
  (digits.take (digits.length - zeros), scale + zeros)

def Layout.point (layout : Layout) (digits : List Char) (scale : Int) : List Char :=
  let tail := if layout.keepsPoint then ['.', '0'] else []
  let before := digits.length + scale
  if 0 ≤ scale then digits ++ List.replicate scale.toNat '0' ++ tail
  else if 0 < before then digits.take before.toNat ++ '.' :: digits.drop before.toNat
  else '0' :: '.' :: (List.replicate (-before).toNat '0' ++ digits)

def Layout.scientific (layout : Layout) (digits : List Char) (exponent : Int) : List Char :=
  let mantissa := match digits with
    | first :: second :: rest => first :: '.' :: second :: rest
    | short => short
  let sign := if exponent < 0 then ['-'] else if layout.signsExponent then ['+'] else []
  mantissa ++ 'e' :: (sign ++ Nat.toDigits 10 exponent.natAbs)

def Layout.unsigned (layout : Layout) (x : Binary64) : List Char :=
  if x.significand = 0 then layout.point ['0'] 0
  else
    let decimal := shortest layout.tie x
    let (digits, scale) := stripZeros (Nat.toDigits 10 decimal.digits) decimal.scale
    let exponent := digits.length + scale - 1
    match layout.positional with
    | none => layout.point digits scale
    | some (least, limit) =>
      if least ≤ exponent ∧ exponent < limit then layout.point digits scale
      else layout.scientific digits exponent

def Layout.write (layout : Layout) (x : Binary64) : List Char :=
  if x.isNaN then ['N', 'a', 'N']
  else
    let body := if x.isFinite then layout.unsigned x else ['i', 'n', 'f']
    if x.negative then '-' :: body else body

def text (layout : Layout) (x : Binary64) : String := String.ofList (layout.write x)

end Listing.Binary64
