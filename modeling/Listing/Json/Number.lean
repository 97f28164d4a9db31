import Listing.Json.Literal
import Listing.Binary64.Arithmetic
import Listing.Binary64.Layout
import Listing.Binary64.Reader

/-!
# Floats in JSON

How the number literals of a document are read as floats, and floats written as such, is a parameter of the
readers and the printer.
-/

namespace Listing

structure NumberFormat where
  read? : List Char → Option Binary64
  write : Binary64 → List Char

namespace NumberFormat

def nearest : NumberFormat where
  read? literal := (Binary64.read? literal).filter (·.isFinite)
  write := Binary64.Layout.json.write

/-! ## Scaling a word

The digits are taken as far as they fit into a word. This word, as a float, is then multiplied or divided by
a power of ten, so that a number may be rounded twice. -/

def wordSize : Nat := 0x10000000000000000

def wholeWord (word : Nat) : List Char → Nat × Int
  | [] => (word, 0)
  | c :: cs =>
    let next := Nat.ofDigitChars 10 [c] word
    if next < wordSize then wholeWord next cs else (word, (cs.length + 1 : Nat))

def fractionWord (word : Nat) (scale : Int) : List Char → Nat × Int
  | [] => (word, scale)
  | c :: cs =>
    let next := Nat.ofDigitChars 10 [c] word
    if next < wordSize then fractionWord next (scale - 1) cs else (word, scale)

def powerOfTen (n : Nat) : Binary64 := .ofDecimal false 1 n

/-- The number times a power of ten, unless that is beyond the range. -/
def scale? (x : Binary64) (exponent : Int) : Option Binary64 :=
  if exponent.natAbs ≤ 308 then
    let power := powerOfTen exponent.natAbs
    (if 0 ≤ exponent then x.mul power else x.div power).finite?
  else if x.significand = 0 then some x
  else if 0 ≤ exponent then none
  else scale? (x.div (powerOfTen 308)) (exponent + 308)
termination_by exponent.natAbs
decreasing_by omega

def readScaled? (negative : Bool) (cs : List Char) : Option Binary64 := do
  let (whole, rest) := (cs.takeWhile Char.isDigit, cs.dropWhile Char.isDigit)
  let (fraction, rest) := match rest with
    | '.' :: ds => (ds.takeWhile Char.isDigit, ds.dropWhile Char.isDigit)
    | ds => ([], ds)
  let exponent ← Binary64.readExponent? rest
  let (word, scale) := wholeWord 0 whole
  let (word, scale) := fractionWord word scale fraction
  let x ← scale? (.ofRatio false word 1) (scale + exponent)
  some (.ofParts negative x.magnitude)

def scaled : NumberFormat where
  read?
    | '-' :: cs => readScaled? true cs
    | cs => readScaled? false cs
  write := Binary64.Layout.json.write

end NumberFormat

def Json.ofFloat (format : NumberFormat) (x : Binary64) : Json :=
  if x.isFinite then .number (format.write x) else .null

end Listing
