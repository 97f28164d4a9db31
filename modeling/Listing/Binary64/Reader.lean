import Listing.Binary64.Basic
import Listing.Integer

namespace Listing.Binary64

def readExponent? : List Char → Option Int
  | [] => some 0
  | c :: cs =>
    if c.toLower = 'e' then
      match cs with
      | '-' :: ds => (Integer.digits? ds).map fun n => -(n : Int)
      | '+' :: ds => (Integer.digits? ds).map fun n => (n : Int)
      | ds => (Integer.digits? ds).map fun n => (n : Int)
    else none

def readUnsigned? (negative : Bool) (cs : List Char) : Option Binary64 :=
  let before := cs.takeWhile Char.isDigit
  let rest := cs.dropWhile Char.isDigit
  let (after, rest) := match rest with
    | '.' :: ds => (ds.takeWhile Char.isDigit, ds.dropWhile Char.isDigit)
    | ds => ([], ds)
  if before = [] ∧ after = [] then none
  else (readExponent? rest).map fun exponent =>
    ofDecimal negative (Nat.ofDigitChars 10 (before ++ after) 0) (exponent - after.length)

def read? : List Char → Option Binary64
  | '-' :: cs => readUnsigned? true cs
  | '+' :: cs => readUnsigned? false cs
  | cs => readUnsigned? false cs

end Listing.Binary64
