namespace Listing.Integer

def bound : Int := 0x8000000000000000

def fit? (n : Int) : Option Int64 :=
  if -bound ≤ n ∧ n < bound then some (Int64.ofInt n) else none

def digits? (cs : List Char) : Option Nat :=
  if cs ≠ [] ∧ cs.all Char.isDigit then some (Nat.ofDigitChars 10 cs 0) else none

def read? : List Char → Option Int64
  | '-' :: cs => (digits? cs).bind fun n => fit? (-n)
  | '+' :: cs => (digits? cs).bind fun n => fit? n
  | cs => (digits? cs).bind fun n => fit? n

def decimal (n : Int) : List Char :=
  if n < 0 then '-' :: Nat.toDigits 10 n.natAbs else Nat.toDigits 10 n.natAbs

def text (n : Int64) : String := String.ofList (decimal n.toInt)

def padded (width n : Nat) : List Char :=
  let digits := Nat.toDigits 10 n
  List.replicate (width - digits.length) '0' ++ digits

end Listing.Integer
