import Listing.Instant.Basic
import Listing.Integer

namespace Listing.Instant

def yearText (year : Int) : List Char :=
  if 0 ≤ year ∧ year ≤ 9999 then Integer.padded 4 year.toNat
  else (if year < 0 then '-' else '+') :: Integer.padded 4 year.natAbs

def dateText (d : Date) : List Char :=
  yearText d.year ++ '-' :: Integer.padded 2 d.month ++ '-' :: Integer.padded 2 d.day

def fractionText (nanos : Nat) : List Char :=
  if nanos = 0 then []
  else if nanos % 1000000 = 0 then '.' :: Integer.padded 3 (nanos / 1000000)
  else if nanos % 1000 = 0 then '.' :: Integer.padded 6 (nanos / 1000)
  else '.' :: Integer.padded 9 nanos

def clockText (c : Clock) : List Char :=
  Integer.padded 2 c.hour ++ ':' :: Integer.padded 2 c.minute ++ ':' :: Integer.padded 2 c.second
    ++ fractionText c.nanos

def civilText (offset : List Char) (t : Instant) : List Char :=
  dateText t.date ++ 'T' :: clockText t.clock ++ offset

def plainText (t : Instant) : List Char := civilText ['+', '0', '0', ':', '0', '0'] t

def diagnosticText (t : Instant) : List Char := civilText ['Z'] t

end Listing.Instant
