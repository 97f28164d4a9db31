import Listing.Instant.Basic
import Listing.Integer
import Listing.Text.Blank

namespace Listing.Instant

abbrev Field (α : Type) := List Char → Option (α × List Char)

def digits (least most : Nat) : Field Nat := fun cs =>
  let run := (cs.take most).takeWhile Char.isDigit
  if run.length < least then none
  else some (Nat.ofDigitChars 10 run 0, cs.drop run.length)

def oneOf (accepted : List Char) : Field Unit
  | [] => none
  | c :: cs => if c ∈ accepted then some ((), cs) else none

/-- Nanoseconds from a point and digits, of which the tenth and later are dropped; none without a
point. -/
def fraction : Field Nat
  | '.' :: cs =>
    let run := cs.takeWhile Char.isDigit
    let kept := run.take 9
    if run = [] then none
    else some (Nat.ofDigitChars 10 kept 0 * Nat.pow 10 (9 - kept.length), cs.dropWhile Char.isDigit)
  | cs => some (0, cs)

def offset : Field Int
  | 'Z' :: cs => some (0, cs)
  | 'z' :: cs => some (0, cs)
  | sign :: cs => do
    let (hours, cs) ← digits 2 2 cs
    let ((), cs) ← oneOf [':'] cs
    let (minutes, cs) ← digits 2 2 cs
    guard (hours ≤ 23 ∧ minutes ≤ 59)
    let size : Int := hours * 60 + minutes
    if sign = '+' then some (size, cs)
    else if sign = '-' ∨ sign = '−' then some (-size, cs)
    else none
  | [] => none

def readTimestamp? (cs : List Char) : Option Instant := do
  let (year, cs) ← digits 4 4 cs
  let ((), cs) ← oneOf ['-'] cs
  let (month, cs) ← digits 2 2 cs
  let ((), cs) ← oneOf ['-'] cs
  let (day, cs) ← digits 2 2 cs
  let ((), cs) ← oneOf ['T', 't', ' '] cs
  let (hour, cs) ← digits 2 2 cs
  let ((), cs) ← oneOf [':'] cs
  let (minute, cs) ← digits 2 2 cs
  let ((), cs) ← oneOf [':'] cs
  let (second, cs) ← digits 2 2 cs
  let (nanos, cs) ← fraction cs
  let (ahead, cs) ← offset cs
  guard (cs = [])
  ofCivil? ⟨year, month, day⟩ ⟨hour, minute, second, nanos⟩ ahead

def skipBlanks (cs : List Char) : List Char := cs.dropWhile Text.isBlank

def short : Field Nat := fun cs => digits 1 2 (skipBlanks cs)

def year : Field Int := fun cs =>
  match skipBlanks cs with
  | '-' :: ds => (digits 1 ds.length ds).map fun (n, rest) => (-(n : Int), rest)
  | '+' :: ds => (digits 1 ds.length ds).map fun (n, rest) => ((n : Int), rest)
  | ds => (digits 1 4 ds).map fun (n, rest) => ((n : Int), rest)

def dateField : Field Date := fun cs => do
  let (year, cs) ← year cs
  let ((), cs) ← oneOf ['-'] cs
  let (month, cs) ← short cs
  let ((), cs) ← oneOf ['-'] cs
  let (day, cs) ← short cs
  some (⟨year, month, day⟩, cs)

inductive Separator where
  | letter | blanks

def Separator.field : Separator → Field Unit
  | .letter => oneOf ['T']
  | .blanks => fun cs => some ((), skipBlanks cs)

inductive Precision where
  | seconds | minutes

def Precision.field : Precision → Field Clock
  | .seconds => fun cs => do
    let (hour, cs) ← short cs
    let ((), cs) ← oneOf [':'] cs
    let (minute, cs) ← short cs
    let ((), cs) ← oneOf [':'] cs
    let (second, cs) ← short cs
    let (nanos, cs) ← fraction cs
    some (⟨hour, minute, second, nanos⟩, cs)
  | .minutes => fun cs => do
    let (hour, cs) ← short cs
    let ((), cs) ← oneOf [':'] cs
    let (minute, cs) ← short cs
    some (⟨hour, minute, 0, 0⟩, cs)

def readDateTime? (separator : Separator) (precision : Precision) (cs : List Char) :
    Option Instant := do
  let (date, cs) ← dateField cs
  let ((), cs) ← separator.field cs
  let (clock, cs) ← precision.field cs
  guard (cs = [])
  ofCivil? date clock 0

def readDate? (cs : List Char) : Option Instant := do
  let (date, cs) ← dateField cs
  guard (cs = [])
  ofCivil? date ⟨0, 0, 0, 0⟩ 0

def read? (cs : List Char) : Option Instant :=
  readTimestamp? cs
    <|> readDateTime? .letter .seconds cs
    <|> readDateTime? .blanks .seconds cs
    <|> readDateTime? .letter .minutes cs
    <|> readDateTime? .blanks .minutes cs
    <|> readDate? cs

end Listing.Instant
