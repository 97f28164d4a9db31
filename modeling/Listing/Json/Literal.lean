import Listing.Json.Basic
import Listing.Integer

namespace Listing.Json

def shortEscapes : List (Char × Char) :=
  [('\x08', 'b'), ('\x0c', 'f'), ('\n', 'n'), ('\r', 'r'), ('\t', 't')]

def escapeChar (c : Char) : List Char :=
  if c = '"' ∨ c = '\\' then ['\\', c]
  else if c < ' ' then
    match shortEscapes.lookup c with
    | some letter => ['\\', letter]
    | none => '\\' :: 'u' :: '0' :: '0' :: [Nat.digitChar (c.toNat / 16), Nat.digitChar (c.toNat % 16)]
  else [c]

def escape (s : String) : List Char := s.toList.flatMap escapeChar

def hexDigit? (c : Char) : Option Nat :=
  if c.isDigit then some (c.toNat - '0'.toNat)
  else if 'a' ≤ c ∧ c ≤ 'f' then some (c.toNat - 'a'.toNat + 10)
  else if 'A' ≤ c ∧ c ≤ 'F' then some (c.toNat - 'A'.toNat + 10)
  else none

def unit? (a b c d : Char) : Option Nat := do
  let a ← hexDigit? a
  let b ← hexDigit? b
  let c ← hexDigit? c
  let d ← hexDigit? d
  some (((a * 16 + b) * 16 + c) * 16 + d)

def isHighHalf (n : Nat) : Bool := 0xD800 ≤ n && n < 0xDC00

def isLowHalf (n : Nat) : Bool := 0xDC00 ≤ n && n < 0xE000

def unescape? (c : Char) : Option Char :=
  if c = '"' ∨ c = '\\' ∨ c = '/' then some c
  else (shortEscapes.find? (·.2 == c)).map (·.1)

def unescape : List Char → Option (List Char)
  | [] => some []
  | '\\' :: 'u' :: a :: b :: c :: d :: rest => do
    let n ← unit? a b c d
    if isHighHalf n then
      match rest with
      | '\\' :: 'u' :: a :: b :: c :: d :: rest => do
        let m ← unit? a b c d
        guard (isLowHalf m)
        let cs ← unescape rest
        some (Char.ofNat (0x10000 + (n - 0xD800) * 0x400 + (m - 0xDC00)) :: cs)
      | _ => none
    else do
      guard (!isLowHalf n)
      let cs ← unescape rest
      some (Char.ofNat n :: cs)
  | '\\' :: c :: rest => do
    let c ← unescape? c
    let cs ← unescape rest
    some (c :: cs)
  | c :: rest => do
    guard (c ≠ '\\')
    let cs ← unescape rest
    some (c :: cs)

def ofString (s : String) : Json := .text (escape s)

def decode? (literal : List Char) : Option String := (unescape literal).map String.ofList

def ofInt (n : Int) : Json := .number (Integer.decimal n)

def ofNat (n : Nat) : Json := ofInt n

def integer? : List Char → Option Int
  -- the negative zero is a float
  | '-' :: cs => (Integer.digits? cs).bind fun n => if n = 0 then none else some (-n)
  | cs => (Integer.digits? cs).map fun n => (n : Int)

end Listing.Json
