import Listing.Json.Basic

namespace Listing.Json

def isBlank (c : Char) : Bool := c = ' ' || c = '\t' || c = '\n' || c = '\r'

def skipBlanks (cs : List Char) : List Char := cs.dropWhile isBlank

def isHexDigit (c : Char) : Bool :=
  c.isDigit || ('a' ≤ c && c ≤ 'f') || ('A' ≤ c && c ≤ 'F')

def isShortEscape (c : Char) : Bool := ['"', '\\', '/', 'b', 'f', 'n', 'r', 't'].contains c

def scanText : List Char → Option (List Char × List Char)
  | [] => none
  | '"' :: rest => some ([], rest)
  | '\\' :: 'u' :: a :: b :: c :: d :: rest =>
    if [a, b, c, d].all isHexDigit then
      (scanText rest).map fun (literal, rest) => ('\\' :: 'u' :: a :: b :: c :: d :: literal, rest)
    else none
  | '\\' :: c :: rest =>
    if isShortEscape c then
      (scanText rest).map fun (literal, rest) => ('\\' :: c :: literal, rest)
    else none
  | c :: rest =>
    if c < ' ' ∨ c = '\\' then none
    else (scanText rest).map fun (literal, rest) => (c :: literal, rest)

def scanDigits (cs : List Char) : List Char × List Char :=
  (cs.takeWhile Char.isDigit, cs.dropWhile Char.isDigit)

def scanWhole : List Char → Option (List Char × List Char)
  | '0' :: rest => some (['0'], rest)
  | cs => if (scanDigits cs).1 = [] then none else some (scanDigits cs)

def scanFraction : List Char → Option (List Char × List Char)
  | '.' :: rest =>
    if (scanDigits rest).1 = [] then none
    else some ('.' :: (scanDigits rest).1, (scanDigits rest).2)
  | cs => some ([], cs)

def scanSign : List Char → List Char × List Char
  | '+' :: rest => (['+'], rest)
  | '-' :: rest => (['-'], rest)
  | cs => ([], cs)

def scanExponent : List Char → Option (List Char × List Char)
  | [] => some ([], [])
  | c :: rest =>
    if c = 'e' ∨ c = 'E' then
      let (sign, rest) := scanSign rest
      let (digits, rest) := scanDigits rest
      if digits = [] then none else some (c :: (sign ++ digits), rest)
    else some ([], c :: rest)

def scanUnsigned (cs : List Char) : Option (List Char × List Char) := do
  let (whole, cs) ← scanWhole cs
  let (fraction, cs) ← scanFraction cs
  let (exponent, cs) ← scanExponent cs
  some (whole ++ fraction ++ exponent, cs)

def scanNumber : List Char → Option (List Char × List Char)
  | '-' :: rest => (scanUnsigned rest).map fun (literal, rest) => ('-' :: literal, rest)
  | cs => scanUnsigned cs

mutual

/-- A value at the head of the text, and the text behind it. Each call takes one unit of fuel. -/
def readValue : Nat → List Char → Option (Json × List Char)
  | 0, _ => none
  | fuel + 1, cs =>
    match skipBlanks cs with
    | '"' :: rest => (scanText rest).map fun (literal, rest) => (.text literal, rest)
    | '[' :: rest =>
      match skipBlanks rest with
      | ']' :: rest => some (.array [], rest)
      | rest => (readItems fuel rest).map fun (items, rest) => (.array items, rest)
    | '\x7b' :: rest =>
      match skipBlanks rest with
      | '\x7d' :: rest => some (.object [], rest)
      | rest => (readMembers fuel rest).map fun (members, rest) => (.object members, rest)
    | 'n' :: 'u' :: 'l' :: 'l' :: rest => some (.null, rest)
    | 't' :: 'r' :: 'u' :: 'e' :: rest => some (.bool true, rest)
    | 'f' :: 'a' :: 'l' :: 's' :: 'e' :: rest => some (.bool false, rest)
    | cs => (scanNumber cs).map fun (literal, rest) => (.number literal, rest)

def readItems : Nat → List Char → Option (List Json × List Char)
  | 0, _ => none
  | fuel + 1, cs => do
    let (item, cs) ← readValue fuel cs
    match skipBlanks cs with
    | ',' :: cs => (readItems fuel cs).map fun (items, cs) => (item :: items, cs)
    | ']' :: cs => some ([item], cs)
    | _ => none

def readMembers : Nat → List Char → Option (List (List Char × Json) × List Char)
  | 0, _ => none
  | fuel + 1, cs =>
    match skipBlanks cs with
    | '"' :: cs => do
      let (name, cs) ← scanText cs
      match skipBlanks cs with
      | ':' :: cs => do
        let (value, cs) ← readValue fuel cs
        match skipBlanks cs with
        | ',' :: cs => (readMembers fuel cs).map fun (members, cs) => ((name, value) :: members, cs)
        | '\x7d' :: cs => some ([(name, value)], cs)
        | _ => none
      | _ => none
    | _ => none

end

def read? (s : String) : Option Json := do
  let cs := s.toList
  let (document, rest) ← readValue (2 * cs.length + 2) cs
  guard (skipBlanks rest = [])
  some document

end Listing.Json
