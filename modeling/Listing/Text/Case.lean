import Listing.Text.CaseData

namespace Listing.Text

def CaseRun.contains (run : CaseRun) (n : Nat) : Bool :=
  run.first ≤ n && n ≤ run.last && (n - run.first) % run.step == 0

def lowerChar (c : Char) : List Char :=
  if c = 'İ' then ['i', '\u0307']
  else match lowerRuns.find? (·.contains c.toNat) with
    | some run => [Char.ofNat (c.toNat + run.offset).toNat]
    | none => [c]

def isCased (c : Char) : Bool := inRanges casedRanges c.toNat

def isCaseIgnorable (c : Char) : Bool := inRanges caseIgnorableRanges c.toNat

def meetsCased (cs : List Char) : Bool :=
  match cs.dropWhile isCaseIgnorable with
  | c :: _ => isCased c
  | [] => false

def lowerAfter (before : List Char) : List Char → List Char
  | [] => []
  | c :: after =>
    let image :=
      if c = 'Σ' then [if meetsCased before && !meetsCased after then 'ς' else 'σ']
      else lowerChar c
    image ++ lowerAfter (c :: before) after

/-- Full lower case, with the final form of sigma at the end of a word. -/
def lowercase (s : String) : String := String.ofList (lowerAfter [] s.toList)

def lowerAscii (cs : List Char) : List Char := cs.map Char.toLower

def sameIgnoringCase (a b : List Char) : Bool := lowerAscii a == lowerAscii b

def contains (needle : List Char) : List Char → Bool
  | [] => needle.isEmpty
  | c :: rest => needle.isPrefixOf (c :: rest) || contains needle rest

end Listing.Text
