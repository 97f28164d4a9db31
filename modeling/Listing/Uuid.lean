import Listing.Integer
import Listing.Text.Segments

namespace Listing

structure Uuid where
  value : BitVec 128
  deriving DecidableEq

namespace Uuid

def order (a b : Uuid) : Ordering := compare a.value.toNat b.value.toNat

def groups : List Nat := [8, 4, 4, 4, 12]

def hyphenate : List Nat → List Char → List Char
  | [], _ => []
  | [size], cs => cs.take size
  | size :: sizes, cs => cs.take size ++ '-' :: hyphenate sizes (cs.drop size)

def digits (id : Uuid) : List Char :=
  let run := Nat.toDigits 16 id.value.toNat
  List.replicate (32 - run.length) '0' ++ run

def write (id : Uuid) : List Char := hyphenate groups id.digits

def text (id : Uuid) : String := String.ofList id.write

def hexDigit? (c : Char) : Option Nat :=
  if c.isDigit then some (c.toNat - '0'.toNat)
  else if 'a' ≤ c.toLower ∧ c.toLower ≤ 'f' then some (c.toLower.toNat - 'a'.toNat + 10)
  else none

def ofDigits? (cs : List Char) : Option Uuid :=
  if cs.length = 32 then
    (cs.mapM hexDigit?).map fun ds => ⟨BitVec.ofNat 128 (ds.foldl (fun n d => 16 * n + d) 0)⟩
  else none

def joinGroups? : List Nat → List Char → Option (List Char)
  | [], cs => if cs = [] then some [] else none
  | [size], cs => if cs.length = size then some cs else none
  | size :: sizes, cs =>
    match cs.drop size with
    | '-' :: rest => (joinGroups? sizes rest).map (cs.take size ++ ·)
    | _ => none

def ofHyphenated? (cs : List Char) : Option Uuid := (joinGroups? groups cs).bind ofDigits?

def namespaceMark : List Char := ['u', 'r', 'n', ':', 'u', 'u', 'i', 'd', ':']

def ofBraced? : List Char → Option Uuid
  | '\x7b' :: cs => if cs.getLast? = some '\x7d' then ofHyphenated? cs.dropLast else none
  | _ => none

def ofNamed? (cs : List Char) : Option Uuid :=
  if (cs.take 9).map Char.toLower = namespaceMark then ofHyphenated? (cs.drop 9) else none

def read? (cs : List Char) : Option Uuid :=
  ofDigits? cs <|> ofHyphenated? cs <|> ofBraced? cs <|> ofNamed? cs

inductive Fault where
  | character (c : Char) (index : Nat)
  | length (found : Nat)
  | groupCount (found : Nat)
  | groupLength (group expected found : Nat)
  deriving DecidableEq

def unwrap (cs : List Char) : List Char × Nat :=
  if cs.head? = some '\x7b' ∧ cs.getLast? = some '\x7d' then (cs.tail.dropLast, 1)
  else if (cs.take 9).map Char.toLower = namespaceMark then (cs.drop 9, 9)
  else (cs, 0)

def byteCount (cs : List Char) : Nat := (String.ofList cs).utf8ByteSize

def hyphenatedLength : Nat := 36

def maxLength : Nat := 45

structure Subject where
  body : List Char
  before : Nat
  length : Nat

/-- A text as long as the hyphenated form is taken as it stands, and so is what is between braces or
behind the mark if it is that long: a brace or a mark in it is a character of no use. Of any other text
the braces or the mark are left out, but count for positions and lengths. -/
def subject (cs : List Char) : Subject :=
  let (body, before) := unwrap cs
  if byteCount cs = hyphenatedLength then ⟨cs, 0, cs.length⟩
  else if byteCount body = hyphenatedLength then ⟨body, 0, body.length⟩
  else ⟨body, before, cs.length⟩

/-- The fault of five groups, none of which has a character of no use. The last group is measured
from where it starts in the hyphenated form to the end of the subject, whatever is around it. -/
def groupFault (groups : List (List Char)) (subjectLength : Nat) : Fault :=
  let short := ((Uuid.groups.zip groups).take 4).zipIdx.findSome? fun ((size, group), i) =>
    if group.length = size then none else some (Fault.groupLength i size group.length)
  short.getD (.groupLength 4 12 (subjectLength - 24))

def fault (cs : List Char) : Fault :=
  if maxLength < byteCount cs then .length (byteCount cs)
  else
    let subject := subject cs
    match subject.body.zipIdx.find? fun (c, _) => (hexDigit? c).isNone && c != '-' with
    | some (c, i) => .character c (subject.before + i)
    | none =>
      let (first, others) := Text.segments '-' subject.body
      if others.isEmpty && subject.before == 0 && subject.length != hyphenatedLength then
        .length subject.length
      else if others.length = 4 then groupFault (first :: others) subject.length
      else .groupCount (others.length + 1)

def Fault.message : Fault → String
  | .character c index =>
    "invalid character: found " ++ String.ofList ['\x60', c, '\x60'] ++ " at "
      ++ String.ofList (Integer.decimal index)
  | .length found => "invalid length: found " ++ String.ofList (Integer.decimal found)
  | .groupCount found =>
    "invalid group count: expected 5, found " ++ String.ofList (Integer.decimal found)
  | .groupLength group expected found =>
    "invalid group length in group " ++ String.ofList (Integer.decimal group) ++ ": expected "
      ++ String.ofList (Integer.decimal expected) ++ ", found "
      ++ String.ofList (Integer.decimal found)

end Uuid

end Listing
