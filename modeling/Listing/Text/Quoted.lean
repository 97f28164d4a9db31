import Listing.Text.Visible

namespace Listing.Text

-- letters without a visible form
def fillers : List Char := ['\u115f', '\u1160', '\u3164', '\uffa0']

-- letters that follow the letter they modify in a place of their own
def soundMarks : List Char := ['\uff9e', '\uff9f']

def isInvisible (c : Char) : Bool := inRanges invisibleRanges c.toNat || fillers.contains c

def isExtending (c : Char) : Bool := inRanges extendingRanges c.toNat && !soundMarks.contains c

def codePointEscape (c : Char) : List Char :=
  ['\\', 'u', '\x7b'] ++ Nat.toDigits 16 c.toNat ++ ['\x7d']

def quotedChar (c : Char) : List Char :=
  match c with
  | '\x00' => ['\\', '0']
  | '\t' => ['\\', 't']
  | '\n' => ['\\', 'n']
  | '\r' => ['\\', 'r']
  | '"' => ['\\', '"']
  | '\\' => ['\\', '\\']
  | c => if isExtending c || isInvisible c then codePointEscape c else [c]

def quoted (s : String) : String :=
  String.ofList ('"' :: (s.toList.flatMap quotedChar ++ ['"']))

end Listing.Text
