namespace Listing

inductive Json where
  | null
  | bool (b : Bool)
  | number (literal : List Char)
  | text (literal : List Char)
  | array (items : List Json)
  | object (members : List (List Char × Json))
  deriving Inhabited

namespace Json

def writeText (literal rest : List Char) : List Char := '"' :: (literal ++ '"' :: rest)

mutual

def write : Json → List Char → List Char
  | .null, rest => 'n' :: 'u' :: 'l' :: 'l' :: rest
  | .bool true, rest => 't' :: 'r' :: 'u' :: 'e' :: rest
  | .bool false, rest => 'f' :: 'a' :: 'l' :: 's' :: 'e' :: rest
  | .number literal, rest => literal ++ rest
  | .text literal, rest => writeText literal rest
  | .array [], rest => '[' :: ']' :: rest
  | .array (j :: js), rest => '[' :: write j (writeItems js (']' :: rest))
  | .object [], rest => '\x7b' :: '\x7d' :: rest
  | .object (m :: ms), rest => '\x7b' :: writeMember m (writeMembers ms ('\x7d' :: rest))

def writeItems : List Json → List Char → List Char
  | [], rest => rest
  | j :: js, rest => ',' :: write j (writeItems js rest)

def writeMember : List Char × Json → List Char → List Char
  | (name, j), rest => writeText name (':' :: write j rest)

def writeMembers : List (List Char × Json) → List Char → List Char
  | [], rest => rest
  | m :: ms, rest => ',' :: writeMember m (writeMembers ms rest)

end

def print (j : Json) : String := String.ofList (j.write [])

end Json

end Listing
