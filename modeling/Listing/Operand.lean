import Listing.Json.Number

namespace Listing

inductive Operand where
  | null
  | bool (b : Bool)
  | int (n : Int64)
  | float (x : Binary64)
  | string (s : String)
  | array (items : List Operand)
  deriving Inhabited

namespace Operand

def isNull : Operand → Bool
  | .null => true
  | _ => false

def kindName : Operand → String
  | .null => "null"
  | .bool _ => "bool"
  | .int _ => "int"
  | .float _ => "float"
  | .string _ => "string"
  | .array _ => "array"

mutual

def alike : Operand → Operand → Bool
  | .null, .null => true
  | .bool a, .bool b => a == b
  | .int a, .int b => a == b
  | .float a, .float b => a.alike b
  | .string a, .string b => a == b
  | .array as, .array bs => alikeItems as bs
  | _, _ => false

def alikeItems : List Operand → List Operand → Bool
  | [], [] => true
  | a :: as, b :: bs => alike a b && alikeItems as bs
  | _, _ => false

end

instance : BEq Operand := ⟨alike⟩

mutual

def toJson (format : NumberFormat) : Operand → Json
  | .null => .null
  | .bool b => .bool b
  | .int n => .ofInt n.toInt
  | .float x => .ofFloat format x
  | .string s => .ofString s
  | .array items => .array (toJsonItems format items)

def toJsonItems (format : NumberFormat) : List Operand → List Json
  | [] => []
  | item :: items => toJson format item :: toJsonItems format items

end

def print (o : Operand) : String := (o.toJson .scaled).print

end Operand

end Listing
