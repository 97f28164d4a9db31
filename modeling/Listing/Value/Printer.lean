import Listing.Value.Basic
import Listing.Binary64.Layout
import Listing.Instant.Printer
import Listing.Text.Quoted

namespace Listing.Value

def kindName : Value → String
  | .null => "null"
  | .bool _ => "bool"
  | .int _ => "int"
  | .float _ => "float"
  | .text _ => "text"
  | .instant _ => "datetime"
  | .uuid _ => "uuid"
  | .member _ => "enum"
  | .list _ => "list"

def boolText (b : Bool) : String := if b then "true" else "false"

def bracketed (items : List String) : String := "[" ++ String.intercalate ", " items ++ "]"

mutual

def print : Value → String
  | .null => "null"
  | .bool b => boolText b
  | .int n => Integer.text n
  | .float x => Binary64.text .plain x
  | .text s => Text.quoted s
  | .instant t => String.ofList t.plainText
  | .uuid id => id.text
  | .member m => m.name
  | .list items => bracketed (printItems items)

def printItems : List Value → List String
  | [] => []
  | item :: items => print item :: printItems items

end

end Listing.Value
