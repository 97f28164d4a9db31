import Listing.Value.Basic

namespace Listing

structure EnumType where
  name : String
  members : List EnumMember
  deriving DecidableEq

namespace EnumType

def byName? (e : EnumType) (name : List Char) : Option EnumMember :=
  e.members.find? fun m => Text.sameIgnoringCase m.name.toList name

def byOrdinal? (e : EnumType) (ordinal : Int64) : Option EnumMember :=
  e.members.find? (·.ordinal == ordinal)

def value (e : EnumType) (ordinal : Int64) : Value :=
  match e.byOrdinal? ordinal with
  | some m => .member m
  | none => .null

end EnumType

/-- A record type: `id` is its place in the catalog, and other record types may share its name. -/
structure RecordType where
  id : Nat
  name : String
  deriving DecidableEq

inductive FieldType where
  | bool
  | int
  | float
  | text
  | instant
  | uuid
  | enum (type : EnumType)
  | optional (inner : FieldType)
  | list (element : FieldType)
  | record (type : RecordType)
  deriving DecidableEq

namespace FieldType

def strip : FieldType → FieldType
  | .optional inner => inner.strip
  | type => type

def isOptional : FieldType → Bool
  | .optional _ => true
  | _ => false

def element? (type : FieldType) : Option FieldType :=
  match type.strip with
  | .list element => some element
  | _ => none

def record? (type : FieldType) : Option RecordType :=
  match type.strip with
  | .record r => some r
  | _ => none

def isScalar (type : FieldType) : Bool :=
  match type.strip with
  | .list _ => false
  | .record _ => false
  | _ => true

def isOrderable (type : FieldType) : Bool :=
  match type.strip with
  | .int => true
  | .float => true
  | .text => true
  | .instant => true
  | .enum _ => true
  | _ => false

def isNumeric (type : FieldType) : Bool :=
  match type.strip with
  | .int => true
  | .float => true
  | _ => false

def same : FieldType → FieldType → Bool
  | .bool, .bool => true
  | .int, .int => true
  | .float, .float => true
  | .text, .text => true
  | .instant, .instant => true
  | .uuid, .uuid => true
  | .enum a, .enum b => a.name == b.name
  | .optional a, .optional b => same a b
  | .list a, .list b => same a b
  | .record a, .record b => a.name == b.name
  | _, _ => false

def compatible (a b : FieldType) : Bool :=
  a.isNumeric && b.isNumeric || same a.strip b.strip

def print : FieldType → String
  | .bool => "bool"
  | .int => "int"
  | .float => "float"
  | .text => "text"
  | .instant => "datetime"
  | .uuid => "uuid"
  | .enum e => "enum " ++ e.name
  | .optional inner => "optional<" ++ inner.print ++ ">"
  | .list element => "list<" ++ element.print ++ ">"
  | .record r => "record " ++ r.name

end FieldType

end Listing
