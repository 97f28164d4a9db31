import Listing.Schema.FieldType

namespace Listing

structure Member where
  name : String
  aliases : List String
  type : FieldType
  deriving DecidableEq

structure Schema where
  name : String
  members : List Member
  deriving DecidableEq

namespace Schema

abbrev Spellings := List (String × Nat)

def enter (table : Spellings) (text : String) (position : Nat) : Spellings :=
  if (table.lookup text).isSome then table else table ++ [(text, position)]

def spellings (fold : String → String) (members : List Member) : Spellings :=
  let named := members.zipIdx.foldl (fun table (m, i) => enter table (fold m.name) i) []
  members.zipIdx.foldl
    (fun table (m, i) => m.aliases.foldl (fun table a => enter table (fold a) i) table) named

/-- The position of the member a text stands for: by its exact name before any other spelling. -/
def position? (fold : String → String) (s : Schema) (text : String) : Option Nat :=
  match s.members.findIdx? (·.name == text) with
  | some i => some i
  | none => (spellings fold s.members).lookup (fold text)

def member? (s : Schema) (text : String) : Option Member :=
  (s.position? Text.lowercase text).bind (s.members[·]?)

end Schema

/-- The members of all record types, by the identity of the type. -/
structure Catalog where
  members : List (List Member)

def Catalog.schema (catalog : Catalog) (type : RecordType) : Schema :=
  ⟨type.name, catalog.members.getD type.id []⟩

end Listing
