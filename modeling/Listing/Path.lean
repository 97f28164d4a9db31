import Listing.CompileError
import Listing.Request.Basic
import Listing.Schema.Basic

namespace Listing

structure Step where
  member : String
  type : FieldType
  deriving DecidableEq

structure Path where
  record : String
  parents : List Step
  leaf : Step
  deriving DecidableEq

inductive Node where
  | value (v : Value)
  | record (members : List (String × Node))

abbrev Record := List (String × Node)

namespace Path

def steps (p : Path) : List Step := p.parents ++ [p.leaf]

def print (p : Path) : String := Dotted.join p.record (p.steps.map (·.member))

def member (schema : Schema) (name : String) : Except CompileError Step :=
  match schema.member? name with
  | some m => .ok ⟨m.name, m.type⟩
  | none => .error (.unknownProperty schema.name name)

def nestedMember (catalog : Catalog) (parent : FieldType) (name : String) :
    Except CompileError Step :=
  match parent.record? with
  | some r => member (catalog.schema r) name
  | none => .error (.unknownProperty "<scalar>" name)

def follow (catalog : Catalog) (step : Step) : List String → Except CompileError (List Step × Step)
  | [] => .ok ([], step)
  | name :: names => do
    let next ← nestedMember catalog step.type name
    let (parents, leaf) ← follow catalog next names
    .ok (step :: parents, leaf)

def resolve (catalog : Catalog) (schema : Schema) (property : String) (nested : List String) :
    Except CompileError Path := do
  let first ← member schema property
  let (parents, leaf) ← follow catalog first nested
  .ok ⟨schema.name, parents, leaf⟩

/-- The value at the end of the way; null where the record does not go along. -/
def readFrom (record : Record) (leaf : Step) : List Step → Value
  | [] =>
    match record.lookup leaf.member with
    | some (.value v) => v
    | _ => .null
  | parent :: parents =>
    match record.lookup parent.member with
    | some (.record members) => readFrom members leaf parents
    | _ => .null

def read (p : Path) (record : Record) : Value := readFrom record p.leaf p.parents

end Path

end Listing
