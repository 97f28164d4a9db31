import Listing.Engine.Memory

/-!
# The registry of record types

A record type is registered before it is queried, and from then on has caches of its own. A type is
refused if it, or a record type found in it, has no members. The search enters every name of a schema
once, so that it ends although record types may refer to each other in circles.
-/

namespace Listing

inductive RegistrationError where
  | emptySchema (record : String)
  | notRegistered (record : String)
  deriving DecidableEq

def RegistrationError.message : RegistrationError → String
  | .emptySchema record => "record type " ++ record ++ " has no members"
  | .notRegistered record => "record type " ++ record ++ " is not registered"

def FieldType.held? (type : FieldType) : Option RecordType :=
  type.record? <|> type.element?.bind (·.record?)

def Schema.held (s : Schema) : List RecordType := s.members.filterMap (·.type.held?)

namespace Catalog

def without (name : String) (names : List String) : List String := names.filter (· != name)

theorem length_without_lt {name : String} {names : List String} (h : name ∈ names) :
    (without name names).length < names.length :=
  List.length_filter_lt_length_iff_exists.mpr ⟨name, h, by simp⟩

/-- Searches the pending record types, and those found in them, for one without members. Only names
among the fresh ones are still to be entered. -/
def survey (catalog : Catalog) (fresh : List String) :
    List RecordType → Except RegistrationError Unit
  | [] => .ok ()
  | r :: pending =>
    if _ : r.name ∈ fresh then
      let schema := catalog.schema r
      if schema.members.isEmpty then .error (.emptySchema r.name)
      else catalog.survey (without r.name fresh) (schema.held ++ pending)
    else catalog.survey fresh pending
termination_by pending => (fresh.length, pending.length)
decreasing_by
  · apply Prod.Lex.left
    exact length_without_lt ‹r.name ∈ fresh›
  · apply Prod.Lex.right
    simp

def namesFrom (catalog : Catalog) (root : RecordType) : List String :=
  root.name :: (catalog.members.flatten.filterMap (·.type.held?)).map (·.name)

def check (catalog : Catalog) (root : RecordType) : Except RegistrationError Unit :=
  catalog.survey (catalog.namesFrom root) [root]

end Catalog

structure Registry where
  capacity : Option Nat
  byType : List (RecordType × Place)
  /-- The names of the registered types, in the order of registration. -/
  order : List String
  memory : Memory

namespace Registry

def empty (capacity : Option Nat) : Registry := ⟨capacity, [], [], .empty⟩

def place? (r : Registry) (type : RecordType) : Option Place := r.byType.lookup type

def isRegistered (r : Registry) (type : RecordType) : Bool := (r.place? type).isSome

def place (r : Registry) (type : RecordType) : Except RegistrationError Place :=
  match r.place? type with
  | some place => .ok place
  | none => .error (.notRegistered type.name)

def find? (r : Registry) (type : RecordType) : Option Caches := (r.place? type).map r.memory.read

def caches (r : Registry) (type : RecordType) : Except RegistrationError Caches := do
  let place ← r.place type
  .ok (r.memory.read place)

def names (r : Registry) : List String := r.order

def add (r : Registry) (type : RecordType) : Registry :=
  let (place, memory) := r.memory.alloc (.empty r.capacity)
  { r with byType := (type, place) :: r.byType, order := r.order ++ [type.name], memory }

def register (r : Registry) (catalog : Catalog) (type : RecordType) :
    Except RegistrationError (Registry × List Event) := do
  catalog.check type
  if r.isRegistered type then .ok (r, [])
  else
    .ok (r.add type,
      [.registered type.name (catalog.schema type).members.length r.capacity.isSome])

def write (r : Registry) (place : Place) (caches : Caches) : Registry :=
  { r with memory := r.memory.write place caches }

def revise (r : Registry) (type : RecordType) (change : Caches → Caches) : Registry :=
  match r.place? type with
  | some place => r.write place (change (r.memory.read place))
  | none => r

def clear (r : Registry) (type : RecordType) : Registry := r.revise type Caches.clear

end Registry

end Listing
