import Listing.Operand
import Listing.Operator
import Listing.Text.Segments

namespace Listing

namespace Dotted

def split (path : String) : String × List String :=
  let (first, others) := Text.segments '.' path.toList
  (String.ofList first, others.map String.ofList)

def join (first : String) (others : List String) : String :=
  others.foldl (fun path step => path ++ "." ++ step) first

end Dotted

structure FilterTerm where
  property : String
  nested : List String
  operator : Operator
  operand : Operand

namespace FilterTerm

def ofPath (path : String) (operator : Operator) (operand : Operand) : FilterTerm :=
  ⟨(Dotted.split path).1, (Dotted.split path).2, operator, operand⟩

def path (t : FilterTerm) : String := Dotted.join t.property t.nested

def alike (s t : FilterTerm) : Bool :=
  s.property == t.property && s.nested == t.nested && s.operator == t.operator
    && s.operand == t.operand

instance : BEq FilterTerm := ⟨alike⟩

end FilterTerm

inductive Direction where
  | ascending
  | descending
  deriving DecidableEq

structure SortTerm where
  property : String
  nested : List String
  direction : Direction
  deriving DecidableEq

def SortTerm.path (t : SortTerm) : String := Dotted.join t.property t.nested

structure Request where
  filters : List FilterTerm
  sorters : List SortTerm
  page : Option Int64
  size : Option Int64

end Listing
