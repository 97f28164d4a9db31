import Listing.Binary64.Basic
import Listing.Instant.Basic
import Listing.Text.Case
import Listing.Uuid

/-!
# Values

What a record member holds and what a filter compares it with. There are two comparisons. `compare?`
decides the filters: it orders values of one kind, integers and floats together, and leaves all other
pairs unordered. `sortOrder` decides the order of rows: it extends `compare?` to all pairs, nulls in
front.
-/

namespace Listing

structure EnumMember where
  ordinal : Int64
  name : String
  deriving DecidableEq

inductive Value where
  | null
  | bool (b : Bool)
  | int (n : Int64)
  | float (x : Binary64)
  | text (s : String)
  | instant (t : Instant)
  | uuid (id : Uuid)
  | member (m : EnumMember)
  | list (items : List Value)

namespace Value

def isNull : Value → Bool
  | .null => true
  | _ => false

def widen (n : Int64) : Binary64 := .ofInt n.toInt

mutual

def equal : Value → Value → Bool
  | .null, .null => true
  | .bool a, .bool b => a == b
  | .int a, .int b => a == b
  | .float a, .float b => a.equal b
  | .text a, .text b => a == b
  | .instant a, .instant b => a == b
  | .uuid a, .uuid b => a == b
  | .member a, .member b => a.ordinal == b.ordinal
  | .list as, .list bs => equalItems as bs
  | _, _ => false

def equalItems : List Value → List Value → Bool
  | [], [] => true
  | a :: as, b :: bs => equal a b && equalItems as bs
  | _, _ => false

end

def looseEqual : Value → Value → Bool
  | .int a, .float b => (widen a).equal b
  | .float a, .int b => a.equal (widen b)
  | a, b => equal a b

def compare? : Value → Value → Option Ordering
  | .bool a, .bool b => some (compare a b)
  | .int a, .int b => some (compare a.toInt b.toInt)
  | .float a, .float b => a.compare? b
  | .int a, .float b => (widen a).compare? b
  | .float a, .int b => a.compare? (widen b)
  | .text a, .text b => some (compare a b)
  | .instant a, .instant b => some (a.order b)
  | .uuid a, .uuid b => some (a.order b)
  | .member a, .member b => some (compare a.ordinal.toInt b.ordinal.toInt)
  | _, _ => none

def rank : Value → Nat
  | .null => 0
  | .bool _ => 1
  | .int _ => 2
  | .float _ => 2
  | .text _ => 3
  | .instant _ => 4
  | .uuid _ => 5
  | .member _ => 6
  | .list _ => 7

mutual

/-- The order of rows by a key: floats by their patterns, lists item by item, all else by `compare?`
or, where that is undefined, by kind. -/
def sortOrder : Value → Value → Ordering
  | .float a, .float b => a.totalOrder b
  | .list as, .list bs => sortOrderItems as bs
  | a, b => (compare? a b).getD (compare a.rank b.rank)

def sortOrderItems : List Value → List Value → Ordering
  | [], [] => .eq
  | [], _ :: _ => .lt
  | _ :: _, [] => .gt
  | a :: as, b :: bs => (sortOrder a b).then (sortOrderItems as bs)

end

def textContains : Value → Value → Bool
  | .text s, .text needle => Text.contains needle.toList s.toList
  | _, _ => false

def listContains : Value → Value → Bool
  | .list items, needle => items.any (looseEqual · needle)
  | _, _ => false

end Value

end Listing
