import Listing.Predicate
import Listing.Request.Page
import Listing.SortKey

namespace Listing

def maxCount : Nat := 0xffffffffffffffff

class Handle (Q : Type) where
  filter : Q → Predicate → Q
  orderBy : Q → SortKey → Q
  thenBy : Q → SortKey → Q
  skip : Q → Nat → Q
  take : Q → Nat → Q

class Row (α : Type) where
  record : α → Record

instance : Row Record := ⟨id⟩

def insertFromEnd {α : Type} (order : α → α → Ordering) (x : α) : List α → List α
  | [] => [x]
  | y :: ys => if order x y = .lt then y :: insertFromEnd order x ys else x :: y :: ys

/-- Sorting that keeps rows in order which compare equal: the rows are entered one by one, each behind
the last row entered that it is not less than. -/
def stableSort {α : Type} (order : α → α → Ordering) (xs : List α) : List α :=
  (xs.foldl (fun sorted x => insertFromEnd order x sorted) []).reverse

structure Query (α : Type) where
  source : List α
  predicates : List Predicate
  keys : List SortKey
  skipped : Nat
  limit : Option Nat

namespace Query

variable {α : Type}

def ofRows (source : List α) : Query α := ⟨source, [], [], 0, none⟩

instance : Handle (Query α) where
  filter q p := { q with predicates := q.predicates ++ [p] }
  orderBy q k := { q with keys := [k] }
  thenBy q k := { q with keys := q.keys ++ [k] }
  skip q n :=
    { q with skipped := min maxCount (q.skipped + n), limit := q.limit.map (· - n) }
  take q n := { q with limit := some (match q.limit with | some m => min m n | none => n) }

variable [Row α]

def passes (q : Query α) (row : α) : Bool := q.predicates.all (·.eval (Row.record row))

def order (q : Query α) (a b : α) : Ordering :=
  q.keys.foldr (fun k rest => (k.compare (Row.record a) (Row.record b)).then rest) .eq

def sorted (q : Query α) : List α :=
  let rows := q.source.filter q.passes
  if q.keys.isEmpty then rows else stableSort q.order rows

def fetch (q : Query α) : List α :=
  let rows := q.sorted.drop q.skipped
  match q.limit with
  | some n => rows.take n
  | none => rows

def total (q : Query α) : Nat := (q.source.filter q.passes).length

end Query

end Listing
