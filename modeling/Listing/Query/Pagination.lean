import Listing.Query.Basic

namespace Listing

structure Config where
  defaultPage : Nat
  defaultSize : Nat
  maxPageSize : Option Nat
  cacheCapacity : Option Nat
  deriving DecidableEq

def Config.default : Config := ⟨1, 100, none, none⟩

structure Pagination where
  page : Nat
  size : Nat
  deriving DecidableEq

namespace Pagination

def positive? (n : Option Int64) : Option Nat :=
  n.bind fun n => if 0 < n.toInt then some n.toInt.toNat else none

/-- The numbers that are given and positive, or else the defaults; the size is cut off at its limit. -/
def resolve (page size : Option Int64) (defaultPage defaultSize : Nat) (maxSize : Option Nat) :
    Pagination :=
  let size := (positive? size).getD defaultSize
  ⟨max 1 ((positive? page).getD defaultPage), match maxSize with | some m => min size m | none => size⟩

def skip (p : Pagination) : Nat := min maxCount ((p.page - 1) * p.size)

def take (p : Pagination) : Nat := p.size

end Pagination

def Query.toPage {α : Type} [Row α] (q : Query α) (p : Pagination) : Page α :=
  .of q.fetch p.page p.size q.total

end Listing
