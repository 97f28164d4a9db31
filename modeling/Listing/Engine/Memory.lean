import Listing.Query.Builder

namespace Listing

structure Place where
  filters : Nat
  sorts : Nat

/-- The cells of all caches. All who hold a place work on the same two cells. -/
structure Memory where
  filters : List (Cache FilterTerm (Compiled Predicate))
  sorts : List (Cache SortTerm (Compiled SortKey))

namespace Memory

def empty : Memory := ⟨[], []⟩

def read (m : Memory) (place : Place) : Caches :=
  ⟨m.filters.getD place.filters (.empty none), m.sorts.getD place.sorts (.empty none)⟩

def write (m : Memory) (place : Place) (caches : Caches) : Memory :=
  ⟨m.filters.set place.filters caches.filters, m.sorts.set place.sorts caches.sorts⟩

def alloc (m : Memory) (caches : Caches) : Place × Memory :=
  (⟨m.filters.length, m.sorts.length⟩, ⟨m.filters ++ [caches.filters], m.sorts ++ [caches.sorts]⟩)

end Memory

end Listing
