/-!
# Caches

A cache maps keys to values under the equality of the keys and counts the look-ups that find an entry
and those that do not. A bounded cache may drop entries on its own at any time. Which ones is left open, so
that this is an operation apart (`keep`), and the others drop none: what they do to a cache in a row holds of
a bounded one as long as nothing is dropped in between.
-/

namespace Listing

structure CacheStats where
  entries : Nat
  hits : Nat
  misses : Nat
  deriving DecidableEq

structure Cache (K V : Type) where
  bound : Option Nat
  entries : List (K × V)
  hits : Nat
  misses : Nat

namespace Cache

variable {K V : Type}

def empty (bound : Option Nat) : Cache K V := ⟨bound.map (max 1), [], 0, 0⟩

def isBounded (c : Cache K V) : Bool := c.bound.isSome

def size (c : Cache K V) : Nat := c.entries.length

def stats (c : Cache K V) : CacheStats := ⟨c.size, c.hits, c.misses⟩

def clear (c : Cache K V) : Cache K V := { c with entries := [] }

/-- The cache with only the entries at some places left. -/
def keep (c : Cache K V) (keeps : Nat → Bool) : Cache K V :=
  { c with entries := (c.entries.zipIdx.filter (keeps ·.2)).map (·.1) }

variable [BEq K]

def find? (c : Cache K V) (key : K) : Option V := c.entries.lookup key

def get (c : Cache K V) (key : K) : Option V × Cache K V :=
  match c.find? key with
  | some value => (some value, { c with hits := c.hits + 1 })
  | none => (none, { c with misses := c.misses + 1 })

def replace (key : K) (value : V) : List (K × V) → List (K × V)
  | [] => [(key, value)]
  | (k, v) :: rest => if key == k then (k, value) :: rest else (k, v) :: replace key value rest

def insert (c : Cache K V) (key : K) (value : V) : Cache K V :=
  { c with entries := replace key value c.entries }

end Cache

end Listing
