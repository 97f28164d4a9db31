import Listing.Compile.Compiler
import Listing.Query.Pagination

namespace Listing

structure Caches where
  filters : Cache FilterTerm (Compiled Predicate)
  sorts : Cache SortTerm (Compiled SortKey)

namespace Caches

def empty (bound : Option Nat) : Caches := ⟨.empty bound, .empty bound⟩

def clear (c : Caches) : Caches := ⟨c.filters.clear, c.sorts.clear⟩

def keep (c : Caches) (keepsFilter keepsSort : Nat → Bool) : Caches :=
  ⟨c.filters.keep keepsFilter, c.sorts.keep keepsSort⟩

end Caches

inductive TermKind where
  | filter
  | sort
  deriving DecidableEq

structure DroppedTerm where
  kind : TermKind
  index : Nat
  path : String
  error : CompileError

structure BuildReport where
  pagination : Pagination
  filtersApplied : Nat
  sortsApplied : Nat
  dropped : List DroppedTerm

namespace BuildReport

def droppedCount (r : BuildReport) (kind : TermKind) : Nat :=
  (r.dropped.filter (·.kind == kind)).length

def isComplete (r : BuildReport) : Bool := r.dropped.isEmpty

end BuildReport

structure Builder where
  scope : Scope
  config : Config

structure Built (α : Type) where
  result : α
  caches : Caches
  events : List Event

namespace Builder

variable {Q : Type} [Handle Q]

def pagination (b : Builder) (request : Request) (defaultPage defaultSize : Nat) : Pagination :=
  .resolve request.page request.size defaultPage defaultSize b.config.maxPageSize

def window (p : Pagination) (handle : Q) : Q := Handle.take (Handle.skip handle p.skip) p.take

def sortBy (handle : Q) : List SortKey → Q
  | [] => handle
  | primary :: others => others.foldl Handle.thenBy (Handle.orderBy handle primary)

def build (b : Builder) (caches : Caches) (source : Q) (request : Request)
    (defaultPage defaultSize : Nat) : Built Q :=
  let filters := b.scope.filters.drain caches.filters request.filters
  let sorts := b.scope.sorts.drain caches.sorts request.sorters
  let filtered := (filters.result.map (·.form)).foldl Handle.filter source
  let sorted := sortBy filtered (sorts.result.map (·.form))
  ⟨window (b.pagination request defaultPage defaultSize) sorted,
    ⟨filters.cache, sorts.cache⟩, filters.events ++ sorts.events⟩

def buildDefault (b : Builder) (caches : Caches) (source : Q) (request : Request) : Built Q :=
  b.build caches source request b.config.defaultPage b.config.defaultSize

structure Account (Q : Type) where
  handle : Q
  applied : Nat
  dropped : List DroppedTerm

def applyAll {K V : Type} [BEq K] (c : Compiler K V) (kind : TermKind) (path : K → String)
    (apply : Nat → Q → V → Q) (index : Nat) (account : Account Q)
    (cache : Cache K (Compiled V)) : List K → Run K V (Account Q)
  | [] => ⟨account, cache, []⟩
  | term :: terms =>
    let head := c.attempt cache term
    let account := match head.result with
      | .ok compiled =>
        { account with
          handle := apply account.applied account.handle compiled.form
          applied := account.applied + 1 }
      | .error error =>
        { account with dropped := account.dropped ++ [⟨kind, index, path term, error⟩] }
    let tail := applyAll c kind path apply (index + 1) account head.cache terms
    { tail with events := head.events ++ tail.events }

def buildWithReport (b : Builder) (caches : Caches) (source : Q) (request : Request)
    (defaultPage defaultSize : Nat) : Built (Q × BuildReport) :=
  let filters := applyAll b.scope.filters .filter FilterTerm.path
    (fun _ handle p => Handle.filter handle p) 0 ⟨source, 0, []⟩ caches.filters request.filters
  let sorts := applyAll b.scope.sorts .sort SortTerm.path
    (fun before handle k => if before = 0 then Handle.orderBy handle k else Handle.thenBy handle k)
    0 ⟨filters.result.handle, 0, []⟩ caches.sorts request.sorters
  let pagination := b.pagination request defaultPage defaultSize
  let report : BuildReport :=
    ⟨pagination, filters.result.applied, sorts.result.applied,
      filters.result.dropped ++ sorts.result.dropped⟩
  ⟨(window pagination sorts.result.handle, report),
    ⟨filters.cache, sorts.cache⟩, filters.events ++ sorts.events⟩

end Builder

end Listing
