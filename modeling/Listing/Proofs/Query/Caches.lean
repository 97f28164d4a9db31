import Listing.Query.Builder
import Listing.Proofs.Compile.Fetch

/-!
# What builders do to caches

Whatever a builder is asked to do, it fetches terms or clears its caches (`Task.fetches_or_clears`). The
caches that a scope can come to are those that are reached from empty ones as tasks are done and entries
get lost. An entry that is lost in the middle of a task is lost between two fetches.
-/

namespace Listing

inductive Task where
  | fetchFilter (term : FilterTerm)
  | fetchSort (term : SortTerm)
  | pullFilters (count : Nat) (terms : List FilterTerm)
  | pullSorts (count : Nat) (terms : List SortTerm)
  | build {Q : Type} [Handle Q] (source : Q) (request : Request) (page size : Nat)
  | buildWithReport {Q : Type} [Handle Q] (source : Q) (request : Request) (page size : Nat)
  | clear

def Task.run (b : Builder) (caches : Caches) : Task → Caches
  | .fetchFilter term =>
    { caches with filters := (b.scope.filters.fetch caches.filters term).cache }
  | .fetchSort term => { caches with sorts := (b.scope.sorts.fetch caches.sorts term).cache }
  | .pullFilters count terms =>
    { caches with filters := (b.scope.filters.pull caches.filters count terms).cache }
  | .pullSorts count terms =>
    { caches with sorts := (b.scope.sorts.pull caches.sorts count terms).cache }
  | @build _ _ source request page size => (b.build caches source request page size).caches
  | @buildWithReport _ _ source request page size =>
    (b.buildWithReport caches source request page size).caches
  | .clear => caches.clear

namespace Caches

def Fetches (s : Scope) (before after : Caches) : Prop :=
  s.filters.Fetches before.filters after.filters ∧ s.sorts.Fetches before.sorts after.sorts

def Loses (before after : Caches) : Prop :=
  before.filters.Loses after.filters ∧ before.sorts.Loses after.sorts

theorem loses_clear (caches : Caches) : caches.Loses caches.clear :=
  ⟨Cache.loses_clear _, Cache.loses_clear _⟩

inductive Reached (s : Scope) : Caches → Prop
  | empty (bound : Option Nat) : Reached s (.empty bound)
  | work {config : Config} {caches : Caches} (task : Task) :
      Reached s caches → Reached s (task.run ⟨s, config⟩ caches)
  | lose {before after : Caches} : Reached s before → before.Loses after → Reached s after

end Caches

namespace Builder

theorem fetches_applyAll {Q K V : Type} [BEq K] (c : Compiler K V) (kind : TermKind)
    (path : K → String) (apply : Nat → Q → V → Q) (index : Nat) (account : Account Q)
    (cache : Cache K (Compiled V)) (terms : List K) :
    c.Fetches cache (applyAll c kind path apply index account cache terms).cache := by
  induction terms generalizing index account cache with
  | nil => exact .refl
  | cons term terms ih => exact (Compiler.fetches_attempt cache term).trans (ih _ _ _)

variable {Q : Type} [Handle Q] (b : Builder) (caches : Caches) (source : Q) (request : Request)
  (page size : Nat)

theorem fetches_build :
    Caches.Fetches b.scope caches (b.build caches source request page size).caches :=
  ⟨Compiler.fetches_drain _ _, Compiler.fetches_drain _ _⟩

theorem fetches_buildWithReport :
    Caches.Fetches b.scope caches (b.buildWithReport caches source request page size).caches :=
  ⟨fetches_applyAll .., fetches_applyAll ..⟩

end Builder

theorem Task.fetches_or_clears (b : Builder) (caches : Caches) (task : Task) :
    Caches.Fetches b.scope caches (task.run b caches) ∨ task.run b caches = caches.clear := by
  cases task with
  | fetchFilter term => exact .inl ⟨Compiler.fetches_fetch _ term, .refl⟩
  | fetchSort term => exact .inl ⟨.refl, Compiler.fetches_fetch _ term⟩
  | pullFilters count terms => exact .inl ⟨Compiler.fetches_pull _ count terms, .refl⟩
  | pullSorts count terms => exact .inl ⟨.refl, Compiler.fetches_pull _ count terms⟩
  | build source request page size => exact .inl (b.fetches_build caches source request page size)
  | buildWithReport source request page size =>
    exact .inl (b.fetches_buildWithReport caches source request page size)
  | clear => exact .inr rfl

end Listing
