import Listing.Proofs.Compile.Accounting
import Listing.Proofs.Query.Caches
import Listing.Proofs.Query.Report

namespace Listing

namespace Task

def filterUses (b : Builder) (caches : Caches) : Task → List (Use FilterTerm)
  | .fetchFilter term => [.fetch term]
  | .pullFilters count terms => (b.scope.filters.looked caches.filters count terms).map .fetch
  | @build _ _ _ request _ _ => request.filters.map .fetch
  | @buildWithReport _ _ _ request _ _ => request.filters.map .fetch
  | .clear => [.clear]
  | _ => []

def sortUses (b : Builder) (caches : Caches) : Task → List (Use SortTerm)
  | .fetchSort term => [.fetch term]
  | .pullSorts count terms => (b.scope.sorts.looked caches.sorts count terms).map .fetch
  | @build _ _ _ request _ _ => request.sorters.map .fetch
  | @buildWithReport _ _ _ request _ _ => request.sorters.map .fetch
  | .clear => [.clear]
  | _ => []

def history {K : Type} (uses : Builder → Caches → Task → List (Use K)) (b : Builder) :
    Caches → List Task → List (Use K)
  | _, [] => []
  | caches, task :: tasks => uses b caches task ++ history uses b (task.run b caches) tasks

end Task

namespace Compiler

variable {K V : Type} [BEq K] {c : Compiler K V} {history : List (Use K)} {cache : Cache K (Compiled V)}

theorem foldl_use_fetch (cache : Cache K (Compiled V)) (terms : List K) :
    (terms.map Use.fetch).foldl c.use cache = (c.fetchAll cache terms).cache := by
  induction terms generalizing cache with
  | nil => rfl
  | cons term terms ih => exact ih _

structure Balanced (c : Compiler K V) (history : List (Use K)) (cache : Cache K (Compiled V)) : Prop where
  hits : cache.stats.hits = Use.tally c.isHit history
  misses : cache.stats.misses = Use.tally c.isMiss history
  entries : cache.stats.entries = (c.known history).eraseDups.length
  total : cache.stats.hits + cache.stats.misses = history.countP Use.isFetch
  failure {term : K} {e : CompileError} : (c.fetch cache term).result = .error e →
    (c.fetch cache term).cache = { cache with misses := cache.misses + 1 }
  clear : cache.clear.stats = ⟨0, cache.hits, cache.misses⟩
  nothing (count : Nat) : (c.pull cache count []).cache = cache

theorem fetch_of_error {term : K} {e : CompileError} (h : (c.fetch cache term).result = .error e) :
    (c.fetch cache term).cache = { cache with misses := cache.misses + 1 } := by
  obtain ⟨compiled, -, result, -⟩ | ⟨compiled, -, -, result, -⟩ | ⟨e', missed, fails, -, -⟩ :=
    c.fetch_cases cache term
  · rw [result] at h
    cases h
  · rw [result] at h
    cases h
  · rw [fetch_of_failed missed fails]

theorem Accounted.balanced (h : Accounted c history cache) : Balanced c history cache where
  hits := h.hits
  misses := h.misses
  entries := by rw [← h.keys, List.length_map]; rfl
  total := (congrArg₂ _ h.hits h.misses).trans (c.tally_hits_add_misses history)
  failure := fetch_of_error
  clear := rfl
  nothing count := by cases count <;> rfl

end Compiler

namespace Task

theorem run_filters (b : Builder) (caches : Caches) (task : Task) : (task.run b caches).filters =
    (task.filterUses b caches).foldl b.scope.filters.use caches.filters := by
  cases task with
  | pullFilters count terms =>
    exact (b.scope.filters.pull_cache caches.filters count terms).trans
      (Compiler.foldl_use_fetch caches.filters _).symm
  | build source request page size =>
    exact (Compiler.drain_eq caches.filters request.filters).2.trans
      (Compiler.foldl_use_fetch caches.filters request.filters).symm
  | buildWithReport source request page size =>
    exact (Builder.applyAll_cache ..).trans
      (Compiler.foldl_use_fetch caches.filters request.filters).symm
  | _ => rfl

theorem run_sorts (b : Builder) (caches : Caches) (task : Task) : (task.run b caches).sorts =
    (task.sortUses b caches).foldl b.scope.sorts.use caches.sorts := by
  cases task with
  | pullSorts count terms =>
    exact (b.scope.sorts.pull_cache caches.sorts count terms).trans
      (Compiler.foldl_use_fetch caches.sorts _).symm
  | build source request page size =>
    exact (Compiler.drain_eq caches.sorts request.sorters).2.trans
      (Compiler.foldl_use_fetch caches.sorts request.sorters).symm
  | buildWithReport source request page size =>
    exact (Builder.applyAll_cache ..).trans
      (Compiler.foldl_use_fetch caches.sorts request.sorters).symm
  | _ => rfl

theorem foldl_filters (b : Builder) (caches : Caches) (tasks : List Task) :
    (tasks.foldl (run b) caches).filters =
      (history filterUses b caches tasks).foldl b.scope.filters.use caches.filters := by
  induction tasks generalizing caches with
  | nil => rfl
  | cons task tasks ih => rw [List.foldl_cons, ih, run_filters, history, List.foldl_append]

theorem foldl_sorts (b : Builder) (caches : Caches) (tasks : List Task) :
    (tasks.foldl (run b) caches).sorts =
      (history sortUses b caches tasks).foldl b.scope.sorts.use caches.sorts := by
  induction tasks generalizing caches with
  | nil => rfl
  | cons task tasks ih => rw [List.foldl_cons, ih, run_sorts, history, List.foldl_append]

/-- The filters' part, and likewise the sort keys', is a statement about that cache alone. -/
theorem tasks_balanced (b : Builder) (tasks : List Task) :
    let caches := tasks.foldl (run b) (.empty none)
    let filters := b.scope.filters
    let sorts := b.scope.sorts
    filters.Balanced (history filterUses b (.empty none) tasks) caches.filters ∧
    sorts.Balanced (history sortUses b (.empty none) tasks) caches.sorts ∧
    (b.scope.rules = Coercion.builtin → ∀ term e, b.scope.compileFilter term = .error e →
      filters.fetch caches.filters term =
        ⟨.error e, { caches.filters with misses := caches.filters.misses + 1 }, []⟩) ∧
    ∀ term e, b.scope.compileSort term = .error e → sorts.fetch caches.sorts term =
      ⟨.error e, { caches.sorts with misses := caches.sorts.misses + 1 }, []⟩ := by
  intro caches filters sorts
  have filled : filters.Accounted (history filterUses b (.empty none) tasks) caches.filters := by
    rw [foldl_filters]
    exact filters.run_accounted none _
  have sorted : sorts.Accounted (history sortUses b (.empty none) tasks) caches.sorts := by
    rw [foldl_sorts]
    exact sorts.run_accounted none _
  refine ⟨filled.balanced, sorted.balanced, ?_, ?_⟩
  · intro rules term e fails
    exact filled.fetch_of_respects (b.scope.filters_respects rules) fails
  · intro term e fails
    exact sorted.fetch_of_respects b.scope.sorts_respects fails

theorem tasks_balanced_cleared :
    let catalog : Catalog := ⟨[[⟨"n", [], .int⟩]]⟩
    let b : Builder := ⟨⟨catalog, catalog.schema ⟨0, "Numbers"⟩, Coercion.builtin⟩, .default⟩
    let filter (property : String) (n : Int64) : FilterTerm :=
      ⟨property, [], .compare .equal, .int n⟩
    let request : Request :=
      ⟨[filter "m" 1, filter "n" 1, filter "n" 2], [⟨"n", [], .ascending⟩], none, none⟩
    let source : Query Record := .ofRows []
    let caches := [.fetchFilter (filter "n" 1), .pullFilters 1 request.filters,
      .build source request 1 10, .clear, .buildWithReport source request 1 10].foldl (run b)
        (.empty none)
    b.scope.rules = Coercion.builtin ∧
    b.scope.compileFilter (filter "m" 1) = .error (.unknownProperty "Numbers" "m") ∧
    caches.filters.stats = ⟨2, 2, 7⟩ ∧ caches.sorts.stats = ⟨1, 0, 2⟩ ∧
    (b.scope.filters.fetch caches.filters (filter "m" 1)).cache.misses = 8 := by
  intro catalog b filter request source caches
  have missing : b.scope.compileFilter (filter "m" 1) = .error (.unknownProperty "Numbers" "m") := by
    dsimp only [b, filter, catalog]
    rfl
  have misses : caches.filters.misses = 7 := by decide
  have miss := (tasks_balanced b [.fetchFilter (filter "n" 1), .pullFilters 1 request.filters,
    .build source request 1 10, .clear, .buildWithReport source request 1 10]).2.2.1 rfl _ _ missing
  refine ⟨rfl, missing, by decide, by decide, ?_⟩
  rw [miss, misses]

end Task

end Listing
