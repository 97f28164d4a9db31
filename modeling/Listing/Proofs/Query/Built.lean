import Listing.Query.Builder
import Listing.Proofs.Query.Sort

namespace Listing

variable {α : Type}

theorem drop_min_maxCount {rows : List α} (few : rows.length ≤ maxCount) (count : Nat) :
    rows.drop (min maxCount count) = rows.drop count := by
  obtain within | beyond := Nat.le_total count maxCount
  · rw [Nat.min_eq_right within]
  · rw [Nat.min_eq_left beyond, List.drop_eq_nil_of_le few,
      List.drop_eq_nil_of_le (Nat.le_trans few beyond)]

namespace Query

theorem foldl_filter (predicates : List Predicate) (q : Query α) :
    predicates.foldl Handle.filter q = { q with predicates := q.predicates ++ predicates } := by
  induction predicates generalizing q with
  | nil => rw [List.foldl_nil, List.append_nil]
  | cons p predicates ih =>
    rw [List.foldl_cons, ih]
    simp [Handle.filter]

theorem foldl_thenBy (keys : List SortKey) (q : Query α) :
    keys.foldl Handle.thenBy q = { q with keys := q.keys ++ keys } := by
  induction keys generalizing q with
  | nil => rw [List.foldl_nil, List.append_nil]
  | cons k keys ih =>
    rw [List.foldl_cons, ih]
    simp [Handle.thenBy]

theorem sortBy_eq (keys : List SortKey) (q : Query α) (unsorted : q.keys = []) :
    Builder.sortBy q keys = { q with keys := keys } := by
  cases keys with
  | nil => rw [Builder.sortBy, ← unsorted]
  | cons primary others =>
    rw [Builder.sortBy, foldl_thenBy]
    simp [Handle.orderBy]

variable [Row α] {q q' : Query α}

theorem sorted_congr (source : q.source = q'.source) (keys : q.keys = q'.keys)
    (passes : ∀ row, q.passes row = q'.passes row) : q.sorted = q'.sorted := by
  have order : q.order = q'.order := by
    funext a b
    rw [Query.order, Query.order, keys]
  rw [sorted, sorted, source, keys, order, funext passes]

theorem length_sorted (q : Query α) : q.sorted.length = q.total := by
  unfold sorted total
  split
  · rfl
  · exact (stableSort_perm _ _).length_eq

end Query

namespace Builder

def unpaged {Q : Type} [Handle Q] (b : Builder) (caches : Caches) (source : Q) (request : Request) :
    Q :=
  let filters := b.scope.filters.drain caches.filters request.filters
  let sorts := b.scope.sorts.drain caches.sorts request.sorters
  sortBy ((filters.result.map (·.form)).foldl Handle.filter source) (sorts.result.map (·.form))

theorem build_result {Q : Type} [Handle Q] (b : Builder) (caches : Caches) (source : Q)
    (request : Request) (page size : Nat) : (b.build caches source request page size).result =
      window (b.pagination request page size) (b.unpaged caches source request) := rfl

theorem unpaged_ofRows (b : Builder) (caches : Caches) (rows : List α) (request : Request) :
    b.unpaged caches (Query.ofRows rows) request =
      ⟨rows, (b.scope.filters.drain caches.filters request.filters).result.map (·.form),
        (b.scope.sorts.drain caches.sorts request.sorters).result.map (·.form), 0, none⟩ := by
  rw [unpaged, Query.foldl_filter, Query.sortBy_eq _ _ rfl]
  rfl

variable [Row α]

def listing (b : Builder) (caches : Caches) (rows : List α) (request : Request) : List α :=
  (b.unpaged caches (Query.ofRows rows) request).fetch

theorem listing_eq (b : Builder) (caches : Caches) (rows : List α) (request : Request) :
    b.listing caches rows request = (b.unpaged caches (Query.ofRows rows) request).sorted := by
  rw [listing, unpaged_ofRows]
  rfl

theorem length_listing_le (b : Builder) (caches : Caches) (rows : List α) (request : Request) :
    (b.listing caches rows request).length ≤ rows.length := by
  rw [listing_eq, Query.length_sorted, unpaged_ofRows]
  exact List.length_filter_le _ _

end Builder

end Listing
