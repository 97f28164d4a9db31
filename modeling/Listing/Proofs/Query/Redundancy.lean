import Listing.Proofs.Compile.Forms
import Listing.Proofs.Engine.Transparency
import Listing.Proofs.Query.Fetch
import Listing.Proofs.Query.Pages

/-!
# Terms that make no difference

The rows that a request lists are those its terms choose when each is compiled afresh (`unpaged_sorted`).
Terms that do not compile, the order and the repetition of filters, and a sort term behind another with
the same path do not count in this (`listing_reduces`). So requests that only differ in them are answered
alike, whatever the caches hold (`build_of_agrees`).
-/

namespace Listing

variable {α : Type} [Row α]

/-! ## Keys with one path -/

namespace SortKey

theorem compare_eq_iff {k : SortKey} {a b : Record} :
    k.compare a b = .eq ↔ (k.key a).sortOrder (k.key b) = .eq := by
  unfold compare
  cases k.direction <;> simp [Ordering.swap_eq_eq]

theorem compare_eq_of_path {k l : SortKey} (path : k.path = l.path) {a b : Record}
    (same : k.compare a b = .eq) : l.compare a b = .eq := by
  rw [compare_eq_iff, key, key] at same ⊢
  rw [← path]
  exact same

theorem lexicographic_append (keys keys' : List SortKey) (a b : α) :
    lexicographic (keys ++ keys') a b = (lexicographic keys a b).then (lexicographic keys' a b) := by
  induction keys with
  | nil => rfl
  | cons k keys ih =>
    rw [List.cons_append, lexicographic_cons, lexicographic_cons, ih, Ordering.then_assoc]

theorem compare_eq_of_lexicographic {keys : List SortKey} {a b : α}
    (same : lexicographic keys a b = .eq) {k : SortKey} (member : k ∈ keys) :
    k.compare (Row.record a) (Row.record b) = .eq := by
  induction keys with
  | nil => cases member
  | cons first keys ih =>
    rw [lexicographic_cons, Ordering.then_eq_eq] at same
    obtain _ | ⟨_, member⟩ := member
    · exact same.1
    · exact ih same.2 member

theorem lexicographic_repeated {front : List SortKey} {k l : SortKey} (member : k ∈ front)
    (path : k.path = l.path) (back : List SortKey) (a b : α) :
    lexicographic (front ++ l :: back) a b = lexicographic (front ++ back) a b := by
  rw [lexicographic_append, lexicographic_append, lexicographic_cons]
  cases same : lexicographic front a b with
  | eq => rw [compare_eq_of_path path (compare_eq_of_lexicographic same member)]; rfl
  | lt | gt => rfl

theorem sort_congr {keys keys' : List SortKey} (none : keys = [] ↔ keys' = [])
    (order : ∀ a b : α, lexicographic keys a b = lexicographic keys' a b) (rows : List α) :
    sort keys rows = sort keys' rows := by
  have orders := funext₂ order
  simp only [sort, List.isEmpty_iff, none, orders]

theorem lexicographic_congr {keys keys' : List SortKey} (h : List.Forall₂ Equivalent keys keys')
    (a b : α) : lexicographic keys a b = lexicographic keys' a b := by
  induction h with
  | nil => rfl
  | cons head _ ih => rw [lexicographic_cons, lexicographic_cons, head, ih]

theorem sort_equivalent {keys keys' : List SortKey} (h : List.Forall₂ Equivalent keys keys')
    (rows : List α) : sort keys rows = sort keys' rows := by
  apply sort_congr
  · cases h <;> simp
  · exact lexicographic_congr h

end SortKey

theorem Predicate.all_equivalent {ps qs : List Predicate} (h : List.Forall₂ Equivalent ps qs)
    (record : Record) : ps.all (·.eval record) = qs.all (·.eval record) := by
  induction h with
  | nil => rfl
  | cons head _ ih => rw [List.all_cons, List.all_cons, head, ih]

/-! ## Listings -/

namespace Scope

variable {s : Scope}

/-- The rows that a request lists, each of its terms compiled afresh. -/
def listing (s : Scope) (rows : List α) (r : Request) : List α :=
  SortKey.sort (s.sorts.forms r.sorters)
    (rows.filter fun row => (s.filters.forms r.filters).all (·.eval (Row.record row)))

theorem compileSort_ok_iff {t : SortTerm} {k : SortKey} : s.compileSort t = .ok k ↔
    Path.resolve s.catalog s.schema t.property t.nested = .ok k.path ∧
      k.path.leaf.type.isScalar = true ∧ t.direction = k.direction := by
  obtain ⟨path, direction⟩ := k
  unfold compileSort
  cases resolved : Path.resolve s.catalog s.schema t.property t.nested with
  | error e => simp [bind, Except.bind]
  | ok found =>
    by_cases scalar : found.leaf.type.isScalar = true
    · simp only [bind, Except.bind, if_pos scalar, Except.ok.injEq, SortKey.mk.injEq]
      constructor
      · rintro ⟨rfl, rfl⟩
        exact ⟨rfl, scalar, rfl⟩
      · rintro ⟨rfl, -, rfl⟩
        exact ⟨rfl, rfl⟩
    · simp only [bind, Except.bind, if_neg scalar, reduceCtorEq, false_iff, Except.ok.injEq]
      rintro ⟨rfl, scalar', -⟩
      exact scalar scalar'

end Scope

inductive Request.Reduces (s : Scope) (r : Request) : Request → Prop
  | prune {filters : List FilterTerm} {sorters : List SortTerm} :
      Pruned (fun t => ∃ e, s.compileFilter t = .error e) r.filters filters →
      Pruned (fun t => ∃ e, s.compileSort t = .error e) r.sorters sorters →
      Reduces s r { r with filters, sorters }
  | regroup {filters : List FilterTerm} :
      (∀ t ∈ filters, ∃ u ∈ r.filters, (t == u) = true) →
      (∀ t ∈ r.filters, ∃ u ∈ filters, (t == u) = true) →
      Reduces s r { r with filters }
  | repeated {front back : List SortTerm} {first again : SortTerm} {k : SortKey} :
      r.sorters = front ++ again :: back → first ∈ front → s.compileSort first = .ok k →
      Path.resolve s.catalog s.schema again.property again.nested = .ok k.path →
      Reduces s r { r with sorters := front ++ back }

namespace Scope

variable {s : Scope} {r r' : Request}

theorem sort_repeated {front back : List SortTerm} {first again : SortTerm} {k : SortKey}
    (listed : first ∈ front) (compiles : s.compileSort first = .ok k)
    (resolved : Path.resolve s.catalog s.schema again.property again.nested = .ok k.path)
    (rows : List α) :
    SortKey.sort (s.sorts.forms (front ++ again :: back)) rows =
      SortKey.sort (s.sorts.forms (front ++ back)) rows := by
  have scalar := (compileSort_ok_iff.1 compiles).2.1
  have compiles' : s.sorts.compile again = .ok ⟨k.path, again.direction⟩ :=
    compileSort_ok_iff.2 ⟨resolved, scalar, rfl⟩
  have member : k ∈ s.sorts.forms front := Compiler.mem_forms_iff.2 ⟨first, listed, compiles⟩
  rw [Compiler.forms_append, Compiler.forms_append, Compiler.forms_of_ok compiles']
  apply SortKey.sort_congr
  · have sorted := List.ne_nil_of_mem member
    simp [sorted]
  · intro a b
    exact SortKey.lexicographic_repeated (l := ⟨k.path, again.direction⟩) member rfl _ a b

theorem listing_reduces (rules : s.rules = Coercion.builtin) (h : r.Reduces s r') (rows : List α) :
    s.listing rows r = s.listing rows r' := by
  cases h with
  | prune filters sorters =>
    unfold listing
    rw [Compiler.forms_pruned (c := s.filters) filters, Compiler.forms_pruned (c := s.sorts) sorters]
  | regroup within covered =>
    have respects := s.filters_respects rules
    unfold listing
    congr 2
    funext row
    have congr (p q : Predicate) (h : p.Equivalent q) :
        p.eval (Row.record row) = q.eval (Row.record row) := h _
    rw [Bool.eq_iff_iff]
    exact ⟨Compiler.all_forms_of_subset respects congr within,
      Compiler.all_forms_of_subset respects congr covered⟩
  | repeated sorters listed compiles resolved =>
    unfold listing
    rw [sorters]
    exact sort_repeated listed compiles resolved _

end Scope

/-- The requests differ by any number of such changes, made or undone. -/
def Request.Agrees (s : Scope) : Request → Request → Prop := Relation.EqvGen (Request.Reduces s)

theorem Request.Agrees.listing {s : Scope} {r r' : Request} (h : r.Agrees s r')
    (rules : s.rules = Coercion.builtin) (rows : List α) :
    s.listing rows r = s.listing rows r' ∧ r.page = r'.page ∧ r.size = r'.size := by
  induction h with
  | rel r r' step =>
    refine ⟨Scope.listing_reduces rules step rows, ?_⟩
    cases step <;> exact ⟨rfl, rfl⟩
  | refl r => exact ⟨rfl, rfl, rfl⟩
  | symm r r' _ ih => exact ⟨ih.1.symm, ih.2.1.symm, ih.2.2.symm⟩
  | trans r r' r'' _ _ ih ih' =>
    exact ⟨ih.1.trans ih'.1, ih.2.1.trans ih'.2.1, ih.2.2.trans ih'.2.2⟩

/-! ## Builds -/

namespace Query

theorem window_congr {q q' : Query α} (sorted : q.sorted = q'.sorted) (skipped : q.skipped = q'.skipped)
    (limit : q.limit = q'.limit) (p : Pagination) :
    (Builder.window p q).fetch = (Builder.window p q').fetch ∧
      (Builder.window p q).total = (Builder.window p q').total := by
  constructor
  · change (Builder.window p q).sorted = (Builder.window p q').sorted at sorted
    simp only [fetch, sorted]
    simp only [Builder.window, Handle.skip, Handle.take, skipped, limit]
  · rw [total_window, total_window, ← length_sorted, ← length_sorted, sorted]

end Query

namespace Builder

theorem unpaged_sorted (b : Builder) (rules : b.scope.rules = Coercion.builtin) {caches : Caches}
    (sound : caches.Sound b.scope) (rows : List α) (r : Request) :
    (b.unpaged caches (Query.ofRows rows) r).sorted = b.scope.listing rows r := by
  have filters := Compiler.drain_forms (b.scope.filters_respects rules) sound.filters r.filters
  have sorts := Compiler.drain_forms b.scope.sorts_respects sound.sorts r.sorters
  rw [← List.forall₂_map_left_iff] at filters sorts
  rw [Query.sorted_eq, unpaged_ofRows, Scope.listing, SortKey.sort_equivalent sorts]
  congr 2
  funext row
  exact Predicate.all_equivalent filters (Row.record row)

theorem build_of_agrees (b : Builder) (rules : b.scope.rules = Coercion.builtin)
    {caches caches' : Caches} (reached : caches.Reached b.scope) (reached' : caches'.Reached b.scope)
    {r r' : Request} (h : r.Agrees b.scope r') (rows : List α) (page size : Nat) :
    let q := (b.build caches (Query.ofRows rows) r page size).result
    let q' := (b.build caches' (Query.ofRows rows) r' page size).result
    q.fetch = q'.fetch ∧ q.total = q'.total := by
  intro q q'
  obtain ⟨listed, page_eq, size_eq⟩ := h.listing rules rows
  have window : b.pagination r page size = b.pagination r' page size := by
    rw [pagination, pagination, page_eq, size_eq]
  have sorted : (b.unpaged caches (Query.ofRows rows) r).sorted =
      (b.unpaged caches' (Query.ofRows rows) r').sorted := by
    rw [b.unpaged_sorted rules (reached.sound rules), listed,
      ← b.unpaged_sorted rules (reached'.sound rules)]
  dsimp only [q, q']
  rw [build_result, build_result, window]
  apply Query.window_congr sorted
  · rw [unpaged_ofRows, unpaged_ofRows]
  · rw [unpaged_ofRows, unpaged_ofRows]

theorem build_of_agrees_shuffled :
    let catalog : Catalog := ⟨[[⟨"n", [], .int⟩, ⟨"s", [], .text⟩]]⟩
    let b : Builder := ⟨⟨catalog, catalog.schema ⟨0, "Items"⟩, Coercion.builtin⟩, .default⟩
    let n : Path := ⟨"Items", [], ⟨"n", .int⟩⟩
    let row (value : Value) : Record := [("n", .value value)]
    let rows := [row (.int 5), row (.int 2), row (.text "x"), row (.int 4), row (.int 1)]
    let other (property : String) (n : Int64) : FilterTerm :=
      ⟨property, [], .compare .notEqual, .int n⟩
    let sort (property : String) (direction : Direction) : SortTerm := ⟨property, [], direction⟩
    let r : Request := ⟨[other "n" 1, other "m" 0, other "n" 5], [sort "m" .ascending,
      sort "n" .descending, sort "s" .ascending, sort "N" .ascending], some 1, none⟩
    let r' : Request := ⟨[other "n" 5, other "n" 1, other "n" 5],
      [sort "n" .descending, sort "s" .ascending], some 1, none⟩
    let caches := Caches.empty (some 1)
    let caches' := (b.build (.empty none) (Query.ofRows rows) r 1 10).caches
    let q := (b.build caches (Query.ofRows rows) r 1 10).result
    let q' := (b.build caches' (Query.ofRows rows) r' 1 10).result
    b.scope.rules = Coercion.builtin ∧ caches.Reached b.scope ∧ caches'.Reached b.scope ∧
      r.Agrees b.scope r' ∧ q.fetch = q'.fetch ∧ q.total = q'.total ∧
      q'.fetch.map (fun row => (n.read row).sortOrder (.int 3)) = [.gt, .gt, .lt] := by
  intro catalog b n row rows other sort r r' caches caches' q q'
  have reached : caches.Reached b.scope := .empty _
  have reached' : caches'.Reached b.scope := .work (.build (Query.ofRows rows) r 1 10) (.empty none)
  let pruned : Request := { r with
    filters := [other "n" 1, other "n" 5]
    sorters := [sort "n" .descending, sort "s" .ascending, sort "N" .ascending] }
  let regrouped : Request := { pruned with filters := r'.filters }
  have missingFilter : b.scope.compileFilter (other "m" 0) = .error (.unknownProperty "Items" "m") := by
    dsimp only [b, catalog, other]
    rfl
  have missingSort : b.scope.compileSort (sort "m" .ascending) =
      .error (.unknownProperty "Items" "m") := by
    dsimp only [b, catalog, sort]
    rfl
  have sameMember : Path.resolve b.scope.catalog b.scope.schema "N" [] = .ok n := by
    dsimp only [b, catalog, n]
    rfl
  have first : r.Reduces b.scope pruned :=
    .prune (.keep (.drop ⟨_, missingFilter⟩ (.keep .nil)))
      (.drop ⟨_, missingSort⟩ (.keep (.keep (.keep .nil))))
  have second : pruned.Reduces b.scope regrouped := by
    apply Request.Reduces.regroup <;> decide
  have sorters : regrouped.sorters = r'.sorters ++ sort "N" .ascending :: [] := rfl
  have third : regrouped.Reduces b.scope r' := .repeated sorters (.head _) rfl sameMember
  have agrees : r.Agrees b.scope r' :=
    .trans _ _ _ (.rel _ _ first) (.trans _ _ _ (.rel _ _ second) (.rel _ _ third))
  obtain ⟨rows_eq, total_eq⟩ := b.build_of_agrees rfl reached reached' agrees rows 1 10
  exact ⟨rfl, reached, reached', agrees, rows_eq, total_eq, by decide⟩

end Builder

end Listing
