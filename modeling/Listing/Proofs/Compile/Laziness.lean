import Listing.Proofs.Compile.Forms
import Listing.Proofs.Compile.Served

/-!
# How far a list is looked at

Asking `count` times for the next form comes to fetching a part at the front of the list: the shortest in
which `count` fetches succeed, or the whole list if there are fewer (`lazy_looked`). The terms behind it have
no influence, not even on the events (`pull_looked`). A fetch succeeds if the term compiles or is served
(`successes_eq`). Through a sound cache these are the terms that compile, and the forms are the first of the
list (`successes_of_respects`, `pull_forms`).
-/

namespace Listing

namespace Compiler

variable {K V : Type} [BEq K] (c : Compiler K V) (cache : Cache K (Compiled V))

/-! ## Fetches that succeed -/

def successes (terms : List K) : Nat := (kept (c.fetchAll cache terms).result).length

theorem kept_concat (terms : List K) (term : K) :
    kept (c.fetchAll cache (terms ++ [term])).result = kept (c.fetchAll cache terms).result ++
      (c.fetch (c.fetchAll cache terms).cache term).result.toOption.toList := by
  rw [fetchAll_append, kept, List.filterMap_append]
  rfl

theorem successes_concat (terms : List K) (term : K) : c.successes cache (terms ++ [term]) =
    c.successes cache terms + if (c.failure? cache terms term).isNone then 1 else 0 := by
  rw [successes, kept_concat, List.length_append, ← successes, ← fetchAll_failure]
  cases (c.fetch (c.fetchAll cache terms).cache term).result <;> rfl

theorem isNone_failure? (before : List K) (term : K) :
    (c.failure? cache before term).isNone = (c.compiles term || c.isServed cache before term) := by
  unfold failure? compiles
  cases c.isServed cache before term <;> cases c.compile term <;> rfl

theorem successes_eq (terms : List K) : c.successes cache terms =
    terms.zipIdx.countP fun (term, index) =>
      c.compiles term || c.isServed cache (terms.take index) term := by
  induction terms using List.reverseRecOn with
  | nil => rfl
  | append_singleton terms term ih =>
    have before : ∀ entry ∈ terms.zipIdx,
        ((c.compiles entry.1 || c.isServed cache ((terms ++ [term]).take entry.2) entry.1) = true ↔
          (c.compiles entry.1 || c.isServed cache (terms.take entry.2) entry.1) = true) := by
      intro entry listed
      have inside := List.snd_lt_of_mem_zipIdx listed
      rw [List.take_append_of_le_length (by omega)]
    rw [successes_concat, ih, isNone_failure?, List.zipIdx_append, List.countP_append,
      List.countP_congr before]
    simp

variable {c cache} in
theorem successes_of_respects {same : V → V → Prop} (respects : c.Respects same)
    (sound : cache.Holds (c.Serves same)) (terms : List K) :
    c.successes cache terms = terms.countP c.compiles := by
  have held : c.HoldsCompiling cache := by
    intro entry listed
    obtain ⟨form, compiles, -⟩ := sound entry listed
    exact compiles_of_ok compiles
  induction terms using List.reverseRecOn with
  | nil => rfl
  | append_singleton terms term ih =>
    rw [successes_concat, failure?_of_respects respects held, ih, List.countP_append,
      List.countP_singleton]
    unfold compiles
    cases c.compile term <;> rfl

/-! ## The terms that are looked up -/

theorem looked_in_front (count : Nat) (terms : List K) : c.looked cache count terms <+: terms := by
  induction cache, count, terms using c.pull_induction with
  | zero cache terms =>
    rw [looked]
    exact List.nil_prefix
  | nil cache count => exact List.prefix_rfl
  | ok fetched ih =>
    rw [looked_of_ok fetched]
    exact (List.prefix_cons_inj _).2 ih
  | error fetched ih =>
    rw [looked_of_error fetched]
    exact (List.prefix_cons_inj _).2 ih

theorem pull_take (count : Nat) (terms : List K) :
    (c.pull cache count terms).result = (kept (c.fetchAll cache terms).result).take count := by
  induction cache, count, terms using c.pull_induction with
  | zero cache terms => rfl
  | nil cache count => rfl
  | ok fetched ih => rw [pull_of_ok fetched, kept_of_ok fetched, List.take_succ_cons, ← ih]
  | error fetched ih => rw [pull_of_error fetched, kept_of_error fetched, ← ih]

theorem looked_enough (count : Nat) (terms : List K) : c.looked cache count terms = terms ∨
    c.successes cache (c.looked cache count terms) = count := by
  unfold successes
  induction cache, count, terms using c.pull_induction with
  | zero cache terms =>
    right
    rw [looked]
    rfl
  | nil cache count => exact .inl rfl
  | ok fetched ih =>
    rw [looked_of_ok fetched, kept_of_ok fetched]
    exact ih.imp (congrArg _) (congrArg _)
  | error fetched ih =>
    rw [looked_of_error fetched, kept_of_error fetched]
    exact ih.imp_left (congrArg _)

theorem looked_shortest (count : Nat) {terms shorter : List K}
    (front : shorter <+: c.looked cache count terms) (part : shorter ≠ c.looked cache count terms) :
    c.successes cache shorter < count := by
  unfold successes
  induction cache, count, terms using c.pull_induction generalizing shorter with
  | zero cache terms =>
    rw [looked] at front part
    exact absurd (List.prefix_nil.1 front) part
  | nil cache count => exact absurd (List.prefix_nil.1 front) part
  | ok fetched ih =>
    rw [looked_of_ok fetched] at front part
    rcases List.prefix_cons_iff.1 front with rfl | ⟨shorter, rfl, rest⟩
    · exact Nat.zero_lt_succ _
    · rw [kept_of_ok fetched]
      exact Nat.succ_lt_succ (ih rest fun equal => part (congrArg _ equal))
  | error fetched ih =>
    rw [looked_of_error fetched] at front part
    rcases List.prefix_cons_iff.1 front with rfl | ⟨shorter, rfl, rest⟩
    · exact Nat.zero_lt_succ _
    · rw [kept_of_error fetched]
      exact ih rest fun equal => part (congrArg _ equal)

theorem pull_looked {count : Nat} {terms : List K}
    (enough : c.successes cache (c.looked cache count terms) = count)
    (others : List K) :
    c.pull cache count (c.looked cache count terms ++ others) = c.pull cache count terms := by
  unfold successes at enough
  induction cache, count, terms using c.pull_induction with
  | zero cache terms => rfl
  | nil cache count => cases enough
  | ok fetched ih =>
    rw [looked_of_ok fetched, kept_of_ok fetched] at enough
    rw [looked_of_ok fetched, List.cons_append, pull_of_ok fetched, pull_of_ok fetched,
      ih (Nat.succ.inj enough)]
  | error fetched ih =>
    rw [looked_of_error fetched, kept_of_error fetched] at enough
    rw [looked_of_error fetched, List.cons_append, pull_of_error fetched, pull_of_error fetched,
      ih enough]

theorem lookups_fetch (term : K) : (c.fetch cache term).cache.hits + (c.fetch cache term).cache.misses =
    cache.hits + cache.misses + 1 := by
  cases found : cache.find? term with
  | some compiled =>
    rw [fetch_of_found found]
    exact Nat.add_right_comm ..
  | none =>
    cases compiles : c.compile term with
    | ok form => rw [fetch_of_compiled found compiles]; rfl
    | error e => rw [fetch_of_failed found compiles]; rfl

theorem lookups_fetchAll (terms : List K) :
    (c.fetchAll cache terms).cache.hits + (c.fetchAll cache terms).cache.misses =
      cache.hits + cache.misses + terms.length := by
  induction terms generalizing cache with
  | nil => rfl
  | cons term terms ih =>
    rw [fetchAll_cons_cache, ih, lookups_fetch, List.length_cons]
    omega

/-! ## Laziness -/

/-- Asking `count` times for the next form comes to fetching the terms in front, and no others. -/
structure Lazy (c : Compiler K V) (cache : Cache K (Compiled V)) (count : Nat)
    (terms front : List K) : Prop where
  in_front : front <+: terms
  enough : front = terms ∨ c.successes cache front = count
  shortest : ∀ shorter, shorter <+: front → shorter ≠ front → c.successes cache shorter < count
  result : (c.pull cache count terms).result = (kept (c.fetchAll cache terms).result).take count
  left : (c.pull cache count terms).cache = (c.fetchAll cache front).cache
  lookups : (c.pull cache count terms).cache.hits + (c.pull cache count terms).cache.misses =
    cache.hits + cache.misses + front.length
  unread : c.successes cache front = count →
    ∀ others, c.pull cache count (front ++ others) = c.pull cache count terms

theorem lazy_looked (count : Nat) (terms : List K) :
    c.Lazy cache count terms (c.looked cache count terms) where
  in_front := looked_in_front c cache count terms
  enough := looked_enough c cache count terms
  shortest _ front part := looked_shortest c cache count front part
  result := pull_take c cache count terms
  left := pull_cache c cache count terms
  lookups := by rw [pull_cache, lookups_fetchAll]
  unread := pull_looked c cache

variable {c cache}

theorem pull_forms {same : V → V → Prop} (respects : c.Respects same)
    (sound : cache.Holds (c.Serves same)) (count : Nat) (terms : List K) :
    List.Forall₂ (fun compiled form => same compiled.form form) (c.pull cache count terms).result
      ((c.forms terms).take count) := by
  rw [pull_take, ← (drain_eq cache terms).1]
  exact List.forall₂_take count (drain_forms respects sound terms)

structure PullsLazily (c : Compiler K V) (count : Nat) : Prop where
  front (cache : Cache K (Compiled V)) (terms : List K) : ∃ front, c.Lazy cache count terms front
  successes (cache : Cache K (Compiled V)) (terms : List K) : c.successes cache terms =
    terms.zipIdx.countP fun (term, index) =>
      c.compiles term || c.isServed cache (terms.take index) term
  /-- An unbounded cache drops nothing meanwhile. -/
  served (cache : Cache K (Compiled V)) : cache.bound = none → ∀ before term,
    c.isServed cache before term =
      ((cache.find? term).isSome || before.any fun u => term == u && c.compiles u)

theorem pullsLazily [EquivBEq K] (c : Compiler K V) (count : Nat) : c.PullsLazily count where
  front cache terms := ⟨_, c.lazy_looked cache count terms⟩
  successes := c.successes_eq
  served cache _ := isServed_eq cache

end Compiler

namespace Scope

theorem pull_lazily (s : Scope) (count : Nat) :
    s.filters.PullsLazily count ∧ s.sorts.PullsLazily count ∧
    (s.rules = Coercion.builtin → ∀ cache, cache.Holds (s.filters.Serves Predicate.Equivalent) →
      ∀ terms, s.filters.successes cache terms = terms.countP s.filters.compiles ∧
        List.Forall₂ (fun compiled form => Predicate.Equivalent compiled.form form)
          (s.filters.pull cache count terms).result ((s.filters.forms terms).take count)) ∧
    ∀ cache, cache.Holds (s.sorts.Serves SortKey.Equivalent) →
      ∀ terms, s.sorts.successes cache terms = terms.countP s.sorts.compiles ∧
        List.Forall₂ (fun compiled form => SortKey.Equivalent compiled.form form)
          (s.sorts.pull cache count terms).result ((s.sorts.forms terms).take count) := by
  refine ⟨s.filters.pullsLazily count, s.sorts.pullsLazily count, ?_, ?_⟩
  · intro rules cache sound terms
    have respects := s.filters_respects rules
    exact ⟨Compiler.successes_of_respects respects sound terms,
      Compiler.pull_forms respects sound count terms⟩
  · intro cache sound terms
    exact ⟨Compiler.successes_of_respects s.sorts_respects sound terms,
      Compiler.pull_forms s.sorts_respects sound count terms⟩

theorem pull_lazily_repeated :
    let catalog : Catalog := ⟨[[⟨"n", [], .int⟩]]⟩
    let s : Scope := ⟨catalog, catalog.schema ⟨0, "Numbers"⟩, Coercion.builtin⟩
    let filter (property : String) (operand : Operand) : FilterTerm :=
      ⟨property, [], .compare .equal, operand⟩
    let terms := [filter "m" (.int 1), filter "n" (.int 1), filter "n" (.int 1),
      filter "n" (.string "x"), filter "n" (.int 2)]
    let cache : Cache FilterTerm (Compiled Predicate) := .empty none
    let run := s.filters.pull cache 2 terms
    s.rules = Coercion.builtin ∧ cache.Holds (s.filters.Serves Predicate.Equivalent) ∧
    run.cache.stats = ⟨1, 1, 2⟩ ∧ s.filters.Lazy cache 2 terms (terms.take 3) ∧
    s.filters.successes cache terms = 3 ∧
    s.filters.isServed cache (terms.take 2) (filter "n" (.int 1)) = true ∧
    List.Forall₂ (fun compiled form => Predicate.Equivalent compiled.form form) run.result
      ((s.filters.forms terms).take 2) := by
  intro catalog s filter terms cache run
  have sound : cache.Holds (s.filters.Serves Predicate.Equivalent) := Cache.holds_empty none
  have stats : run.cache.stats = ⟨1, 1, 2⟩ := by decide
  obtain ⟨lazily, -, afresh, -⟩ := s.pull_lazily 2
  obtain ⟨successes, forms⟩ := afresh rfl cache sound terms
  obtain ⟨front, comes⟩ := lazily.front cache terms
  have lookups : run.cache.hits + run.cache.misses = 3 := by decide
  have length : front.length = 3 := by
    rw [← lookups, comes.lookups]
    simp [cache, Cache.empty]
  have taken : front = terms.take 3 := length ▸ List.prefix_iff_eq_take.1 comes.in_front
  refine ⟨rfl, sound, stats, taken ▸ comes, ?_, ?_, forms⟩
  · rw [successes]
    decide
  · rw [lazily.served cache rfl]
    decide

/-- A term that does not compile and is served takes the place of one that compiles: if an entry has been
put under it, or if a rule refuses negative numbers and the entry of the positive zero serves the negative
one. The term that compiles is then not looked at. -/
theorem pull_takes_served :
    let catalog : Catalog := ⟨[[⟨"x", [], .float⟩]]⟩
    let floats : Schema := catalog.schema ⟨0, "Floats"⟩
    let equals (property : String) (x : Binary64) : FilterTerm :=
      ⟨property, [], .compare .equal, .float x⟩
    let put : Compiled Predicate := ⟨.compare ⟨"Floats", [], ⟨"x", .float⟩⟩ .equal (.float .nan), 1⟩
    let refusing : Coercion.Rule := .custom (fun target => target.same .float) fun target operand =>
      match operand with
      | .float x => if x.negative then .error (.unparsable operand target .noRule) else .ok (.float x)
      | _ => .error (.unparsable operand target .noRule)
    let zero (negative : Bool) : FilterTerm := equals "x" (.ofParts negative 0)
    let one : FilterTerm := equals "x" (.ofInt 1)
    let builtin : Compiler FilterTerm Predicate := Scope.filters ⟨catalog, floats, Coercion.builtin⟩
    let custom := Scope.filters ⟨catalog, floats, Coercion.add Coercion.builtin refusing⟩
    let filled : Cache FilterTerm (Compiled Predicate) := (Cache.empty none).insert (equals "y" .nan) put
    -- no part of the list with as many terms that compile leaves the cache as it is left
    (∀ length ≤ 2, ([equals "y" .nan, one].take length).countP builtin.compiles = 1 →
      (builtin.pull filled 1 [equals "y" .nan, one]).cache.stats ≠
        (builtin.fetchAll filled ([equals "y" .nan, one].take length)).cache.stats) ∧
    (∀ length ≤ 3, ([zero false, zero true, one].take length).countP custom.compiles = 2 →
      (custom.pull (.empty none) 2 [zero false, zero true, one]).cache.stats ≠
        (custom.fetchAll (.empty none) ([zero false, zero true, one].take length)).cache.stats) := by
  decide +kernel

end Scope

end Listing
