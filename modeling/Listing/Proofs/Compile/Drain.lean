import Listing.Proofs.Compile.Fetch

namespace Listing.Compiler

variable {K V : Type} [BEq K] {c : Compiler K V} {cache : Cache K (Compiled V)} {term : K}

def kept (outcomes : List (K × Except CompileError (Compiled V))) : List (Compiled V) :=
  outcomes.filterMap (·.2.toOption)

theorem kept_of_ok {compiled : Compiled V} (h : (c.fetch cache term).result = .ok compiled)
    (terms : List K) : kept (c.fetchAll cache (term :: terms)).result =
      compiled :: kept (c.fetchAll (c.fetch cache term).cache terms).result := by
  simp only [fetchAll, kept, List.filterMap_cons, h, Except.toOption]

theorem kept_of_error {e : CompileError} (h : (c.fetch cache term).result = .error e)
    (terms : List K) : kept (c.fetchAll cache (term :: terms)).result =
      kept (c.fetchAll (c.fetch cache term).cache terms).result := by
  simp only [fetchAll, kept, List.filterMap_cons, h, Except.toOption]

theorem fetchAll_append (cache : Cache K (Compiled V)) (before behind : List K) :
    c.fetchAll cache (before ++ behind) =
      let head := c.fetchAll cache before
      let tail := c.fetchAll head.cache behind
      ⟨head.result ++ tail.result, tail.cache, head.events ++ tail.events⟩ := by
  induction before generalizing cache with
  | nil => rfl
  | cons term before ih => simp only [List.cons_append, fetchAll, ih, List.append_assoc]

theorem pull_of_ok {compiled : Compiled V} (h : (c.fetch cache term).result = .ok compiled)
    (count : Nat) (terms : List K) : c.pull cache (count + 1) (term :: terms) =
      let tail := c.pull (c.fetch cache term).cache count terms
      ⟨compiled :: tail.result, tail.cache, (c.attempt cache term).events ++ tail.events⟩ := by
  rw [← attempt_result] at h
  simp only [← attempt_cache, pull, next, h]

theorem pull_of_error {e : CompileError} (h : (c.fetch cache term).result = .error e) (count : Nat)
    (terms : List K) : c.pull cache (count + 1) (term :: terms) =
      let tail := c.pull (c.fetch cache term).cache (count + 1) terms
      { tail with events := (c.attempt cache term).events ++ tail.events } := by
  rw [← attempt_result] at h
  simp only [← attempt_cache, pull, next, h]
  split <;> simp

@[elab_as_elim]
theorem pull_induction (c : Compiler K V) {motive : Cache K (Compiled V) → Nat → List K → Prop}
    (zero : ∀ cache terms, motive cache 0 terms)
    (nil : ∀ cache count, motive cache (count + 1) [])
    (ok : ∀ {cache count term terms compiled}, (c.fetch cache term).result = .ok compiled →
      motive (c.fetch cache term).cache count terms → motive cache (count + 1) (term :: terms))
    (error : ∀ {cache count term terms e}, (c.fetch cache term).result = .error e →
      motive (c.fetch cache term).cache (count + 1) terms → motive cache (count + 1) (term :: terms))
    (cache : Cache K (Compiled V)) (count : Nat) (terms : List K) : motive cache count terms := by
  induction terms generalizing cache count with
  | nil =>
    cases count with
    | zero => exact zero cache []
    | succ count => exact nil cache count
  | cons term terms ih =>
    cases count with
    | zero => exact zero cache _
    | succ count =>
      cases fetched : (c.fetch cache term).result with
      | ok compiled => exact ok fetched (ih _ count)
      | error e => exact error fetched (ih _ (count + 1))

theorem pull_eq {count : Nat} {terms : List K} (h : terms.length ≤ count) :
    (c.pull cache count terms).result = kept (c.fetchAll cache terms).result ∧
      (c.pull cache count terms).cache = (c.fetchAll cache terms).cache := by
  induction cache, count, terms using c.pull_induction with
  | zero cache terms =>
    rw [List.length_eq_zero_iff.1 (Nat.le_zero.1 h)]
    exact ⟨rfl, rfl⟩
  | nil cache count => exact ⟨rfl, rfl⟩
  | ok fetched ih =>
    rw [pull_of_ok fetched, kept_of_ok fetched]
    exact (ih (Nat.le_of_succ_le_succ h)).imp_left (congrArg _)
  | error fetched ih =>
    rw [pull_of_error fetched, kept_of_error fetched]
    exact ih (Nat.le_of_succ_le h)

theorem drain_eq (cache : Cache K (Compiled V)) (terms : List K) :
    (c.drain cache terms).result = kept (c.fetchAll cache terms).result ∧
      (c.drain cache terms).cache = (c.fetchAll cache terms).cache :=
  pull_eq (Nat.le_refl _)

/-- The terms that are looked up while the next one is asked for `count` times. -/
def looked (c : Compiler K V) : Cache K (Compiled V) → Nat → List K → List K
  | _, 0, _ => []
  | _, _ + 1, [] => []
  | cache, count + 1, term :: terms =>
    let run := c.fetch cache term
    term :: c.looked run.cache (if run.result.isOk then count else count + 1) terms

theorem looked_of_ok {compiled : Compiled V} (h : (c.fetch cache term).result = .ok compiled)
    (count : Nat) (terms : List K) : c.looked cache (count + 1) (term :: terms) =
      term :: c.looked (c.fetch cache term).cache count terms := by
  simp only [looked, h, Except.isOk, Except.toBool, if_true]

theorem looked_of_error {e : CompileError} (h : (c.fetch cache term).result = .error e)
    (count : Nat) (terms : List K) : c.looked cache (count + 1) (term :: terms) =
      term :: c.looked (c.fetch cache term).cache (count + 1) terms := by
  simp only [looked, h, Except.isOk, Except.toBool, Bool.false_eq_true, if_false]

theorem pull_cache (c : Compiler K V) (cache : Cache K (Compiled V)) (count : Nat) (terms : List K) :
    (c.pull cache count terms).cache = (c.fetchAll cache (c.looked cache count terms)).cache := by
  induction cache, count, terms using c.pull_induction with
  | zero cache terms => rw [looked]; rfl
  | nil cache count => rfl
  | ok fetched ih =>
    rw [pull_of_ok fetched, looked_of_ok fetched]
    exact ih
  | error fetched ih =>
    rw [pull_of_error fetched, looked_of_error fetched]
    exact ih

theorem fetch_cases (c : Compiler K V) (cache : Cache K (Compiled V)) (term : K) :
    (∃ compiled, cache.find? term = some compiled ∧ (c.fetch cache term).result = .ok compiled ∧
      (c.fetch cache term).cache.entries = cache.entries) ∨
    (∃ compiled, cache.find? term = none ∧ c.compile term = .ok compiled.form ∧
      (c.fetch cache term).result = .ok compiled ∧
      (c.fetch cache term).cache.entries = cache.entries ++ [(term, compiled)]) ∨
    (∃ e, cache.find? term = none ∧ c.compile term = .error e ∧
      (c.fetch cache term).result = .error e ∧ (c.fetch cache term).cache.entries = cache.entries) := by
  cases found : cache.find? term with
  | some compiled =>
    rw [fetch_of_found found]
    exact .inl ⟨compiled, rfl, rfl, rfl⟩
  | none =>
    cases compiles : c.compile term with
    | ok form =>
      rw [fetch_of_compiled found compiles]
      exact .inr (.inl ⟨_, rfl, rfl, rfl, rfl⟩)
    | error e =>
      rw [fetch_of_failed found compiles]
      exact .inr (.inr ⟨e, rfl, rfl, rfl, rfl⟩)

theorem fetchAll_entries (cache : Cache K (Compiled V)) (terms : List K) : ∃ added,
    (c.fetchAll cache terms).cache.entries = cache.entries ++ added ∧
      ∀ e ∈ added, e.2 ∈ kept (c.fetchAll cache terms).result ∧ c.compile e.1 = .ok e.2.form := by
  induction terms generalizing cache with
  | nil => exact ⟨[], by simp [fetchAll]⟩
  | cons term terms ih =>
    obtain ⟨added, entries, new⟩ := ih (c.fetch cache term).cache
    obtain ⟨compiled, -, result, same⟩ | ⟨compiled, -, compiles, result, more⟩ |
      ⟨e, -, -, result, same⟩ := c.fetch_cases cache term
    · rw [kept_of_ok result]
      refine ⟨added, by rw [fetchAll, entries, same], fun e he => ?_⟩
      exact ⟨.tail _ (new e he).1, (new e he).2⟩
    · rw [kept_of_ok result]
      refine ⟨(term, compiled) :: added, by rw [fetchAll, entries, more, List.append_assoc]; rfl, ?_⟩
      rintro e (_ | ⟨_, he⟩)
      · exact ⟨.head _, compiles⟩
      · exact ⟨.tail _ (new e he).1, (new e he).2⟩
    · rw [kept_of_error result]
      exact ⟨added, by rw [fetchAll, entries, same], new⟩

theorem fetchAll_find? {compiled : Compiled V} (found : cache.find? term = some compiled)
    (terms : List K) : (c.fetchAll cache terms).cache.find? term = some compiled := by
  obtain ⟨added, entries, -⟩ := c.fetchAll_entries cache terms
  rw [Cache.find?] at found
  rw [Cache.find?, entries, List.lookup_append, found, Option.some_or]

theorem find?_of_fetched [ReflBEq K] {compiled : Compiled V}
    (h : (c.fetch cache term).result = .ok compiled) :
    (c.fetch cache term).cache.find? term = some compiled := by
  obtain ⟨stored, found, result, same⟩ | ⟨new, miss, -, result, more⟩ | ⟨e, -, -, result, -⟩ :=
    c.fetch_cases cache term
  · rw [result] at h
    cases h
    rw [Cache.find?, same]
    exact found
  · rw [result] at h
    cases h
    rw [Cache.find?] at miss
    rw [Cache.find?, more, List.lookup_append, miss, Option.none_or, List.lookup_cons, BEq.rfl]
  · rw [result] at h
    cases h

def Settled (c : Compiler K V) (cache : Cache K (Compiled V)) (terms : List K) : Prop :=
  ∀ term ∈ terms, cache.find? term = none → ∃ e, c.compile term = .error e

theorem fetchAll_settles [ReflBEq K] (cache : Cache K (Compiled V)) (terms : List K) :
    c.Settled (c.fetchAll cache terms).cache terms := by
  induction terms generalizing cache with
  | nil => intro term member; cases member
  | cons term terms ih =>
    rintro u (_ | ⟨_, member⟩) missing
    · obtain ⟨compiled, -, result, -⟩ | ⟨compiled, -, -, result, -⟩ | ⟨e, -, compiles, -, -⟩ :=
        c.fetch_cases cache term
      · rw [fetchAll, fetchAll_find? (find?_of_fetched result)] at missing
        cases missing
      · rw [fetchAll, fetchAll_find? (find?_of_fetched result)] at missing
        cases missing
      · exact ⟨e, compiles⟩
    · exact ih _ u member missing

theorem Settled.fetchAll_entries {terms : List K} (h : c.Settled cache terms) :
    (c.fetchAll cache terms).cache.entries = cache.entries := by
  induction terms generalizing cache with
  | nil => rfl
  | cons term terms ih =>
    have head : (c.fetch cache term).cache.entries = cache.entries := by
      obtain ⟨_, -, -, same⟩ | ⟨_, miss, compiles, -, -⟩ | ⟨_, -, -, -, same⟩ :=
        c.fetch_cases cache term
      · exact same
      · obtain ⟨e, fails⟩ := h term (.head _) miss
        rw [compiles] at fails
        cases fails
      · exact same
    have tail : c.Settled (c.fetch cache term).cache terms := by
      intro u member missing
      rw [Cache.find?, head] at missing
      exact h u (.tail _ member) missing
    exact (ih tail).trans head

theorem fetchAll_new {terms : List K} {compiled : Compiled V} (missing : cache.find? term = none)
    (found : (c.fetchAll cache terms).cache.find? term = some compiled) :
    compiled ∈ kept (c.fetchAll cache terms).result ∧
      ∃ key, (term == key) = true ∧ c.compile key = .ok compiled.form := by
  obtain ⟨added, entries, new⟩ := c.fetchAll_entries cache terms
  rw [Cache.find?] at missing
  rw [Cache.find?, entries, List.lookup_append, missing, Option.none_or] at found
  have holds : Cache.Holds (fun key form => form ∈ kept (c.fetchAll cache terms).result ∧
      c.compile key = .ok form.form) { cache with entries := added } := new
  obtain ⟨key, equal, member, compiles⟩ := holds.find? found
  exact ⟨member, key, equal, compiles⟩

theorem fetch_failed {e : CompileError} (h : (c.fetch cache term).result = .error e) :
    (c.fetch cache term).cache.find? term = none ∧ c.compile term = .error e := by
  obtain ⟨_, -, result, -⟩ | ⟨_, -, -, result, -⟩ | ⟨_, missing, compiles, result, same⟩ :=
    c.fetch_cases cache term
  · rw [result] at h
    cases h
  · rw [result] at h
    cases h
  · rw [result] at h
    cases h
    rw [Cache.find?, same]
    exact ⟨missing, compiles⟩

theorem fetchAll_cons_cache (terms : List K) : (c.fetchAll cache (term :: terms)).cache =
    (c.fetchAll (c.fetch cache term).cache terms).cache := rfl

theorem mem_kept_iff [ReflBEq K] {terms : List K} {compiled : Compiled V} :
    compiled ∈ kept (c.fetchAll cache terms).result ↔
      ∃ term ∈ terms, (c.fetchAll cache terms).cache.find? term = some compiled := by
  induction terms generalizing cache with
  | nil => simp [fetchAll, kept]
  | cons term terms ih =>
    rw [fetchAll_cons_cache, List.exists_mem_cons_iff, ← ih]
    cases fetched : (c.fetch cache term).result with
    | ok first =>
      have stays := fetchAll_find? (c := c) (find?_of_fetched fetched) terms
      rw [kept_of_ok fetched, List.mem_cons, stays, Option.some_inj, eq_comm]
    | error e =>
      rw [kept_of_error fetched]
      refine ⟨.inr, fun h => h.elim (fun found => ?_) id⟩
      exact (fetchAll_new (fetch_failed fetched).1 found).1

theorem kept_eq [LawfulBEq K] (cache : Cache K (Compiled V)) (terms : List K) :
    kept (c.fetchAll cache terms).result = terms.filterMap (c.fetchAll cache terms).cache.find? := by
  induction terms generalizing cache with
  | nil => rfl
  | cons term terms ih =>
    rw [fetchAll_cons_cache]
    cases fetched : (c.fetch cache term).result with
    | ok first =>
      have stays := fetchAll_find? (c := c) (find?_of_fetched fetched) terms
      rw [kept_of_ok fetched, ih, List.filterMap_cons_some stays]
    | error e =>
      obtain ⟨missing, fails⟩ := fetch_failed fetched
      have absent : (c.fetchAll (c.fetch cache term).cache terms).cache.find? term = none := by
        by_contra held
        obtain ⟨form, found⟩ := Option.ne_none_iff_exists'.1 held
        obtain ⟨-, key, equal, compiles⟩ := fetchAll_new missing found
        rw [← eq_of_beq equal, fails] at compiles
        cases compiles
      rw [kept_of_error fetched, ih, List.filterMap_cons_none absent]

theorem mem_drain_again [ReflBEq K] (cache : Cache K (Compiled V)) (terms : List K)
    (compiled : Compiled V) : compiled ∈ (c.drain (c.drain cache terms).cache terms).result ↔
      compiled ∈ (c.drain cache terms).result := by
  have same := Cache.find?_congr (c.fetchAll_settles cache terms).fetchAll_entries
  rw [(drain_eq cache terms).2, (drain_eq _ terms).1, (drain_eq cache terms).1, mem_kept_iff,
    mem_kept_iff, same]

theorem drain_again [LawfulBEq K] (cache : Cache K (Compiled V)) (terms : List K) :
    (c.drain (c.drain cache terms).cache terms).result = (c.drain cache terms).result := by
  have same := Cache.find?_congr (c.fetchAll_settles cache terms).fetchAll_entries
  rw [(drain_eq cache terms).2, (drain_eq _ terms).1, (drain_eq cache terms).1, kept_eq, kept_eq,
    same]

end Listing.Compiler
