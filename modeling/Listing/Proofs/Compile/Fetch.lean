import Mathlib.Logic.Relation
import Listing.Compile.Compiler
import Listing.Proofs.Cache
import Listing.Proofs.Compile.Alike

namespace Listing

namespace Compiler

variable {K V : Type} [BEq K] {c : Compiler K V} {cache : Cache K (Compiled V)} {term : K}

theorem fetch_of_found {compiled : Compiled V} (h : cache.find? term = some compiled) :
    c.fetch cache term =
      ⟨.ok compiled, { cache with hits := cache.hits + 1 }, [c.found term]⟩ := by
  simp [fetch, Cache.get, h]

theorem fetch_of_compiled {form : V} (miss : cache.find? term = none)
    (h : c.compile term = .ok form) :
    c.fetch cache term = ⟨.ok ⟨form, cache.misses + 1⟩,
      { cache with
        misses := cache.misses + 1
        entries := cache.entries ++ [(term, ⟨form, cache.misses + 1⟩)] }, [c.stored term]⟩ := by
  have miss' : ({ cache with misses := cache.misses + 1 } : Cache K (Compiled V)).find? term = none :=
    miss
  simp [fetch, Cache.get, miss, h, Cache.insert_of_miss miss']

theorem fetch_of_failed {error : CompileError} (miss : cache.find? term = none)
    (h : c.compile term = .error error) :
    c.fetch cache term = ⟨.error error, { cache with misses := cache.misses + 1 }, []⟩ := by
  simp [fetch, Cache.get, miss, h]

def Fetches (c : Compiler K V) : Cache K (Compiled V) → Cache K (Compiled V) → Prop :=
  Relation.ReflTransGen fun before after => ∃ term, after = (c.fetch before term).cache

theorem fetches_fetch (cache : Cache K (Compiled V)) (term : K) :
    c.Fetches cache (c.fetch cache term).cache :=
  .single ⟨term, rfl⟩

theorem attempt_cache (cache : Cache K (Compiled V)) (term : K) :
    (c.attempt cache term).cache = (c.fetch cache term).cache := by
  unfold attempt
  dsimp only
  split <;> rfl

theorem attempt_result (cache : Cache K (Compiled V)) (term : K) :
    (c.attempt cache term).result = (c.fetch cache term).result := by
  unfold attempt
  dsimp only
  split <;> rfl

theorem fetches_attempt (cache : Cache K (Compiled V)) (term : K) :
    c.Fetches cache (c.attempt cache term).cache := by
  rw [attempt_cache]
  exact fetches_fetch cache term

theorem fetches_next (cache : Cache K (Compiled V)) (terms : List K) :
    c.Fetches cache (c.next cache terms).cache := by
  induction terms generalizing cache with
  | nil => exact .refl
  | cons term terms ih =>
    have head := fetches_attempt (c := c) cache term
    unfold next
    dsimp only
    split
    · exact head
    · exact head.trans (ih _)

theorem fetches_pull (cache : Cache K (Compiled V)) (count : Nat) (terms : List K) :
    c.Fetches cache (c.pull cache count terms).cache := by
  induction count generalizing cache terms with
  | zero => exact .refl
  | succ count ih =>
    have head := fetches_next (c := c) cache terms
    unfold pull
    dsimp only
    split
    · exact head
    · exact head.trans (ih _ _)

theorem fetches_drain (cache : Cache K (Compiled V)) (terms : List K) :
    c.Fetches cache (c.drain cache terms).cache :=
  fetches_pull cache _ terms

/-- Terms with one key compile alike, up to forms that are the same in use. -/
structure Respects (c : Compiler K V) (same : V → V → Prop) : Prop where
  equivalence : Equivalence same
  compile {t u : K} : (t == u) = true →
    Corresponds CompileError.SameKind same (c.compile t) (c.compile u)

/-- The entry is as good as what its key compiles to. -/
def Serves (c : Compiler K V) (same : V → V → Prop) (term : K) (compiled : Compiled V) : Prop :=
  ∃ form, c.compile term = .ok form ∧ same compiled.form form

variable {same : V → V → Prop}

theorem Respects.find? (respects : c.Respects same) (sound : cache.Holds (c.Serves same))
    {compiled : Compiled V} (found : cache.find? term = some compiled) :
    c.Serves same term compiled := by
  obtain ⟨key, equal, form, compiles, served⟩ := sound.find? found
  obtain ⟨succeed, -, forms⟩ := Corresponds.iff.1 (respects.compile equal)
  obtain ⟨form', compiles'⟩ := succeed.2 ⟨form, compiles⟩
  have both := forms form' form compiles' compiles
  exact ⟨form', compiles', respects.equivalence.trans served (respects.equivalence.symm both)⟩

theorem fetch_serves (respects : c.Respects same) (sound : cache.Holds (c.Serves same)) (term : K) :
    (c.fetch cache term).cache.Holds (c.Serves same) := by
  cases found : cache.find? term with
  | some compiled =>
    rw [fetch_of_found found]
    exact sound
  | none =>
    cases h : c.compile term with
    | error e =>
      rw [fetch_of_failed found h]
      exact sound
    | ok form =>
      rw [fetch_of_compiled found h]
      exact Cache.Holds.append (c := { cache with misses := cache.misses + 1 }) sound
        ⟨form, h, respects.equivalence.refl form⟩

theorem Fetches.serves (respects : c.Respects same) {after : Cache K (Compiled V)}
    (run : c.Fetches cache after) (sound : cache.Holds (c.Serves same)) :
    after.Holds (c.Serves same) := by
  induction run with
  | refl => exact sound
  | tail _ step ih =>
    obtain ⟨term, rfl⟩ := step
    exact fetch_serves respects ih term

theorem fetch_corresponds (respects : c.Respects same) (sound : cache.Holds (c.Serves same))
    (term : K) :
    Corresponds Eq (fun compiled form => same compiled.form form) (c.fetch cache term).result
      (c.compile term) := by
  cases found : cache.find? term with
  | some compiled =>
    obtain ⟨form, compiles, served⟩ := respects.find? sound found
    rw [fetch_of_found found, compiles]
    exact .ok served
  | none =>
    cases h : c.compile term with
    | error e =>
      rw [fetch_of_failed found h]
      exact .error rfl
    | ok form =>
      rw [fetch_of_compiled found h]
      exact .ok (respects.equivalence.refl form)

end Compiler

def SortKey.Equivalent (k l : SortKey) : Prop := ∀ a b, k.compare a b = l.compare a b

namespace Scope

variable {s : Scope}

theorem filters_respects (rules : s.rules = Coercion.builtin) :
    s.filters.Respects Predicate.Equivalent where
  equivalence := ⟨fun _ _ => rfl, .symm, .trans⟩
  compile := s.compileFilter_alike rules

theorem sorts_respects : s.sorts.Respects SortKey.Equivalent where
  equivalence := ⟨fun _ _ _ => rfl, fun h a b => (h a b).symm, fun h h' a b => (h a b).trans (h' a b)⟩
  compile := by
    intro t u same
    obtain rfl := eq_of_beq same
    cases s.sorts.compile t with
    | ok key => exact .ok fun _ _ => rfl
    | error e => exact .error rfl

end Scope

end Listing
