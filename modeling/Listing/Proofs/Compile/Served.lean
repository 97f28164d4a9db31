import Mathlib.Data.List.Induction
import Listing.Proofs.Compile.Drain

namespace Listing

theorem Cache.find?_of_beq {K V : Type} [BEq K] [PartialEquivBEq K] {key key' : K}
    (h : (key == key') = true) (cache : Cache K V) : cache.find? key = cache.find? key' := by
  unfold Cache.find?
  induction cache.entries with
  | nil => rfl
  | cons e entries ih => rw [List.lookup_cons, List.lookup_cons, BEq.congr_left h, ih]

namespace Compiler

variable {K V : Type} (c : Compiler K V)

def compiles (term : K) : Bool := (c.compile term).isOk

theorem compiles_iff {c : Compiler K V} {term : K} :
    c.compiles term = true ↔ ∃ form, c.compile term = .ok form := by
  unfold compiles
  cases c.compile term <;> simp [Except.isOk, Except.toBool]

theorem compiles_of_ok {c : Compiler K V} {term : K} {form : V} (h : c.compile term = .ok form) :
    c.compiles term = true := compiles_iff.2 ⟨form, h⟩

theorem compiles_of_error {c : Compiler K V} {term : K} {e : CompileError}
    (h : c.compile term = .error e) : c.compiles term = false := by
  rw [compiles, h]
  rfl

variable [BEq K]

/-- Whether an equal term is held once the terms in front have been fetched. -/
def isServed (cache : Cache K (Compiled V)) (before : List K) (term : K) : Bool :=
  ((c.fetchAll cache before).cache.find? term).isSome

def failure? (cache : Cache K (Compiled V)) (before : List K) (term : K) : Option CompileError :=
  if c.isServed cache before term then none else error? (c.compile term)

theorem fetchAll_concat_cache (cache : Cache K (Compiled V)) (terms : List K) (term : K) :
    (c.fetchAll cache (terms ++ [term])).cache =
      (c.fetch (c.fetchAll cache terms).cache term).cache := by
  rw [fetchAll_append]
  rfl

variable {c} {cache : Cache K (Compiled V)}

theorem Respects.compiles_eq {same : V → V → Prop} (respects : c.Respects same) {term other : K}
    (h : (term == other) = true) : c.compiles term = c.compiles other := by
  rw [Bool.eq_iff_iff, compiles_iff, compiles_iff]
  exact (Corresponds.iff.1 (respects.compile h)).1

def HoldsCompiling (c : Compiler K V) (cache : Cache K (Compiled V)) : Prop :=
  cache.Holds fun key _ => c.compiles key = true

theorem HoldsCompiling.fetch (h : c.HoldsCompiling cache) (term : K) :
    c.HoldsCompiling (c.fetch cache term).cache := by
  intro entry listed
  obtain ⟨_, -, -, same⟩ | ⟨_, -, compiles, -, more⟩ | ⟨_, -, -, -, same⟩ := c.fetch_cases cache term
  · exact h entry (same ▸ listed)
  · rw [more, List.mem_append, List.mem_singleton] at listed
    obtain listed | rfl := listed
    · exact h entry listed
    · exact compiles_of_ok compiles
  · exact h entry (same ▸ listed)

theorem HoldsCompiling.fetchAll (h : c.HoldsCompiling cache) (terms : List K) :
    c.HoldsCompiling (c.fetchAll cache terms).cache := by
  induction terms generalizing cache with
  | nil => exact h
  | cons term terms ih => exact ih (h.fetch term)

theorem failure?_of_respects {same : V → V → Prop} (respects : c.Respects same)
    (sound : c.HoldsCompiling cache) (before : List K) (term : K) :
    c.failure? cache before term = error? (c.compile term) := by
  rw [failure?]
  cases compiles : c.compile term with
  | ok form => exact ite_self _
  | error e =>
    have unserved : c.isServed cache before term = false := by
      rw [isServed]
      cases found : (c.fetchAll cache before).cache.find? term with
      | none => rfl
      | some compiled =>
        obtain ⟨key, equal, held⟩ := (sound.fetchAll before).find? found
        rw [← respects.compiles_eq equal, compiles_of_error compiles] at held
        cases held
    rw [unserved]
    rfl

theorem fetchAll_failure (cache : Cache K (Compiled V)) (before : List K) (term : K) :
    error? (c.fetch (c.fetchAll cache before).cache term).result = c.failure? cache before term := by
  rw [failure?, isServed]
  obtain ⟨compiled, found, result, -⟩ | ⟨compiled, missed, compiles, result, -⟩ |
    ⟨e, missed, fails, result, -⟩ := c.fetch_cases (c.fetchAll cache before).cache term
  · rw [result, found]
    rfl
  · rw [result, missed, compiles]
    rfl
  · rw [result, missed, fails]
    rfl

variable [EquivBEq K]

theorem isSome_find?_fetch (cache : Cache K (Compiled V)) (fetched term : K) :
    ((c.fetch cache fetched).cache.find? term).isSome =
      ((cache.find? term).isSome || term == fetched && c.compiles fetched) := by
  obtain ⟨compiled, found, -, same⟩ | ⟨compiled, -, compiles, -, more⟩ | ⟨e, -, fails, -, same⟩ :=
    c.fetch_cases cache fetched
  · rw [Cache.find?_congr same]
    cases equal : term == fetched with
    | true => rw [Cache.find?_of_beq equal, found]; rfl
    | false => rw [Bool.false_and, Bool.or_false]
  · rw [compiles_of_ok compiles, Bool.and_true, Cache.find?, more, List.lookup_append,
      List.lookup_cons, List.lookup_nil, Option.isSome_or]
    cases term == fetched <;> rfl
  · rw [Cache.find?_congr same, compiles_of_error fails, Bool.and_false, Bool.or_false]

theorem isServed_eq (cache : Cache K (Compiled V)) (before : List K) (term : K) :
    c.isServed cache before term =
      ((cache.find? term).isSome || before.any fun u => term == u && c.compiles u) := by
  induction before using List.reverseRecOn with
  | nil => rw [List.any_nil, Bool.or_false]; rfl
  | append_singleton before last ih =>
    rw [isServed, fetchAll_concat_cache, isSome_find?_fetch, ← isServed, ih, List.any_append,
      Bool.or_assoc, List.any_cons, List.any_nil, Bool.or_false]

end Compiler

end Listing
