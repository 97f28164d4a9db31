import Listing.Proofs.Compile.Drain

namespace Listing

inductive Pruned {α : Type} (removable : α → Prop) : List α → List α → Prop
  | nil : Pruned removable [] []
  | keep {x xs ys} : Pruned removable xs ys → Pruned removable (x :: xs) (x :: ys)
  | drop {x xs ys} : removable x → Pruned removable xs ys → Pruned removable (x :: xs) ys

namespace Compiler

variable {K V : Type} {c : Compiler K V} {terms terms' : List K}

def forms (c : Compiler K V) (terms : List K) : List V :=
  terms.filterMap fun term => (c.compile term).toOption

theorem forms_of_ok {term : K} {form : V} (h : c.compile term = .ok form) (terms : List K) :
    c.forms (term :: terms) = form :: c.forms terms := by
  simp only [forms, List.filterMap_cons, h, Except.toOption]

theorem forms_of_error {term : K} {e : CompileError} (h : c.compile term = .error e) (terms : List K) :
    c.forms (term :: terms) = c.forms terms := by
  simp only [forms, List.filterMap_cons, h, Except.toOption]

theorem forms_append (terms terms' : List K) :
    c.forms (terms ++ terms') = c.forms terms ++ c.forms terms' := List.filterMap_append ..

theorem mem_forms_iff {form : V} : form ∈ c.forms terms ↔ ∃ term ∈ terms, c.compile term = .ok form := by
  rw [forms, List.mem_filterMap]
  refine exists_congr fun term => and_congr_right fun _ => ?_
  cases c.compile term <;> simp [Except.toOption]

theorem forms_pruned (h : Pruned (fun term => ∃ e, c.compile term = .error e) terms terms') :
    c.forms terms = c.forms terms' := by
  induction h with
  | nil => rfl
  | @keep term terms terms' _ ih =>
    cases compiles : c.compile term with
    | ok form => rw [forms_of_ok compiles, forms_of_ok compiles, ih]
    | error e => rw [forms_of_error compiles, forms_of_error compiles, ih]
  | drop fails _ ih =>
    obtain ⟨e, fails⟩ := fails
    rw [forms_of_error fails, ih]

variable [BEq K] {same : V → V → Prop}

theorem all_forms_of_subset (respects : c.Respects same) {test : V → Bool}
    (congr : ∀ v w, same v w → test v = test w)
    (within : ∀ term ∈ terms', ∃ other ∈ terms, (term == other) = true)
    (all : (c.forms terms).all test = true) : (c.forms terms').all test = true := by
  rw [List.all_eq_true] at all ⊢
  intro form member
  obtain ⟨term, listed, compiles⟩ := mem_forms_iff.1 member
  obtain ⟨other, listed', equal⟩ := within term listed
  obtain ⟨form', compiles', forms⟩ := (respects.compile equal).exists_ok compiles
  rw [congr _ _ forms]
  exact all form' (mem_forms_iff.2 ⟨other, listed', compiles'⟩)

theorem drain_forms (respects : c.Respects same) {cache : Cache K (Compiled V)}
    (sound : cache.Holds (c.Serves same)) (terms : List K) :
    List.Forall₂ (fun compiled form => same compiled.form form) (c.drain cache terms).result
      (c.forms terms) := by
  rw [(drain_eq cache terms).1]
  induction terms generalizing cache with
  | nil => exact .nil
  | cons term terms ih =>
    have head := fetch_corresponds respects sound term
    have tail := ih (fetch_serves respects sound term)
    cases fetched : (c.fetch cache term).result with
    | ok compiled =>
      obtain ⟨form, compiles, served⟩ := head.exists_ok fetched
      rw [kept_of_ok fetched, forms_of_ok compiles]
      exact .cons served tail
    | error e =>
      rw [kept_of_error fetched, forms_of_error (fetch_failed fetched).2]
      exact tail

end Compiler

end Listing
