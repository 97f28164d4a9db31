import Listing.Proofs.Engine.Run

/-!
# Caches do not show

By the built-in rules, the caches that a scope reaches only hold what their keys compile to
(`Caches.Reached.sound`), and so do those of an engine. Fetching a term then has the
outcome that compiling it afresh has (`fetch_transparent`): the same error, or a form that does the same
on all records, although it may have been compiled from another term with an equal key.
-/

namespace Listing

structure Caches.Sound (s : Scope) (caches : Caches) : Prop where
  filters : caches.filters.Holds (s.filters.Serves Predicate.Equivalent)
  sorts : caches.sorts.Holds (s.sorts.Serves SortKey.Equivalent)

namespace Caches

variable {s : Scope} {caches : Caches}

theorem sound_empty (bound : Option Nat) : Sound s (empty bound) :=
  ⟨Cache.holds_empty bound, Cache.holds_empty bound⟩

theorem Sound.fetches {after : Caches} (h : caches.Sound s) (rules : s.rules = Coercion.builtin)
    (fetched : Caches.Fetches s caches after) : after.Sound s :=
  ⟨fetched.1.serves (s.filters_respects rules) h.filters, fetched.2.serves s.sorts_respects h.sorts⟩

theorem Sound.loses {after : Caches} (h : caches.Sound s) (lost : caches.Loses after) : after.Sound s :=
  ⟨h.filters.loses lost.1, h.sorts.loses lost.2⟩

theorem Reached.sound (h : caches.Reached s) (rules : s.rules = Coercion.builtin) : caches.Sound s := by
  induction h with
  | empty bound => exact sound_empty bound
  | @work config caches task _ ih =>
    obtain fetched | cleared := Task.fetches_or_clears ⟨s, config⟩ caches task
    · exact ih.fetches rules fetched
    · rw [cleared]
      exact ih.loses caches.loses_clear
  | lose _ lost ih => exact ih.loses lost

end Caches

namespace Engine

theorem fetch_transparent {e : Engine} {config : Config} {catalog : Catalog} {type : RecordType}
    {b : Builder} {caches : Caches} (h : Reached (new config catalog Coercion.builtin) e)
    (handed : e.builder type = .ok (b, caches)) :
    (∀ term, Corresponds Eq
      (fun compiled p => ∀ record, compiled.form.eval record = p.eval record)
      (b.scope.filters.fetch caches.filters term).result (b.scope.compileFilter term)) ∧
    ∀ term, Corresponds Eq
      (fun compiled k => ∀ x y, compiled.form.compare x y = k.compare x y)
      (b.scope.sorts.fetch caches.sorts term).result (b.scope.compileSort term) := by
  obtain ⟨rules, reached⟩ := reached_caches h handed
  have sound := reached.sound rules
  exact ⟨Compiler.fetch_corresponds (b.scope.filters_respects rules) sound.filters,
    Compiler.fetch_corresponds b.scope.sorts_respects sound.sorts⟩

def floats : RecordType := ⟨0, "Floats"⟩

def equalsFloat (x : Binary64) : FilterTerm := ⟨"x", [], .compare .equal, .float x⟩

theorem fetch_transparent_signed_zeros : ∃ e b caches,
    Reached (new .default ⟨[[⟨"x", [], .float⟩]]⟩ Coercion.builtin) e ∧
    e.builder floats = .ok (b, caches) ∧
    (caches.filters.find? (equalsFloat (.ofParts true 0))).map (·.serial) = some 1 ∧
    Corresponds Eq (fun compiled p => ∀ record, compiled.form.eval record = p.eval record)
      (b.scope.filters.fetch caches.filters (equalsFloat (.ofParts true 0))).result
      (b.scope.compileFilter (equalsFloat (.ofParts true 0))) := by
  let catalog : Catalog := ⟨[[⟨"x", [], .float⟩]]⟩
  let b : Builder := ⟨⟨catalog, catalog.schema floats, Coercion.builtin⟩, .default⟩
  let task : Task := .fetchFilter (equalsFloat (.ofParts false 0))
  let operations : List (RecordType × Operation) :=
    [(floats, .register), (floats, .builder), (floats, .use 0 task)]
  let s := Session.run .default catalog Coercion.builtin operations
  have accepted : catalog.check floats = .ok () := by
    simp [Catalog.check, Catalog.survey, Catalog.schema, Catalog.namesFrom, Schema.held,
      FieldType.held?, FieldType.record?, FieldType.element?, FieldType.strip, floats, catalog]
  have life := Session.life_run .default catalog Coercion.builtin operations floats
  have own : Session.concerning floats operations = [.register, .builder, .use 0 task] := rfl
  rw [own, accepted] at life
  have found : s.engine.registry.find? floats = some (task.run b (.empty none)) :=
    congrArg Session.Life.caches life
  have same : b = ⟨s.engine.scope floats, s.engine.config⟩ := by
    rw [Session.scope_run, (Session.run_fixed ..).1]
  have handed := builder_ok.2 ⟨same, found⟩
  have reached : Reached (new .default catalog Coercion.builtin) s.engine := ⟨operations, rfl⟩
  exact ⟨_, _, _, reached, handed, by decide, (fetch_transparent reached handed).1 _⟩

end Engine

end Listing
