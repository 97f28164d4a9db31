import Mathlib.Data.List.Induction
import Mathlib.Logic.Function.Basic
import Listing.Proofs.Engine.Registry
import Listing.Proofs.Query.Caches

/-!
# Runs of an engine

A session is an engine with the builders that it has handed out. Each builder works on the cells that it
was given when it was handed out, at whatever later time. It is an invariant (`Coherent.step`) that these are
the cells of its type and that no two types share a cell, so an operation does to its own type what
`Life.advance` says (`Effect.life_self`), and to the other types nothing (`Effect.life_other`). After a run
each type is as if it had been alone (`life_run`).
-/

namespace Listing

/-- An operation on a record type. A builder is named by its index among those handed out for the type. -/
inductive Operation where
  | register
  | builder
  | use (index : Nat) (task : Task)
  | clear
  | stats
  /-- Bounded caches may drop entries on their own, wherever they stand. -/
  | lose (keepsFilter keepsSort : Nat → Bool)

def Operation.registers : Operation → Bool
  | .register => true
  | _ => false

theorem Caches.loses_keep (caches : Caches) (keepsFilter keepsSort : Nat → Bool) :
    caches.Loses (caches.keep keepsFilter keepsSort) := ⟨⟨_, rfl⟩, ⟨_, rfl⟩⟩

structure Session where
  engine : Engine
  held : RecordType → List Lease

namespace Session

def start (config : Config) (catalog : Catalog) (rules : List Coercion.Rule) : Session :=
  ⟨.new config catalog rules, fun _ => []⟩

def step (s : Session) : RecordType × Operation → Session
  | (type, .register) =>
    match s.engine.register type with
    | .ok (engine, _) => { s with engine }
    | .error _ => s
  | (type, .builder) =>
    match s.engine.lease type with
    | .ok lease => { s with held := Function.update s.held type (s.held type ++ [lease]) }
    | .error _ => s
  | (type, .use index task) =>
    match (s.held type)[index]? with
    | some lease =>
      { s with engine := (s.engine.work lease fun b caches => ⟨(), task.run b caches, []⟩).2.1 }
    | none => s
  | (type, .clear) => { s with engine := (s.engine.clear type).2 }
  | (_, .stats) => s
  | (type, .lose keepsFilter keepsSort) =>
    { s with engine := s.engine.revise type fun caches => caches.keep keepsFilter keepsSort }

def run (config : Config) (catalog : Catalog) (rules : List Coercion.Rule)
    (operations : List (RecordType × Operation)) : Session :=
  operations.foldl step (start config catalog rules)

end Session

namespace Engine

variable {e : Engine} {type other : RecordType} {lease : Lease}

/-- The engine that is left after some operations, none of its builders being held at first. -/
def Reached (start e : Engine) : Prop :=
  ∃ operations : List (RecordType × Operation),
    e = (operations.foldl Session.step ⟨start, fun _ => []⟩).engine

theorem lease_ok : e.lease type = .ok lease ↔
    e.registry.place? type = some lease.place ∧ lease.builder = ⟨e.scope type, e.config⟩ := by
  obtain ⟨b, place⟩ := lease
  cases found : e.registry.place? type with
  | none => simp [Engine.lease, Registry.place, found, bind, Except.bind]
  | some own =>
    simp [Engine.lease, Registry.place, found, bind, Except.bind, and_comm, eq_comm]

theorem builder_ok {b : Builder} {caches : Caches} : e.builder type = .ok (b, caches) ↔
    b = ⟨e.scope type, e.config⟩ ∧ e.registry.find? type = some caches := by
  cases found : e.registry.place? type with
  | none =>
    simp [builder, lease, Registry.place, Registry.find?, found, bind, Except.bind]
  | some place =>
    simp [builder, lease, Registry.place, Registry.find?, Engine.caches, found, bind, Except.bind, eq_comm]

theorem work_eq_revise {α : Type} (own : e.lease type = .ok lease) (task : Builder → Caches → Built α) :
    (e.work lease task).2.1 = e.revise type fun caches => (task lease.builder caches).caches := by
  rw [revise, Registry.revise_of_place? (lease_ok.1 own).1]
  rfl

end Engine

namespace Session

variable {s s' : Session} {type other : RecordType}

/-! ## One type -/

structure Life where
  caches : Option Caches
  held : List Builder

def life (s : Session) (type : RecordType) : Life :=
  ⟨s.engine.registry.find? type, (s.held type).map (·.builder)⟩

def Life.advance (accepted : Bool) (capacity : Option Nat) (b : Builder) (life : Life) :
    Operation → Life
  | .register =>
    if accepted && life.caches.isNone then { life with caches := some (.empty capacity) } else life
  | .builder => if life.caches.isSome then { life with held := life.held ++ [b] } else life
  | .use index task =>
    match life.held[index]? with
    | some b => { life with caches := life.caches.map fun caches => task.run b caches }
    | none => life
  | .clear => { life with caches := life.caches.map Caches.clear }
  | .stats => life
  | .lose keepsFilter keepsSort =>
    { life with caches := life.caches.map fun caches => caches.keep keepsFilter keepsSort }

structure Life.Consistent (b : Builder) (life : Life) : Prop where
  alike : ∀ handed ∈ life.held, handed = b
  registered : life.held ≠ [] → life.caches.isSome = true
  reached : ∀ caches, life.caches = some caches → caches.Reached b.scope

theorem Life.consistent_none (b : Builder) : Consistent b ⟨none, []⟩ where
  alike _ member := nomatch member
  registered some := (some rfl).elim
  reached _ found := nomatch found

theorem Life.Consistent.map {b : Builder} {life : Life} (h : life.Consistent b) {change : Caches → Caches}
    (kept : ∀ caches, caches.Reached b.scope → (change caches).Reached b.scope) :
    Consistent b { life with caches := life.caches.map change } where
  alike := h.alike
  registered some := by
    rw [Option.isSome_map]
    exact h.registered some
  reached caches found := by
    obtain ⟨before, found', rfl⟩ := Option.map_eq_some_iff.1 found
    exact kept before (h.reached before found')

theorem Life.Consistent.advance {accepted : Bool} {capacity : Option Nat} {b : Builder} {life : Life}
    (h : life.Consistent b) (operation : Operation) :
    (life.advance accepted capacity b operation).Consistent b := by
  cases operation with
  | register =>
    rw [Life.advance]
    split
    · refine ⟨h.alike, fun _ => rfl, ?_⟩
      rintro _ ⟨⟩
      exact .empty capacity
    · exact h
  | builder =>
    rw [Life.advance]
    split
    · refine ⟨?_, fun _ => ‹_›, h.reached⟩
      intro handed member
      obtain member | member := List.mem_append.1 member
      · exact h.alike handed member
      · exact List.mem_singleton.1 member
    · exact h
  | use index task =>
    rw [Life.advance]
    split
    · rename_i handed named
      obtain rfl := h.alike handed (List.mem_of_getElem? named)
      exact h.map fun _ reached => reached.work task
    · exact h
  | clear => exact h.map fun caches reached => reached.lose caches.loses_clear
  | stats => exact h
  | lose keepsFilter keepsSort =>
    exact h.map fun caches reached => reached.lose (caches.loses_keep keepsFilter keepsSort)

/-! ## One step -/

/-- Every builder has the place of its type, and no two types have a cell in common. -/
structure Coherent (s : Session) : Prop where
  registry : s.engine.registry.Coherent
  held {type : RecordType} {lease : Lease} : lease ∈ s.held type → s.engine.lease type = .ok lease

theorem coherent_start (config : Config) (catalog : Catalog) (rules : List Coercion.Rule) :
    (start config catalog rules).Coherent where
  registry := Registry.coherent_empty _
  held member := nomatch member

inductive Effect (s : Session) (type : RecordType) : Life → Session → Prop
  | refused : Effect s type (s.life type) s
  | added : s.engine.registry.place? type = none →
      Effect s type { s.life type with caches := some (.empty s.engine.registry.capacity) }
        { s with engine := { s.engine with registry := s.engine.registry.add type } }
  | handed {lease : Lease} : s.engine.lease type = .ok lease →
      Effect s type { s.life type with held := (s.life type).held ++ [lease.builder] }
        { s with held := Function.update s.held type (s.held type ++ [lease]) }
  | revised (change : Caches → Caches) :
      Effect s type { s.life type with caches := (s.life type).caches.map change }
        { s with engine := s.engine.revise type change }

theorem register_refused {error : RegistrationError}
    (h : s.engine.catalog.check type = .error error) : s.step (type, .register) = s := by
  simp only [step, Engine.register, Registry.register, h, bind, Except.bind]

theorem register_again (h : s.engine.catalog.check type = .ok ())
    (known : s.engine.registry.isRegistered type = true) :
    s.engine.register type = .ok (s.engine, []) := by
  rw [Engine.register, Registry.register_again h known]
  rfl

theorem register_fresh (h : s.engine.catalog.check type = .ok ())
    (fresh : s.engine.registry.place? type = none) : s.step (type, .register) =
      { s with engine := { s.engine with registry := s.engine.registry.add type } } := by
  simp only [step, Engine.register, Registry.register_fresh h fresh, bind, Except.bind]

theorem isSome_life (s : Session) (type : RecordType) :
    (s.life type).caches.isSome = s.engine.registry.isRegistered type := Registry.isSome_find? _ _

theorem effect_register (s : Session) (type : RecordType) (b : Builder) :
    Effect s type
      ((s.life type).advance (s.engine.catalog.check type).isOk s.engine.registry.capacity b .register)
      (s.step (type, .register)) := by
  rw [Life.advance]
  cases checked : s.engine.catalog.check type with
  | error error =>
    rw [register_refused checked]
    exact .refused
  | ok _ =>
    cases found : s.engine.registry.place? type with
    | none =>
      have missing : (s.life type).caches = none := Registry.find?_eq_none_iff.2 found
      rw [register_fresh checked found, missing]
      exact .added found
    | some place =>
      have known : s.engine.registry.isRegistered type = true := Registry.isRegistered_iff.2 ⟨_, found⟩
      have present : (s.life type).caches = some _ := Registry.find?_of_place? found
      have unchanged : s.step (type, .register) = s := by
        simp only [step, register_again checked known]
      rw [unchanged, present]
      exact .refused

theorem effect_builder (s : Session) (type : RecordType) (accepted : Bool) (capacity : Option Nat) :
    Effect s type
      ((s.life type).advance accepted capacity ⟨s.engine.scope type, s.engine.config⟩ .builder)
      (s.step (type, .builder)) := by
  rw [Life.advance, isSome_life, Registry.isRegistered]
  cases found : s.engine.registry.place? type with
  | none =>
    have refused : s.step (type, .builder) = s := by
      simp only [step, Engine.lease, Registry.place, found, bind, Except.bind]
    rw [refused]
    exact .refused
  | some place =>
    have own : s.engine.lease type = .ok ⟨⟨s.engine.scope type, s.engine.config⟩, place⟩ :=
      Engine.lease_ok.2 ⟨found, rfl⟩
    simp only [step, own]
    exact .handed own

theorem effect_step (h : s.Coherent) (type : RecordType) (operation : Operation) :
    Effect s type
      ((s.life type).advance (s.engine.catalog.check type).isOk s.engine.registry.capacity
        ⟨s.engine.scope type, s.engine.config⟩ operation)
      (s.step (type, operation)) := by
  cases operation with
  | register => exact s.effect_register type _
  | builder => exact s.effect_builder type _ _
  | use index task =>
    cases named : (s.held type)[index]? with
    | none =>
      have unnamed : (s.life type).held[index]? = none := by rw [life, List.getElem?_map, named]; rfl
      simp only [Life.advance, unnamed, step, named]
      exact .refused
    | some lease =>
      have listed : (s.life type).held[index]? = some lease.builder := by
        rw [life, List.getElem?_map, named]; rfl
      have own := h.held (List.mem_of_getElem? named)
      simp only [Life.advance, listed, step, named, Engine.work_eq_revise own]
      exact .revised _
  | clear => exact .revised _
  | stats => exact .refused
  | lose keepsFilter keepsSort => exact .revised _

namespace Effect

variable {life : Life}

theorem coherent (h : s.Coherent) (effect : Effect s type life s') : s'.Coherent := by
  cases effect with
  | refused => exact h
  | added fresh =>
    refine ⟨h.registry.add type, ?_⟩
    intro other lease member
    obtain ⟨found, alike⟩ := Engine.lease_ok.1 (h.held member)
    refine Engine.lease_ok.2 ⟨?_, alike⟩
    rw [Registry.place?_add, if_neg, found]
    rintro rfl
    rw [fresh] at found
    cases found
  | handed own =>
    refine ⟨h.registry, ?_⟩
    intro other lease member
    by_cases same : other = type
    · subst other
      simp only [Function.update_self, List.mem_append, List.mem_singleton] at member
      obtain member | rfl := member
      · exact h.held member
      · exact own
    · simp only [Function.update_of_ne same] at member
      exact h.held member
  | revised change =>
    refine ⟨h.registry.revise type change, ?_⟩
    intro other lease member
    obtain ⟨found, alike⟩ := Engine.lease_ok.1 (h.held member)
    exact Engine.lease_ok.2 ⟨(Registry.place?_revise ..).trans found, alike⟩

theorem life_self (h : s.Coherent) (effect : Effect s type life s') : s'.life type = life := by
  cases effect with
  | refused => rfl
  | added fresh =>
    unfold Session.life
    rw [Registry.find?_add h.registry, if_pos rfl]
  | handed own =>
    simp only [Session.life, Function.update_self, List.map_append, List.map_cons, List.map_nil]
  | revised change =>
    unfold Session.life Engine.revise
    rw [Registry.find?_revise h.registry, if_pos rfl]

theorem life_other (h : s.Coherent) (effect : Effect s type life s') (apart : other ≠ type) :
    s'.life other = s.life other := by
  cases effect with
  | refused => rfl
  | added fresh =>
    unfold Session.life
    rw [Registry.find?_add h.registry, if_neg apart]
  | handed own => simp only [Session.life, Function.update_of_ne apart]
  | revised change =>
    unfold Session.life Engine.revise
    rw [Registry.find?_revise h.registry, if_neg apart]

theorem fixed (effect : Effect s type life s') : s'.engine.config = s.engine.config ∧
    s'.engine.catalog = s.engine.catalog ∧ s'.engine.rules = s.engine.rules ∧
    s'.engine.registry.capacity = s.engine.registry.capacity := by
  cases effect with
  | revised change => exact ⟨rfl, rfl, rfl, Registry.capacity_revise ..⟩
  | _ => exact ⟨rfl, rfl, rfl, rfl⟩

end Effect

theorem Coherent.step (h : s.Coherent) (type : RecordType) (operation : Operation) :
    (s.step (type, operation)).Coherent := (effect_step h type operation).coherent h

theorem step_fixed (s : Session) (type : RecordType) (operation : Operation) :
    (s.step (type, operation)).engine.config = s.engine.config ∧
    (s.step (type, operation)).engine.catalog = s.engine.catalog ∧
    (s.step (type, operation)).engine.rules = s.engine.rules ∧
    (s.step (type, operation)).engine.registry.capacity = s.engine.registry.capacity := by
  cases operation with
  | register => exact (s.effect_register type ⟨s.engine.scope type, s.engine.config⟩).fixed
  | builder => exact (s.effect_builder type true none).fixed
  | use index task =>
    simp only [step]
    split <;> exact ⟨rfl, rfl, rfl, rfl⟩
  | clear => exact (Effect.revised Caches.clear).fixed
  | stats => exact ⟨rfl, rfl, rfl, rfl⟩
  | lose keepsFilter keepsSort => exact (Effect.revised _).fixed

/-! ## Runs -/

variable (config : Config) (catalog : Catalog) (rules : List Coercion.Rule)

def concerning (type : RecordType) (operations : List (RecordType × Operation)) : List Operation :=
  (operations.filter (·.1 = type)).map (·.2)

theorem concerning_concat (operations : List (RecordType × Operation)) (type about : RecordType)
    (operation : Operation) : concerning type (operations ++ [(about, operation)]) =
      concerning type operations ++ if about = type then [operation] else [] := by
  rw [concerning, List.filter_append, List.map_append, ← concerning]
  by_cases same : about = type <;> simp [same]

theorem run_concat (operations : List (RecordType × Operation)) (last : RecordType × Operation) :
    run config catalog rules (operations ++ [last]) =
      (run config catalog rules operations).step last := List.foldl_concat ..

theorem coherent_run (operations : List (RecordType × Operation)) :
    (run config catalog rules operations).Coherent := by
  induction operations using List.reverseRecOn with
  | nil => exact coherent_start config catalog rules
  | append_singleton operations last ih =>
    rw [run_concat]
    exact ih.step last.1 last.2

theorem run_fixed (operations : List (RecordType × Operation)) :
    let engine := (run config catalog rules operations).engine
    engine.config = config ∧ engine.catalog = catalog ∧ engine.rules = rules ∧
      engine.registry.capacity = config.cacheCapacity := by
  induction operations using List.reverseRecOn with
  | nil => exact ⟨rfl, rfl, rfl, rfl⟩
  | append_singleton operations last ih =>
    obtain ⟨settings, schemas, parsing, bound⟩ := ih
    obtain ⟨settings', schemas', parsing', bound'⟩ :=
      (run config catalog rules operations).step_fixed last.1 last.2
    rw [run_concat]
    exact ⟨settings'.trans settings, schemas'.trans schemas, parsing'.trans parsing,
      bound'.trans bound⟩

theorem scope_run (operations : List (RecordType × Operation)) (type : RecordType) :
    (run config catalog rules operations).engine.scope type = ⟨catalog, catalog.schema type, rules⟩ := by
  obtain ⟨-, schemas, parsing, -⟩ := run_fixed config catalog rules operations
  rw [Engine.scope, schemas, parsing]

theorem effect_run (operations : List (RecordType × Operation)) (type : RecordType)
    (operation : Operation) :
    let s := run config catalog rules operations
    Effect s type
      ((s.life type).advance (catalog.check type).isOk config.cacheCapacity
        ⟨⟨catalog, catalog.schema type, rules⟩, config⟩ operation)
      (run config catalog rules (operations ++ [(type, operation)])) := by
  intro s
  obtain ⟨settings, schemas, -, bound⟩ := run_fixed config catalog rules operations
  have effect := effect_step (coherent_run config catalog rules operations) type operation
  rwa [settings, schemas, bound, scope_run, ← run_concat] at effect

/-- A type is as if there were no other. -/
theorem life_run (operations : List (RecordType × Operation)) (type : RecordType) :
    (run config catalog rules operations).life type =
      (concerning type operations).foldl
        (Life.advance (catalog.check type).isOk config.cacheCapacity
          ⟨⟨catalog, catalog.schema type, rules⟩, config⟩) ⟨none, []⟩ := by
  induction operations using List.reverseRecOn with
  | nil => rfl
  | append_singleton operations last ih =>
    obtain ⟨about, operation⟩ := last
    have coherent := coherent_run config catalog rules operations
    have effect := effect_run config catalog rules operations about operation
    rw [concerning_concat, List.foldl_append, ← ih]
    -- An operation on another type is not among those that the type goes through, and leaves it alone.
    by_cases same : about = type
    · subst same
      rw [effect.life_self coherent, if_pos rfl]
      rfl
    · rw [effect.life_other coherent (Ne.symm same), if_neg same]
      rfl

theorem consistent_run (operations : List (RecordType × Operation)) (type : RecordType) :
    ((run config catalog rules operations).life type).Consistent
      ⟨⟨catalog, catalog.schema type, rules⟩, config⟩ := by
  rw [life_run]
  generalize concerning type operations = own
  induction own using List.reverseRecOn with
  | nil => exact Life.consistent_none _
  | append_singleton own last ih =>
    rw [List.foldl_concat]
    exact ih.advance last

end Session

theorem Engine.reached_caches {config : Config} {catalog : Catalog} {rules : List Coercion.Rule} {e : Engine}
    {type : RecordType} {b : Builder} {caches : Caches} (h : Reached (new config catalog rules) e)
    (handed : e.builder type = .ok (b, caches)) : b.scope.rules = rules ∧ caches.Reached b.scope := by
  obtain ⟨operations, rfl⟩ := h
  obtain ⟨rfl, found⟩ := builder_ok.1 handed
  have own := Session.scope_run config catalog rules operations type
  have reached := (Session.consistent_run config catalog rules operations type).reached caches found
  exact ⟨congrArg Scope.rules own, own ▸ reached⟩

end Listing
