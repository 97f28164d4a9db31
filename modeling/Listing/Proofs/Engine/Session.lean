import Listing.Proofs.Engine.Run
import Listing.Proofs.Query.Accounting

namespace Listing

namespace Registry

structure Lists (r : Registry) (types : List RecordType) : Prop where
  order : r.order = types.map (·.name)
  known (type : RecordType) : r.isRegistered type = types.contains type

variable {r : Registry} {types : List RecordType}

theorem lists_empty (capacity : Option Nat) : (empty capacity).Lists [] where
  order := rfl
  known _ := rfl

theorem Lists.add (h : r.Lists types) (type : RecordType) : (r.add type).Lists (types ++ [type]) where
  order := by
    rw [List.map_append, ← h.order]
    rfl
  known other := by
    have before := h.known other
    rw [isRegistered] at before
    rw [isRegistered, place?_add, List.contains_eq_mem] at *
    by_cases same : other = type <;> simp [same, before]

theorem Lists.revise (h : r.Lists types) (type : RecordType) (change : Caches → Caches) :
    (r.revise type change).Lists types where
  order := (order_revise ..).trans h.order
  known other := by
    rw [← h.known, isRegistered, place?_revise, isRegistered]

end Registry

namespace Session

variable {s s' : Session} {type : RecordType} {types : List RecordType}

theorem Effect.lists {life : Life} (effect : Effect s type life s') (h : s.engine.registry.Lists types) :
    s'.engine.registry.Lists
      (if life.caches.isSome && !types.contains type then types ++ [type] else types) := by
  have known : (s.life type).caches.isSome = types.contains type := (s.isSome_life type).trans (h.known type)
  cases effect with
  | refused =>
    rw [known, Bool.and_not_self]
    exact h
  | added fresh =>
    have missing : types.contains type = false := by
      rw [← h.known, Registry.isRegistered, fresh]
      rfl
    rw [missing]
    exact h.add type
  | handed own =>
    rw [known, Bool.and_not_self]
    exact h
  | revised change =>
    rw [Option.isSome_map, known, Bool.and_not_self]
    exact h.revise type change

theorem Life.isSome_advance (accepted : Bool) (capacity : Option Nat) (b : Builder) (life : Life)
    (operation : Operation) : (life.advance accepted capacity b operation).caches.isSome =
      (life.caches.isSome || accepted && operation.registers) := by
  cases operation with
  | register =>
    rw [Life.advance]
    cases accepted <;> cases known : life.caches <;> simp [known, Operation.registers]
  | builder =>
    rw [Life.advance]
    split <;> simp [Operation.registers]
  | use index task =>
    rw [Life.advance]
    split <;> simp [Operation.registers]
  | _ => simp [Life.advance, Operation.registers]

def requested (operations : List (RecordType × Operation)) : List RecordType :=
  (operations.filter (·.2.registers)).map (·.1)

theorem requested_concat (operations : List (RecordType × Operation)) (type : RecordType)
    (operation : Operation) : requested (operations ++ [(type, operation)]) =
      requested operations ++ if operation.registers then [type] else [] := by
  rw [requested, List.filter_append, List.map_append, ← requested]
  by_cases registers : operation.registers = true <;> simp [registers]

variable (config : Config) (catalog : Catalog) (rules : List Coercion.Rule)

theorem lists_run (operations : List (RecordType × Operation)) :
    (run config catalog rules operations).engine.registry.Lists
      ((requested operations).filter fun type => (catalog.check type).isOk).eraseDups := by
  induction operations using List.reverseRecOn with
  | nil => exact Registry.lists_empty _
  | append_singleton operations last ih =>
    obtain ⟨type, operation⟩ := last
    have next := (effect_run config catalog rules operations type operation).lists ih
    -- A type is on record already if it was among those asked for before.
    have known := ((run config catalog rules operations).isSome_life type).trans (ih.known type)
    rw [Life.isSome_advance, known, ← List.any_beq, any_eraseDups] at next
    rw [requested_concat, List.filter_append]
    cases enters : (catalog.check type).isOk && operation.registers with
    | false =>
      have nothing : (if operation.registers then [type] else []).filter
          (fun type => (catalog.check type).isOk) = [] := by
        cases registers : operation.registers with
        | false => rfl
        | true => simp_all
      rw [enters, Bool.or_false, Bool.and_not_self] at next
      rw [nothing, List.append_nil]
      exact next
    | true =>
      obtain ⟨accepted, registers⟩ := Bool.and_eq_true_iff.1 enters
      rw [enters, Bool.or_true, Bool.true_and] at next
      simp only [registers, accepted, if_true, List.filter_cons, List.filter_nil, eraseDups_concat]
      simp only [Bool.not_eq_true', ← Bool.not_eq_true, ite_not] at next
      exact next

structure Isolated (s : Session) (accepted : Bool) (registered : List RecordType)
    (type : RecordType) : Prop where
  register : (s.engine.register type).isOk = accepted
  builder : (s.engine.lease type).isOk = registered.contains type
  clear : (s.engine.clear type).1 = registered.contains type
  stats : (s.engine.stats? type).isSome = registered.contains type
  again : registered.contains type = true → s.engine.register type = .ok (s.engine, [])
  /-- A builder, whenever it was handed out, has the place that is on record for its type. -/
  shared : ∀ lease ∈ s.held type, s.engine.lease type = .ok lease
  apart : ∀ other, other ≠ type → ∀ lease ∈ s.held type, ∀ lease' ∈ s.held other,
    lease.place.Apart lease'.place
  /-- What one builder leaves in the caches is what all of them find there. -/
  seen : ∀ index lease task, (s.held type)[index]? = some lease →
    ∀ lease' ∈ s.held type, (s.step (type, .use index task)).engine.caches lease' =
      task.run lease.builder (s.engine.caches lease)
  others : ∀ other operation, other ≠ type → (s.step (other, operation)).life type = s.life type

theorem isOk_register (s : Session) (type : RecordType) :
    (s.engine.register type).isOk = (s.engine.catalog.check type).isOk := by
  cases checked : s.engine.catalog.check type with
  | error error => simp only [Engine.register, Registry.register, checked, bind, Except.bind]; rfl
  | ok _ =>
    cases found : s.engine.registry.place? type with
    | none => simp only [Engine.register, Registry.register_fresh checked found, bind, Except.bind]; rfl
    | some place => rw [register_again checked (Registry.isRegistered_iff.2 ⟨_, found⟩)]; rfl

theorem Coherent.apart (h : s.Coherent) {other : RecordType} (differ : other ≠ type) {lease lease' : Lease}
    (own : lease ∈ s.held type) (foreign : lease' ∈ s.held other) : lease.place.Apart lease'.place :=
  h.registry.apart (Ne.symm differ) (Engine.lease_ok.1 (h.held own)).1 (Engine.lease_ok.1 (h.held foreign)).1

theorem Coherent.seen (h : s.Coherent) {index : Nat} {lease lease' : Lease} (task : Task)
    (named : (s.held type)[index]? = some lease) (other : lease' ∈ s.held type) :
    (s.step (type, .use index task)).engine.caches lease' =
      task.run lease.builder (s.engine.caches lease) := by
  have own := (Engine.lease_ok.1 (h.held (List.mem_of_getElem? named))).1
  have same : lease'.place = lease.place :=
    Option.some.inj ((Engine.lease_ok.1 (h.held other)).1.symm.trans own)
  have after : (s.step (type, .use index task)).engine =
      (s.engine.work lease fun b caches => ⟨(), task.run b caches, []⟩).2.1 := by
    simp only [Session.step, named]
  rw [after, Engine.caches, same]
  exact Memory.read_write_self (h.registry.valid own) _

theorem run_isolated (operations : List (RecordType × Operation)) :
    let s := run config catalog rules operations
    let registered :=
      ((requested operations).filter fun type => (catalog.check type).isOk).eraseDups
    s.engine.registeredNames = registered.map (·.name) ∧ registered.Nodup ∧
    ∀ type,
      s.life type = (concerning type operations).foldl
        (Life.advance (catalog.check type).isOk config.cacheCapacity
          ⟨⟨catalog, catalog.schema type, rules⟩, config⟩) ⟨none, []⟩ ∧
      s.Isolated (catalog.check type).isOk registered type := by
  intro s registered
  have lists : s.engine.registry.Lists registered := lists_run config catalog rules operations
  have coherent : s.Coherent := coherent_run config catalog rules operations
  have schemas : s.engine.catalog = catalog := (run_fixed config catalog rules operations).2.1
  refine ⟨lists.order, nodup_eraseDups _, fun type => ⟨life_run .., ?_⟩⟩
  have known := lists.known type
  constructor
  case register => rw [isOk_register, schemas]
  case builder =>
    rw [← known, Engine.lease, Registry.place, Registry.isRegistered]
    cases s.engine.registry.place? type <;> rfl
  case clear => exact known
  case stats => rw [← known, Engine.stats?, Option.isSome_map, Registry.isSome_find?]
  case again =>
    intro registration
    have accepted : s.engine.catalog.check type = .ok () := by
      rw [← List.any_beq, any_eraseDups, List.any_beq, List.contains_iff_mem] at registration
      have passes := (List.mem_filter.1 registration).2
      rw [schemas]
      cases checked : catalog.check type with
      | ok _ => rfl
      | error error => rw [checked] at passes; cases passes
    exact register_again accepted (known.trans registration)
  case shared => exact fun lease member => coherent.held member
  case apart => exact fun other differ lease own lease' foreign => coherent.apart differ own foreign
  case seen => exact fun index lease task named lease' other => coherent.seen task named other
  case others =>
    intro other operation apart
    exact (effect_step coherent other operation).life_other coherent (Ne.symm apart)

theorem stats?_eq (s : Session) (type : RecordType) : s.engine.stats? type =
    (s.life type).caches.map fun caches => (caches.filters.stats, caches.sorts.stats) := rfl

theorem length_held (s : Session) (type : RecordType) :
    (s.held type).length = (s.life type).held.length := (List.length_map _).symm

theorem run_isolated_namesakes :
    let catalog : Catalog := ⟨[[⟨"n", [], .int⟩], [⟨"m", [], .text⟩], []]⟩
    let first : RecordType := ⟨0, "Row"⟩
    let second : RecordType := ⟨1, "Row"⟩
    let hollow : RecordType := ⟨2, "Hollow"⟩
    let fetch : Task := .fetchFilter ⟨"n", [], .compare .equal, .int 1⟩
    let operations := [(first, .register), (first, .builder), (hollow, .register),
      (second, .register), (first, .use 0 fetch), (first, .register), (first, .builder),
      (second, .builder), (first, .use 1 fetch), (second, .clear), (hollow, .builder)]
    let s := run .default catalog Coercion.builtin operations
    s.engine.registeredNames = ["Row", "Row"] ∧
    s.engine.stats? first = some (⟨1, 1, 1⟩, ⟨0, 0, 0⟩) ∧
    s.engine.stats? second = some (⟨0, 0, 0⟩, ⟨0, 0, 0⟩) ∧
    s.engine.stats? hollow = none ∧ (s.held hollow).length = 0 ∧ (s.held first).length = 2 ∧
    (∀ lease ∈ s.held first, s.engine.lease first = .ok lease) ∧
    s.engine.register first = .ok (s.engine, []) ∧
    ∀ operation, (s.step (second, operation)).life first = s.life first := by
  intro catalog first second hollow fetch operations s
  have accepted : catalog.check first = .ok () ∧ catalog.check second = .ok () := by
    simp [Catalog.check, Catalog.survey, Catalog.schema, Catalog.namesFrom, Schema.held,
      FieldType.held?, FieldType.record?, FieldType.element?, FieldType.strip, catalog, first, second]
  have refused : catalog.check hollow = .error (.emptySchema "Hollow") := by
    simp [Catalog.check, Catalog.survey, Catalog.schema, Catalog.namesFrom, catalog, hollow]
  have isolated := run_isolated .default catalog Coercion.builtin operations
  have registered : ((requested operations).filter fun type => (catalog.check type).isOk).eraseDups =
      [first, second] := by
    have asked : requested operations = [first, hollow, second, first] := rfl
    rw [asked]
    simp only [List.filter_cons, accepted.1, accepted.2, refused]
    rfl
  rw [registered, show run .default catalog Coercion.builtin operations = s from rfl] at isolated
  obtain ⟨names, -, each⟩ := isolated
  obtain ⟨first_life, first_isolated⟩ := each first
  obtain ⟨second_life, second_isolated⟩ := each second
  obtain ⟨hollow_life, hollow_isolated⟩ := each hollow
  have ofFirst : concerning first operations = [.register, .builder, .use 0 fetch, .register,
    .builder, .use 1 fetch] := rfl
  have ofSecond : concerning second operations = [.register, .builder, .clear] := rfl
  have ofHollow : concerning hollow operations = [.register, .builder] := rfl
  rw [ofFirst, accepted.1] at first_life
  rw [ofSecond, accepted.2] at second_life
  rw [ofHollow, refused] at hollow_life
  have apart : second ≠ first := by decide
  clear_value s
  refine ⟨names, ?_, ?_, ?_, ?_, ?_, first_isolated.shared, first_isolated.again (by decide), fun operation =>
    first_isolated.others second operation apart⟩
  · rw [stats?_eq, first_life]
    decide
  · rw [stats?_eq, second_life]
    rfl
  · rw [stats?_eq, hollow_life]
    rfl
  · rw [length_held, hollow_life]
    rfl
  · rw [length_held, first_life]
    rfl

end Session

end Listing
