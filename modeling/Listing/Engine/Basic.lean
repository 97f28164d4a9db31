import Listing.Engine.Registry

namespace Listing

/-- A builder as it is handed out: with the place of the caches that it works on. -/
structure Lease where
  builder : Builder
  place : Place

structure Engine where
  config : Config
  catalog : Catalog
  rules : List Coercion.Rule
  registry : Registry

namespace Engine

def new (config : Config) (catalog : Catalog) (rules : List Coercion.Rule) : Engine :=
  ⟨config, catalog, rules, .empty config.cacheCapacity⟩

def register (e : Engine) (type : RecordType) : Except RegistrationError (Engine × List Event) := do
  let (registry, events) ← e.registry.register e.catalog type
  .ok ({ e with registry }, events)

def scope (e : Engine) (type : RecordType) : Scope := ⟨e.catalog, e.catalog.schema type, e.rules⟩

def lease (e : Engine) (type : RecordType) : Except RegistrationError Lease := do
  let place ← e.registry.place type
  .ok ⟨⟨e.scope type, e.config⟩, place⟩

def caches (e : Engine) (lease : Lease) : Caches := e.registry.memory.read lease.place

def builder (e : Engine) (type : RecordType) : Except RegistrationError (Builder × Caches) := do
  let lease ← e.lease type
  .ok (lease.builder, e.caches lease)

def work {α : Type} (e : Engine) (lease : Lease) (task : Builder → Caches → Built α) :
    α × Engine × List Event :=
  let built := task lease.builder (e.caches lease)
  (built.result, { e with registry := e.registry.write lease.place built.caches }, built.events)

def use {α : Type} (e : Engine) (type : RecordType) (task : Builder → Caches → Built α) :
    Except RegistrationError (α × Engine × List Event) := do
  let lease ← e.lease type
  .ok (e.work lease task)

def revise (e : Engine) (type : RecordType) (change : Caches → Caches) : Engine :=
  { e with registry := e.registry.revise type change }

def registeredNames (e : Engine) : List String := e.registry.names

def stats? (e : Engine) (type : RecordType) : Option (CacheStats × CacheStats) :=
  (e.registry.find? type).map fun c => (c.filters.stats, c.sorts.stats)

def clear (e : Engine) (type : RecordType) : Bool × Engine :=
  (e.registry.isRegistered type, e.revise type Caches.clear)

end Engine

end Listing
