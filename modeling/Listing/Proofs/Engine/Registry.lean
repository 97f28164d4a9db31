import Listing.Engine.Basic

namespace Listing

def Place.Apart (p q : Place) : Prop := p.filters ≠ q.filters ∧ p.sorts ≠ q.sorts

theorem Place.Apart.symm {p q : Place} (h : p.Apart q) : q.Apart p := ⟨Ne.symm h.1, Ne.symm h.2⟩

namespace Memory

variable {m : Memory} {p q : Place}

def Valid (m : Memory) (p : Place) : Prop := p.filters < m.filters.length ∧ p.sorts < m.sorts.length

theorem Valid.write (h : m.Valid q) (p : Place) (caches : Caches) : (m.write p caches).Valid q := by
  simpa [Valid, Memory.write] using h

theorem read_write_self (h : m.Valid p) (caches : Caches) : (m.write p caches).read p = caches := by
  simp [read, write, h.1, h.2]

theorem read_write_apart (h : p.Apart q) (caches : Caches) : (m.write p caches).read q = m.read q := by
  simp only [read, write, List.getD_eq_getElem?_getD, List.getElem?_set_ne h.1, List.getElem?_set_ne h.2]

theorem valid_alloc_self (m : Memory) (caches : Caches) : (m.alloc caches).2.Valid (m.alloc caches).1 := by
  simp [Valid, alloc]

theorem Valid.alloc (h : m.Valid q) (caches : Caches) : (m.alloc caches).2.Valid q := by
  simp only [Valid, Memory.alloc, List.length_append]
  exact ⟨Nat.lt_add_right _ h.1, Nat.lt_add_right _ h.2⟩

theorem Valid.apart_alloc (h : m.Valid q) (caches : Caches) : q.Apart (m.alloc caches).1 :=
  ⟨Nat.ne_of_lt h.1, Nat.ne_of_lt h.2⟩

theorem read_alloc_self (m : Memory) (caches : Caches) :
    (m.alloc caches).2.read (m.alloc caches).1 = caches := by
  simp [read, alloc]

theorem read_alloc (h : m.Valid q) (caches : Caches) : (m.alloc caches).2.read q = m.read q := by
  simp only [read, alloc, List.getD_eq_getElem?_getD, List.getElem?_append_left h.1,
    List.getElem?_append_left h.2]

end Memory

namespace Registry

variable {r : Registry} {type other : RecordType} {place : Place}

/-- The registered types have cells, and no two types have one in common. -/
structure Coherent (r : Registry) : Prop where
  valid {type : RecordType} {place : Place} : r.place? type = some place → r.memory.Valid place
  apart {type other : RecordType} {place place' : Place} : type ≠ other →
    r.place? type = some place → r.place? other = some place' → place.Apart place'

theorem coherent_empty (capacity : Option Nat) : (empty capacity).Coherent where
  valid found := by cases found
  apart _ found := by cases found

theorem isRegistered_iff : r.isRegistered type = true ↔ ∃ place, r.place? type = some place :=
  Option.isSome_iff_exists

theorem find?_eq_none_iff : r.find? type = none ↔ r.place? type = none := Option.map_eq_none_iff

theorem isSome_find? (r : Registry) (type : RecordType) :
    (r.find? type).isSome = r.isRegistered type := Option.isSome_map

theorem find?_of_place? (found : r.place? type = some place) :
    r.find? type = some (r.memory.read place) := by
  rw [find?, found, Option.map_some]

theorem place?_add (r : Registry) (type other : RecordType) : (r.add type).place? other =
    if other = type then some (r.memory.alloc (.empty r.capacity)).1 else r.place? other := by
  rw [place?, add, List.lookup_cons]
  by_cases same : other = type
  · simp [same]
  · simp [same, beq_eq_false_iff_ne.2 same, place?]

theorem Coherent.add (h : r.Coherent) (type : RecordType) : (r.add type).Coherent where
  valid {other place} found := by
    rw [place?_add] at found
    split at found
    · cases found
      exact Memory.valid_alloc_self _ _
    · exact (h.valid found).alloc _
  apart {one other place place'} differ found found' := by
    rw [place?_add] at found found'
    split at found
    · rw [if_neg fun same => differ (‹one = type›.trans same.symm)] at found'
      cases found
      exact ((h.valid found').apart_alloc _).symm
    · split at found'
      · cases found'
        exact (h.valid found).apart_alloc _
      · exact h.apart differ found found'

theorem find?_add (h : r.Coherent) (type other : RecordType) : (r.add type).find? other =
    if other = type then some (.empty r.capacity) else r.find? other := by
  rw [find?, place?_add]
  split
  · exact congrArg some (Memory.read_alloc_self _ _)
  · cases found : r.place? other with
    | none => rw [find?_eq_none_iff.2 found, Option.map_none]
    | some place =>
      rw [find?_of_place? found, Option.map_some]
      exact congrArg some (Memory.read_alloc (h.valid found) _)

theorem revise_of_place? (found : r.place? type = some place) (change : Caches → Caches) :
    r.revise type change = r.write place (change (r.memory.read place)) := by
  rw [revise, found]

theorem revise_unregistered (missing : r.place? type = none) (change : Caches → Caches) :
    r.revise type change = r := by
  rw [revise, missing]

theorem find?_write (r : Registry) (place : Place) (caches : Caches) (other : RecordType) :
    (r.write place caches).find? other = (r.place? other).map (r.memory.write place caches).read := rfl

theorem place?_revise (r : Registry) (type other : RecordType) (change : Caches → Caches) :
    (r.revise type change).place? other = r.place? other := by
  unfold revise
  split <;> rfl

theorem order_revise (r : Registry) (type : RecordType) (change : Caches → Caches) :
    (r.revise type change).order = r.order := by
  unfold revise
  split <;> rfl

theorem capacity_revise (r : Registry) (type : RecordType) (change : Caches → Caches) :
    (r.revise type change).capacity = r.capacity := by
  unfold revise
  split <;> rfl

theorem Coherent.revise (h : r.Coherent) (type : RecordType) (change : Caches → Caches) :
    (r.revise type change).Coherent where
  valid {other place} found := by
    rw [place?_revise] at found
    have valid := h.valid found
    unfold Registry.revise
    split
    · exact valid.write _ _
    · exact valid
  apart differ found found' := by
    rw [place?_revise] at found found'
    exact h.apart differ found found'

theorem find?_revise (h : r.Coherent) (type other : RecordType) (change : Caches → Caches) :
    (r.revise type change).find? other =
      if other = type then (r.find? type).map change else r.find? other := by
  cases found : r.place? type with
  | none =>
    rw [revise_unregistered found]
    split
    · subst other
      rw [find?_eq_none_iff.2 found, Option.map_none]
    · rfl
  | some place =>
    rw [revise_of_place? found, find?_of_place? found, Option.map_some, find?_write]
    split
    · subst other
      rw [found, Option.map_some, Memory.read_write_self (h.valid found)]
    · rename_i differ
      cases found' : r.place? other with
      | none => rw [find?_eq_none_iff.2 found', Option.map_none]
      | some place' =>
        have apart := h.apart (Ne.symm differ) found found'
        rw [find?_of_place? found', Option.map_some, Memory.read_write_apart apart]

variable {catalog : Catalog}

theorem register_fresh (checked : catalog.check type = .ok ()) (fresh : r.place? type = none) :
    r.register catalog type = .ok (r.add type,
      [.registered type.name (catalog.schema type).members.length r.capacity.isSome]) := by
  simp [register, checked, isRegistered, fresh, bind, Except.bind]

theorem register_again (checked : catalog.check type = .ok ()) (known : r.isRegistered type = true) :
    r.register catalog type = .ok (r, []) := by
  simp [register, checked, known, bind, Except.bind]

end Registry

end Listing
