import Listing.Cache

namespace Listing.Cache

variable {K V : Type} {P : K → V → Prop} {c : Cache K V}

def Holds (P : K → V → Prop) (c : Cache K V) : Prop := ∀ e ∈ c.entries, P e.1 e.2

def Loses (before after : Cache K V) : Prop := ∃ keeps, after = before.keep keeps

theorem holds_empty (bound : Option Nat) : Holds P (empty bound : Cache K V) := by
  intro e he
  cases he

theorem keep_sublist (c : Cache K V) (keeps : Nat → Bool) : (c.keep keeps).entries.Sublist c.entries := by
  have kept : (c.entries.zipIdx.filter (keeps ·.2)).Sublist c.entries.zipIdx := List.filter_sublist
  have entries := kept.map (·.1)
  rwa [List.zipIdx_map_fst] at entries

theorem Holds.loses {after : Cache K V} (h : c.Holds P) (lost : c.Loses after) : after.Holds P := by
  obtain ⟨keeps, rfl⟩ := lost
  intro e he
  exact h e ((c.keep_sublist keeps).subset he)

theorem loses_clear (c : Cache K V) : c.Loses c.clear :=
  ⟨fun _ => false, by simp [keep, clear]⟩

theorem Holds.append {key : K} {value : V} (h : c.Holds P) (new : P key value) :
    ({ c with entries := c.entries ++ [(key, value)] } : Cache K V).Holds P := by
  intro e he
  obtain he | he := List.mem_append.1 he
  · exact h e he
  · rw [List.mem_singleton.1 he]
    exact new

variable [BEq K] {key : K} {value : V}

theorem Holds.find? (h : c.Holds P) (found : c.find? key = some value) :
    ∃ k, (key == k) = true ∧ P k value := by
  rw [Cache.find?, List.lookup_eq_findSome?] at found
  obtain ⟨⟨k, v⟩, member, entry⟩ := List.exists_of_findSome?_eq_some found
  split at entry
  · cases entry
    exact ⟨k, ‹_›, h _ member⟩
  · cases entry

theorem find?_congr {c' : Cache K V} (h : c.entries = c'.entries) : c.find? = c'.find? := by
  funext key
  rw [Cache.find?, Cache.find?, h]

theorem replace_of_lookup_eq_none {entries : List (K × V)} (h : entries.lookup key = none) :
    replace key value entries = entries ++ [(key, value)] := by
  induction entries with
  | nil => rfl
  | cons e entries ih =>
    obtain ⟨k, v⟩ := e
    rw [List.lookup_cons] at h
    cases same : key == k with
    | true => simp [same] at h
    | false =>
      simp only [same] at h
      simp only [replace, same, Bool.false_eq_true, if_false, ih h, List.cons_append]

theorem insert_of_miss (h : c.find? key = none) :
    c.insert key value = { c with entries := c.entries ++ [(key, value)] } := by
  rw [insert, replace_of_lookup_eq_none h]

end Listing.Cache
