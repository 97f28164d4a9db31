import Mathlib.Data.List.Nodup
import Listing.Schema.Basic

namespace Listing.Schema

variable {fold : String → String} {s : Schema} {text : String}

theorem lookup_enter (table : Spellings) (spelling : String) (position : Nat) (text : String) :
    (enter table spelling position).lookup text = (table ++ [(spelling, position)]).lookup text := by
  unfold enter
  split
  · rename_i taken
    rw [List.lookup_append, List.lookup_cons, List.lookup_nil]
    cases same : text == spelling with
    | true =>
      rw [eq_of_beq same, Option.or_of_isSome taken]
    | false => exact Option.or_none.symm
  · rfl

theorem lookup_foldl_enter (table entries : Spellings) (text : String) :
    (entries.foldl (fun table e => enter table e.1 e.2) table).lookup text =
      (table ++ entries).lookup text := by
  induction entries generalizing table with
  | nil => rw [List.append_nil]; rfl
  | cons entry entries ih =>
    rw [List.foldl_cons, ih, List.lookup_append, lookup_enter, ← List.lookup_append, List.append_assoc]
    rfl

def entries (spell : Member → List String) (members : List Member) (start : Nat) : Spellings :=
  (members.zipIdx start).flatMap fun (m, i) => (spell m).map (·, i)

theorem lookup_map_pair (spellings : List String) (position : Nat) (text : String) :
    (spellings.map (·, position)).lookup text =
      if spellings.any (· == text) then some position else none := by
  induction spellings with
  | nil => rfl
  | cons spelling spellings ih =>
    rw [List.map_cons, List.lookup_cons, ih, List.any_cons, Bool.beq_comm]
    cases spelling == text <;> rfl

theorem lookup_entries (spell : Member → List String) (members : List Member) (start : Nat)
    (text : String) : (entries spell members start).lookup text =
      (members.findIdx? fun m => (spell m).any (· == text)).map (· + start) := by
  induction members generalizing start with
  | nil => rfl
  | cons m members ih =>
    have split : entries spell (m :: members) start =
        (spell m).map (·, start) ++ entries spell members (start + 1) := rfl
    rw [split, List.lookup_append, lookup_map_pair, ih, List.findIdx?_cons]
    cases (spell m).any (· == text) with
    | true => simp
    | false => simp [Function.comp_def, Nat.add_right_comm, Nat.add_assoc]

theorem lookup_spellings (fold : String → String) (members : List Member) (text : String) :
    (spellings fold members).lookup text =
      (members.findIdx? fun m => fold m.name == text).or
        (members.findIdx? fun m => m.aliases.any (fold · == text)) := by
  have names := lookup_entries (fun m => [fold m.name]) members 0 text
  have aliases := lookup_entries (fun m => m.aliases.map fold) members 0 text
  have filled : spellings fold members =
      (entries (fun m => m.aliases.map fold) members 0).foldl (fun table e => enter table e.1 e.2)
        ((entries (fun m => [fold m.name]) members 0).foldl (fun table e => enter table e.1 e.2) []) := by
    simp only [spellings, entries, List.foldl_flatMap, List.foldl_map, List.foldl_cons, List.foldl_nil,
      List.map_cons, List.map_nil]
  rw [filled, lookup_foldl_enter, List.lookup_append, lookup_foldl_enter, List.nil_append, names, aliases]
  simp [List.any_map, Function.comp_def]

theorem position?_eq (fold : String → String) (s : Schema) (text : String) : s.position? fold text =
    ((s.members.findIdx? (·.name == text)).or
      (s.members.findIdx? fun m => fold m.name == fold text)).or
        (s.members.findIdx? fun m => m.aliases.any (fold · == fold text)) := by
  unfold position?
  cases s.members.findIdx? (·.name == text) with
  | some i => rfl
  | none => rw [Option.none_or, ← lookup_spellings]

def memberBy? (fold : String → String) (s : Schema) (text : String) : Option Member :=
  (s.position? fold text).bind (s.members[·]?)

theorem member?_eq (s : Schema) (text : String) : s.member? text = s.memberBy? Text.lowercase text := rfl

theorem getElem?_findIdx?_or (members : List Member) (test : Member → Bool) (other : Option Nat) :
    ((members.findIdx? test).or other).bind (members[·]?) =
      (members.find? test).or (other.bind (members[·]?)) := by
  rw [List.find?_eq_bind_findIdx?_getElem?]
  cases found : members.findIdx? test with
  | none => rfl
  | some i =>
    obtain ⟨inside, -⟩ := List.findIdx?_eq_some_iff_getElem.1 found
    simp [inside]

theorem memberBy?_eq (fold : String → String) (s : Schema) (text : String) : s.memberBy? fold text =
    ((s.members.find? (·.name == text)).or (s.members.find? fun m => fold m.name == fold text)).or
      (s.members.find? fun m => m.aliases.any (fold · == fold text)) := by
  rw [memberBy?, position?_eq, Option.or_assoc, getElem?_findIdx?_or, getElem?_findIdx?_or,
    ← List.find?_eq_bind_findIdx?_getElem?, Option.or_assoc]

theorem mem_of_memberBy? {m : Member} (h : s.memberBy? fold text = some m) : m ∈ s.members := by
  obtain ⟨i, -, found⟩ := Option.bind_eq_some_iff.1 h
  exact List.mem_of_getElem? found

theorem memberBy?_of_exact {m : Member} (h : s.members.find? (·.name == text) = some m) :
    s.memberBy? fold text = some m := by
  rw [memberBy?_eq, h, Option.some_or, Option.some_or]

theorem key_of_find? (key : Member → String) {members : List Member} {found : Member}
    (first : members.find? (key · == text) = some found) : key found = text :=
  eq_of_beq (List.find?_some (p := (key · == text)) first)

theorem exists_find? (key : Member → String) {members : List Member} {m : Member} (listed : m ∈ members)
    (same : key m = text) : ∃ found, members.find? (key · == text) = some found ∧ key found = text := by
  have some : (members.find? (key · == text)).isSome = true :=
    List.find?_isSome.2 ⟨m, listed, beq_iff_eq.2 same⟩
  obtain ⟨found, first⟩ := Option.isSome_iff_exists.1 some
  exact ⟨found, first, key_of_find? key first⟩

/-- The last two statements say that no alias shadows a name. -/
theorem position?_priority (fold : String → String) (s : Schema) (text : String) :
    s.member? text = s.memberBy? Text.lowercase text ∧
    s.position? fold text =
      ((s.members.findIdx? (·.name == text)).or
        (s.members.findIdx? fun m => fold m.name == fold text)).or
          (s.members.findIdx? fun m => m.aliases.any (fold · == fold text)) ∧
    s.memberBy? fold text =
      ((s.members.find? (·.name == text)).or (s.members.find? fun m => fold m.name == fold text)).or
        (s.members.find? fun m => m.aliases.any (fold · == fold text)) ∧
    (∀ m ∈ s.members, m.name = text →
      ∃ found, s.memberBy? fold text = some found ∧ found.name = text) ∧
    (∀ m ∈ s.members, fold m.name = fold text →
      ∃ found, s.memberBy? fold text = some found ∧ fold found.name = fold text) := by
  refine ⟨member?_eq s text, position?_eq fold s text, memberBy?_eq fold s text, ?_, ?_⟩
  · intro m listed exact
    obtain ⟨found, first, named⟩ := exists_find? Member.name listed exact
    exact ⟨found, memberBy?_of_exact first, named⟩
  · intro m listed folds
    cases exact : s.members.find? (·.name == text) with
    | some found =>
      have named : found.name = text := key_of_find? Member.name exact
      exact ⟨found, memberBy?_of_exact exact, congrArg fold named⟩
    | none =>
      obtain ⟨found, first, named⟩ := exists_find? (fun m => fold m.name) listed folds
      refine ⟨found, ?_, named⟩
      rw [memberBy?_eq, exact, first, Option.none_or, Option.some_or]

theorem position?_priority_clashing :
    let owner : Member := ⟨"Owner", ["id", "key"], .text⟩
    let id : Member := ⟨"ID", ["owner"], .int⟩
    let s : Schema := ⟨"Item", [owner, id, ⟨"Key", ["id"], .uuid⟩]⟩
    id ∈ s.members ∧ Text.lowercase id.name = Text.lowercase "id" ∧
    ∃ found, s.member? "id" = some found ∧ found = id := by
  intro owner id s
  have listed : id ∈ s.members := .tail _ (.head _)
  have folds : Text.lowercase id.name = Text.lowercase "id" := by decide
  have first : s.member? "id" = some id := by decide
  obtain ⟨running, -, -, -, shadows⟩ := position?_priority Text.lowercase s "id"
  obtain ⟨found, named, -⟩ := shadows id listed folds
  rw [← running] at named
  exact ⟨listed, folds, found, named, Option.some.inj (named.symm.trans first)⟩

end Listing.Schema
