import Mathlib.Logic.Relation
import Listing.Proofs.Engine.Registry
import Listing.Proofs.Outcome

/-!
# Which record types are registered

The search for record types without members enters the types that it finds, one of each name
(`nodup_entered`, `held_visited`), and a type is registered exactly if none of those is hollow. As long as
a name stands for one list of members, these are all types that it comes to along members
(`UniquelyNamed.check_ok_iff`); but a member that holds lists of lists of records is no way to them, and a
second type of one name is not entered (`register_overlooks_hollow`).
-/

namespace Listing

open Relation (ReflTransGen)

def FieldType.mentioned? : FieldType → Option RecordType
  | .record r => some r
  | .optional inner => inner.mentioned?
  | .list element => element.mentioned?
  | _ => none

namespace FieldType

theorem mentioned?_strip (type : FieldType) : type.strip.mentioned? = type.mentioned? := by
  induction type with
  | optional inner ih => exact ih
  | _ => rfl

theorem mentioned?_of_record? {type : FieldType} {r : RecordType} (h : type.record? = some r) :
    type.mentioned? = some r := by
  rw [← mentioned?_strip]
  unfold record? at h
  split at h
  · rename_i stripped
    rw [stripped]
    exact h
  · cases h

theorem mentioned?_of_element? {type element : FieldType} (h : type.element? = some element) :
    type.mentioned? = element.mentioned? := by
  rw [← mentioned?_strip]
  unfold element? at h
  split at h
  · rename_i stripped
    cases h
    rw [stripped]
    rfl
  · cases h

theorem mentioned?_of_held? {type : FieldType} {r : RecordType} (h : type.held? = some r) :
    type.mentioned? = some r := by
  cases direct : type.record? with
  | some s =>
    rw [held?, direct] at h
    cases h
    exact mentioned?_of_record? direct
  | none =>
    rw [held?, direct] at h
    obtain ⟨element, listed, h⟩ := Option.bind_eq_some_iff.1 h
    rw [mentioned?_of_element? listed]
    exact mentioned?_of_record? h

end FieldType

namespace Catalog

def Hollow (catalog : Catalog) (r : RecordType) : Prop := (catalog.schema r).members = []

def Refers (catalog : Catalog) (s t : RecordType) : Prop :=
  ∃ m ∈ (catalog.schema s).members, m.type.mentioned? = some t

def Holds (catalog : Catalog) (s t : RecordType) : Prop :=
  ∃ m ∈ (catalog.schema s).members, m.type.held? = some t

def UniquelyNamed (catalog : Catalog) (root : RecordType) : Prop :=
  ∀ s t, ReflTransGen catalog.Holds root s → ReflTransGen catalog.Holds root t → s.name = t.name →
    (catalog.schema s).members = (catalog.schema t).members

def Flat (catalog : Catalog) (root : RecordType) : Prop :=
  ∀ s, ReflTransGen catalog.Holds root s → ∀ m ∈ (catalog.schema s).members,
    m.type.held? = m.type.mentioned?

def entered (catalog : Catalog) (fresh : List String) : List RecordType → List RecordType
  | [] => []
  | r :: pending =>
    if _ : r.name ∈ fresh then
      r :: catalog.entered (without r.name fresh) ((catalog.schema r).held ++ pending)
    else catalog.entered fresh pending
termination_by pending => (fresh.length, pending.length)
decreasing_by
  · apply Prod.Lex.left
    exact length_without_lt ‹r.name ∈ fresh›
  · apply Prod.Lex.right
    simp

def visited (catalog : Catalog) (root : RecordType) : List RecordType :=
  catalog.entered (catalog.namesFrom root) [root]

variable {catalog : Catalog} {fresh : List String} {pending : List RecordType} {root : RecordType}

theorem mem_held {s t : RecordType} : t ∈ (catalog.schema s).held ↔ catalog.Holds s t :=
  List.mem_filterMap

theorem Holds.refers {s t : RecordType} (holds : catalog.Holds s t) : catalog.Refers s t := by
  obtain ⟨m, member, held⟩ := holds
  exact ⟨m, member, FieldType.mentioned?_of_held? held⟩

theorem Flat.holds {s : RecordType} (flat : catalog.Flat root)
    (reached : ReflTransGen catalog.Refers root s) : ReflTransGen catalog.Holds root s := by
  induction reached with
  | refl => exact .refl
  | tail _ refers ih =>
    obtain ⟨m, member, mentions⟩ := refers
    exact ih.tail ⟨m, member, (flat _ ih m member).trans mentions⟩

theorem mem_without {name other : String} {names : List String} :
    other ∈ without name names ↔ other ∈ names ∧ other ≠ name := by
  simp [without]

theorem survey_eq (catalog : Catalog) (fresh : List String) (pending : List RecordType) :
    catalog.survey fresh pending =
      match (catalog.entered fresh pending).find? fun r => (catalog.schema r).members.isEmpty with
      | some r => .error (.emptySchema r.name)
      | none => .ok () := by
  fun_induction entered catalog fresh pending with
  | case1 fresh => rw [survey]; rfl
  | case2 fresh r pending found ih =>
    rw [survey, dif_pos found, List.find?_cons]
    dsimp only
    cases (catalog.schema r).members.isEmpty with
    | true => rfl
    | false => exact ih
  | case3 fresh r pending lost ih =>
    rw [survey, dif_neg lost]
    exact ih

theorem name_mem_of_entered {s : RecordType} (h : s ∈ catalog.entered fresh pending) :
    s.name ∈ fresh := by
  fun_induction entered catalog fresh pending with
  | case1 => cases h
  | case2 fresh r pending found ih =>
    rcases List.mem_cons.1 h with rfl | later
    · exact found
    · exact (mem_without.1 (ih later)).1
  | case3 fresh r pending lost ih => exact ih h

theorem nodup_entered (catalog : Catalog) (fresh : List String) (pending : List RecordType) :
    ((catalog.entered fresh pending).map (·.name)).Nodup := by
  fun_induction entered catalog fresh pending with
  | case1 => exact List.nodup_nil
  | case2 fresh r pending found ih =>
    rw [List.map_cons, List.nodup_cons]
    refine ⟨fun again => ?_, ih⟩
    obtain ⟨s, later, same⟩ := List.mem_map.1 again
    exact (mem_without.1 (name_mem_of_entered later)).2 same
  | case3 fresh r pending lost ih => exact ih

theorem entered_induct {P : RecordType → Prop} (step : ∀ s t, P s → catalog.Holds s t → P t)
    (start : ∀ s ∈ pending, P s) : ∀ s ∈ catalog.entered fresh pending, P s := by
  fun_induction entered catalog fresh pending with
  | case1 => exact List.forall_mem_nil _
  | case2 fresh r pending found ih =>
    have ⟨first, rest⟩ := List.forall_mem_cons.1 start
    have held : ∀ t ∈ (catalog.schema r).held, P t := fun t held => step r t first (mem_held.1 held)
    exact List.forall_mem_cons.2 ⟨first, ih (List.forall_mem_append.2 ⟨held, rest⟩)⟩
  | case3 fresh r pending lost ih => exact ih (List.forall_mem_cons.1 start).2

theorem pending_entered {s : RecordType} (waiting : s ∈ pending) (new : s.name ∈ fresh) :
    s.name ∈ (catalog.entered fresh pending).map (·.name) := by
  fun_induction entered catalog fresh pending with
  | case1 => cases waiting
  | case2 fresh r pending found ih =>
    rw [List.map_cons, List.mem_cons]
    by_cases same : s.name = r.name
    · exact .inl same
    · rcases List.mem_cons.1 waiting with rfl | later
      · exact absurd rfl same
      · exact .inr (ih (List.mem_append_right _ later) (mem_without.2 ⟨new, same⟩))
  | case3 fresh r pending lost ih =>
    rcases List.mem_cons.1 waiting with rfl | later
    · exact absurd new lost
    · exact ih later new

theorem held_entered {s t : RecordType} (h : s ∈ catalog.entered fresh pending)
    (holds : catalog.Holds s t) (new : t.name ∈ fresh) :
    t.name ∈ (catalog.entered fresh pending).map (·.name) := by
  fun_induction entered catalog fresh pending with
  | case1 => cases h
  | case2 fresh r pending found ih =>
    rw [List.map_cons, List.mem_cons]
    by_cases same : t.name = r.name
    · exact .inl same
    · have new' : t.name ∈ without r.name fresh := mem_without.2 ⟨new, same⟩
      rcases List.mem_cons.1 h with rfl | later
      · exact .inr (pending_entered (List.mem_append_left _ (mem_held.2 holds)) new')
      · exact .inr (ih later new')
  | case3 fresh r pending lost ih => exact ih h new

theorem Holds.mem_namesFrom {s t : RecordType} (holds : catalog.Holds s t) (root : RecordType) :
    t.name ∈ catalog.namesFrom root := by
  obtain ⟨m, member, held⟩ := holds
  have listed : m ∈ catalog.members.flatten := by
    change m ∈ catalog.members.getD s.id [] at member
    rw [List.getD_eq_getElem?_getD] at member
    cases found : catalog.members[s.id]? with
    | none =>
      rw [found] at member
      cases member
    | some members =>
      rw [found] at member
      exact List.mem_flatten_of_mem (List.mem_of_getElem? found) member
  apply List.mem_cons_of_mem
  apply List.mem_map_of_mem
  exact List.mem_filterMap.2 ⟨m, listed, held⟩

theorem root_visited (catalog : Catalog) (root : RecordType) : root ∈ catalog.visited root := by
  have found : root.name ∈ catalog.namesFrom root := List.mem_cons_self
  rw [visited, entered, dif_pos found]
  exact List.mem_cons_self

theorem reached_of_visited {s : RecordType} (h : s ∈ catalog.visited root) :
    ReflTransGen catalog.Holds root s :=
  entered_induct (fun _ _ reached holds => reached.tail holds) (List.forall_mem_singleton.2 .refl) s h

theorem held_visited {s t : RecordType} (h : s ∈ catalog.visited root) (holds : catalog.Holds s t) :
    t.name ∈ (catalog.visited root).map (·.name) :=
  held_entered h holds (holds.mem_namesFrom root)

theorem UniquelyNamed.visited {s : RecordType} (named : catalog.UniquelyNamed root)
    (reached : ReflTransGen catalog.Holds root s) :
    ∃ v ∈ catalog.visited root, (catalog.schema v).members = (catalog.schema s).members := by
  induction reached with
  | refl => exact ⟨root, root_visited catalog root, rfl⟩
  | @tail s t reached holds ih =>
    obtain ⟨v, seen, same⟩ := ih
    have holds' : catalog.Holds v t := by
      unfold Holds
      rw [same]
      exact holds
    obtain ⟨w, seen', named'⟩ := List.mem_map.1 (held_visited seen holds')
    exact ⟨w, seen', named w t (reached_of_visited seen') (reached.tail holds) named'⟩

theorem hollow_of_check {e : RegistrationError} (refused : catalog.check root = .error e) :
    ∃ s ∈ catalog.visited root, catalog.Hollow s ∧ e = .emptySchema s.name := by
  rw [check, survey_eq] at refused
  split at refused
  · rename_i s first
    cases refused
    have empty := List.find?_some first
    exact ⟨s, List.mem_of_find?_eq_some first, List.isEmpty_iff.1 empty, rfl⟩
  · cases refused

theorem check_ok_iff : catalog.check root = .ok () ↔ ∀ s ∈ catalog.visited root, ¬catalog.Hollow s := by
  constructor
  · intro passed s seen hollow
    rw [check, survey_eq] at passed
    split at passed
    · cases passed
    · rename_i none
      exact List.find?_eq_none.1 none s seen (List.isEmpty_iff.2 hollow)
  · intro full
    cases checked : catalog.check root with
    | ok _ => rfl
    | error e =>
      obtain ⟨s, seen, hollow, -⟩ := hollow_of_check checked
      exact absurd hollow (full s seen)

theorem check_of_full (full : ∀ s, ReflTransGen catalog.Refers root s → ¬catalog.Hollow s) :
    catalog.check root = .ok () := by
  apply check_ok_iff.2
  intro s seen
  have weaker : catalog.Holds ≤ catalog.Refers := fun _ _ => Holds.refers
  exact full s (ReflTransGen.mono weaker _ _ (reached_of_visited seen))

theorem UniquelyNamed.check_ok_iff (named : catalog.UniquelyNamed root) :
    catalog.check root = .ok () ↔ ∀ s, ReflTransGen catalog.Holds root s → ¬catalog.Hollow s := by
  rw [Catalog.check_ok_iff]
  constructor
  · intro full s reached hollow
    obtain ⟨v, seen, same⟩ := named.visited reached
    exact full v seen (same.trans hollow)
  · intro full s seen
    exact full s (reached_of_visited seen)

theorem UniquelyNamed.check_ok_iff_of_flat (named : catalog.UniquelyNamed root)
    (flat : catalog.Flat root) :
    catalog.check root = .ok () ↔ ∀ s, ReflTransGen catalog.Refers root s → ¬catalog.Hollow s :=
  ⟨fun passed s reached => named.check_ok_iff.1 passed s (flat.holds reached), check_of_full⟩

end Catalog

namespace Registry

variable {r : Registry} {catalog : Catalog} {type : RecordType}

theorem register_refused {e : RegistrationError} (refused : catalog.check type = .error e) :
    r.register catalog type = .error e := by
  rw [register, refused]
  rfl

theorem check_of_register {e : RegistrationError} (refused : r.register catalog type = .error e) :
    catalog.check type = .error e := by
  obtain refused | ⟨-, -, accepted⟩ := bind_error_iff.1 refused
  · exact refused
  · split at accepted
    · cases accepted
    · cases accepted

theorem register_isOk_iff (fresh : r.find? type = none) :
    (∃ result, r.register catalog type = .ok result) ↔ catalog.check type = .ok () := by
  cases checked : catalog.check type with
  | error e => simp [register_refused checked]
  | ok _ => simp [register_fresh checked (find?_eq_none_iff.1 fresh)]

theorem register_iff (catalog : Catalog) (fresh : r.find? type = none) :
    ((∃ result, r.register catalog type = .ok result) ↔
      ∀ s ∈ catalog.visited type, ¬catalog.Hollow s) ∧
    (∀ e, r.register catalog type = .error e →
      ∃ s ∈ catalog.visited type, catalog.Hollow s ∧ e = .emptySchema s.name) ∧
    -- what the visited types are
    (type ∈ catalog.visited type ∧ ((catalog.visited type).map (·.name)).Nodup ∧
      ∀ s ∈ catalog.visited type, ReflTransGen catalog.Holds type s ∧
        ∀ t, catalog.Holds s t → t.name ∈ (catalog.visited type).map (·.name)) ∧
    -- when it comes to the same as what a caller is promised
    ((∀ s, ReflTransGen catalog.Refers type s → ¬catalog.Hollow s) →
      ∃ result, r.register catalog type = .ok result) ∧
    (catalog.UniquelyNamed type → ((∃ result, r.register catalog type = .ok result) ↔
      ∀ s, ReflTransGen catalog.Holds type s → ¬catalog.Hollow s)) ∧
    (catalog.UniquelyNamed type → catalog.Flat type →
      ((∃ result, r.register catalog type = .ok result) ↔
        ∀ s, ReflTransGen catalog.Refers type s → ¬catalog.Hollow s)) := by
  rw [register_isOk_iff fresh]
  have refused : ∀ e, r.register catalog type = .error e →
      ∃ s ∈ catalog.visited type, catalog.Hollow s ∧ e = .emptySchema s.name := fun e refused =>
    Catalog.hollow_of_check (check_of_register refused)
  have closed : ∀ s ∈ catalog.visited type, ReflTransGen catalog.Holds type s ∧
      ∀ t, catalog.Holds s t → t.name ∈ (catalog.visited type).map (·.name) := fun s seen =>
    ⟨Catalog.reached_of_visited seen, fun t holds => Catalog.held_visited seen holds⟩
  exact ⟨Catalog.check_ok_iff, refused,
    ⟨Catalog.root_visited catalog type, Catalog.nodup_entered .., closed⟩,
    Catalog.check_of_full, Catalog.UniquelyNamed.check_ok_iff,
    Catalog.UniquelyNamed.check_ok_iff_of_flat⟩

theorem register_iff_mutual :
    let author : RecordType := ⟨0, "Author"⟩
    let book : RecordType := ⟨1, "Book"⟩
    let catalog : Catalog := ⟨[[⟨"name", [], .text⟩, ⟨"books", [], .list (.record book)⟩],
      [⟨"author", [], .optional (.record author)⟩]]⟩
    (empty none).find? author = none ∧ catalog.UniquelyNamed author ∧ catalog.Flat author ∧
      ∃ result, (empty none).register catalog author = .ok result := by
  intro author book catalog
  have fresh : (empty none).find? author = none := rfl
  have reached : ∀ s, ReflTransGen catalog.Holds author s → s ∈ [author, book] := by
    intro s reached
    induction reached with
    | refl => decide
    | @tail s t _ holds ih =>
      obtain ⟨m, member, held⟩ := holds
      have closed : ∀ s ∈ [author, book], ∀ m ∈ (catalog.schema s).members, ∀ t ∈ m.type.held?,
        t ∈ [author, book] := by decide
      exact closed s ih m member t held
  have named : catalog.UniquelyNamed author := by
    intro s t toS toT
    have named : ∀ s ∈ [author, book], ∀ t ∈ [author, book], s.name = t.name →
      (catalog.schema s).members = (catalog.schema t).members := by decide
    exact named s (reached s toS) t (reached t toT)
  have flat : catalog.Flat author := by
    intro s toS
    have flat : ∀ s ∈ [author, book], ∀ m ∈ (catalog.schema s).members,
      m.type.held? = m.type.mentioned? := by decide
    exact flat s (reached s toS)
  have full : ∀ s, ReflTransGen catalog.Refers author s → ¬catalog.Hollow s := by
    intro s toS
    have full : ∀ s ∈ [author, book], (catalog.schema s).members ≠ [] := by decide
    exact full s (reached s (flat.holds toS))
  obtain ⟨-, -, -, -, -, promised⟩ := register_iff catalog fresh
  exact ⟨fresh, named, flat, (promised named flat).2 full⟩

theorem register_overlooks_hollow :
    let root : RecordType := ⟨0, "Root"⟩
    let leaf : RecordType := ⟨1, "Leaf"⟩
    let hollow : RecordType := ⟨2, "Leaf"⟩
    let nested : Catalog := ⟨[[⟨"rows", [], .list (.list (.record hollow))⟩], [], []]⟩
    let homonyms : Catalog := ⟨[[⟨"first", [], .record leaf⟩, ⟨"second", [], .record hollow⟩],
      [⟨"value", [], .int⟩], []]⟩
    (nested.Refers root hollow ∧ nested.Hollow hollow ∧
      ∃ result, (empty none).register nested root = .ok result) ∧
    (homonyms.Refers root hollow ∧ homonyms.Hollow hollow ∧
      ∃ result, (empty none).register homonyms root = .ok result) := by
  intro root leaf hollow nested homonyms
  have fresh : (empty none).find? root = none := rfl
  have deep : nested.Refers root hollow := ⟨_, .head _, rfl⟩
  have second : homonyms.Refers root hollow := ⟨_, .tail _ (.head _), rfl⟩
  have nestedPasses : nested.check root = .ok () := by
    simp [Catalog.check, Catalog.survey, Catalog.schema, Catalog.namesFrom, Schema.held,
      FieldType.held?, FieldType.record?, FieldType.element?, FieldType.strip, nested, root, hollow]
  have homonymsPass : homonyms.check root = .ok () := by
    simp [Catalog.check, Catalog.survey, Catalog.schema, Catalog.namesFrom, Catalog.without,
      Schema.held, FieldType.held?, FieldType.record?, FieldType.element?, FieldType.strip,
      homonyms, root, leaf, hollow]
  exact ⟨⟨deep, rfl, (register_isOk_iff fresh).2 nestedPasses⟩,
    second, rfl, (register_isOk_iff fresh).2 homonymsPass⟩

end Registry

end Listing
