import Listing.Proofs.Engine.Survey
import Listing.Proofs.Engine.Session

namespace Listing

open Relation (ReflTransGen)

namespace Catalog

/-- The search of the pending types: the names visited before it, how it comes out, and the names visited
after it. A type that is entered has the types of its members searched before the next one pending. -/
inductive Search (catalog : Catalog) :
    List String → List RecordType → Except RegistrationError Unit → List String → Prop
  | done {visited : List String} : Search catalog visited [] (.ok ()) visited
  | seen {visited left : List String} {r : RecordType} {pending : List RecordType}
      {outcome : Except RegistrationError Unit} : r.name ∈ visited →
      Search catalog visited pending outcome left → Search catalog visited (r :: pending) outcome left
  | hollow {visited : List String} {r : RecordType} {pending : List RecordType} : r.name ∉ visited →
      catalog.Hollow r →
      Search catalog visited (r :: pending) (.error (.emptySchema r.name)) (r.name :: visited)
  | entered {visited between left : List String} {r : RecordType} {pending : List RecordType}
      {outcome : Except RegistrationError Unit} : r.name ∉ visited → ¬catalog.Hollow r →
      Search catalog (r.name :: visited) (catalog.schema r).held (.ok ()) between →
      Search catalog between pending outcome left → Search catalog visited (r :: pending) outcome left
  | failed {visited left : List String} {r : RecordType} {pending : List RecordType}
      {error : RegistrationError} : r.name ∉ visited → ¬catalog.Hollow r →
      Search catalog (r.name :: visited) (catalog.schema r).held (.error error) left →
      Search catalog visited (r :: pending) (.error error) left

def remaining (names visited : List String) : List String := names.filter (· ∉ visited)

variable {catalog : Catalog} {names visited left : List String} {pending : List RecordType}
  {outcome : Except RegistrationError Unit}

theorem mem_remaining {name : String} :
    name ∈ remaining names visited ↔ name ∈ names ∧ name ∉ visited := by
  simp [remaining]

theorem without_remaining (name : String) (names visited : List String) :
    without name (remaining names visited) = remaining names (name :: visited) := by
  unfold without remaining
  rw [List.filter_filter]
  apply List.filter_congr
  intro other _
  simp [bne, Bool.beq_eq_decide_eq]

theorem length_remaining_cons_lt {name : String} (listed : name ∈ names) (new : name ∉ visited) :
    (remaining names (name :: visited)).length < (remaining names visited).length := by
  rw [← without_remaining]
  exact length_without_lt (mem_remaining.2 ⟨listed, new⟩)

theorem length_remaining_le (names : List String) (more : visited ⊆ left) :
    (remaining names left).length ≤ (remaining names visited).length := by
  apply List.Sublist.length_le
  apply List.monotone_filter_right
  intro name late
  rw [decide_eq_true_eq] at late ⊢
  exact fun early => late (more early)

namespace Search

theorem subset (search : catalog.Search visited pending outcome left) : visited ⊆ left := by
  induction search with
  | done => exact List.Subset.refl _
  | seen _ _ ih => exact ih
  | hollow _ _ => exact List.subset_cons_self ..
  | entered _ _ _ _ deeper next =>
    exact List.Subset.trans (List.subset_of_cons_subset deeper) next
  | failed _ _ _ deeper => exact List.subset_of_cons_subset deeper

theorem nodup (search : catalog.Search visited pending outcome left) (once : visited.Nodup) :
    left.Nodup := by
  induction search with
  | done => exact once
  | seen _ _ ih => exact ih once
  | hollow new _ => exact List.nodup_cons.2 ⟨new, once⟩
  | entered new _ _ _ deeper next => exact next (deeper (List.nodup_cons.2 ⟨new, once⟩))
  | failed new _ _ deeper => exact deeper (List.nodup_cons.2 ⟨new, once⟩)

theorem survey_eq (closed : ∀ s t, catalog.Holds s t → t.name ∈ names)
    (search : catalog.Search visited pending outcome left) (listed : ∀ r ∈ pending, r.name ∈ names)
    (rest : List RecordType) : catalog.survey (remaining names visited) (pending ++ rest) =
      outcome >>= fun _ => catalog.survey (remaining names left) rest := by
  have held : ∀ r, ∀ t ∈ (catalog.schema r).held, t.name ∈ names := fun r t member =>
    closed r t (mem_held.1 member)
  induction search generalizing rest with
  | done => rfl
  | seen old _ ih =>
    have ⟨_, others⟩ := List.forall_mem_cons.1 listed
    rw [List.cons_append, survey, dif_neg fun fresh => (mem_remaining.1 fresh).2 old]
    exact ih others rest
  | hollow new empty =>
    have ⟨first, _⟩ := List.forall_mem_cons.1 listed
    rw [List.cons_append, survey, dif_pos (mem_remaining.2 ⟨first, new⟩)]
    exact if_pos (List.isEmpty_iff.2 empty)
  | @entered visited between left r pending outcome new full _ _ deeper next =>
    have ⟨first, others⟩ := List.forall_mem_cons.1 listed
    rw [List.cons_append, survey, dif_pos (mem_remaining.2 ⟨first, new⟩)]
    dsimp only
    rw [if_neg (mt List.isEmpty_iff.1 full), without_remaining, deeper (held r) (pending ++ rest)]
    exact next others rest
  | @failed visited left r pending error new full _ deeper =>
    have ⟨first, _⟩ := List.forall_mem_cons.1 listed
    rw [List.cons_append, survey, dif_pos (mem_remaining.2 ⟨first, new⟩)]
    dsimp only
    rw [if_neg (mt List.isEmpty_iff.1 full), without_remaining, deeper (held r) (pending ++ rest)]
    rfl

theorem check_eq {root : RecordType} (search : catalog.Search [] [root] outcome left) :
    outcome = catalog.check root := by
  have closed : ∀ s t, catalog.Holds s t → t.name ∈ catalog.namesFrom root := fun _ _ holds =>
    holds.mem_namesFrom root
  have listed : ∀ r ∈ [root], r.name ∈ catalog.namesFrom root :=
    List.forall_mem_singleton.2 List.mem_cons_self
  have whole : remaining (catalog.namesFrom root) [] = catalog.namesFrom root := by simp [remaining]
  have agrees := search.survey_eq closed listed []
  rw [whole, List.append_nil] at agrees
  rw [check, agrees]
  cases outcome with
  | error _ => rfl
  | ok _ => rw [survey]; rfl

end Search

theorem exists_search (closed : ∀ s t, catalog.Holds s t → t.name ∈ names) (visited : List String)
    (pending : List RecordType) (listed : ∀ r ∈ pending, r.name ∈ names) :
    ∃ outcome left, catalog.Search visited pending outcome left := by
  -- on the number of names left, and for one number of them on the pending types
  induction size_eq : (remaining names visited).length using Nat.strongRecOn
    generalizing visited pending with
  | ind size fewer =>
  induction pending with
  | nil => exact ⟨_, _, .done⟩
  | cons r pending ih =>
    have ⟨first, others⟩ := List.forall_mem_cons.1 listed
    by_cases old : r.name ∈ visited
    · obtain ⟨outcome, left, search⟩ := ih others
      exact ⟨outcome, left, .seen old search⟩
    by_cases hollow : catalog.Hollow r
    · exact ⟨_, _, .hollow old hollow⟩
    have held : ∀ t ∈ (catalog.schema r).held, t.name ∈ names := fun t member =>
      closed r t (mem_held.1 member)
    have smaller : (remaining names (r.name :: visited)).length < size :=
      size_eq ▸ length_remaining_cons_lt first old
    obtain ⟨outcome, between, deeper⟩ := fewer _ smaller (r.name :: visited) _ held rfl
    cases outcome with
    | error error => exact ⟨_, _, .failed old hollow deeper⟩
    | ok _ =>
      have still := Nat.lt_of_le_of_lt (length_remaining_le names deeper.subset) smaller
      obtain ⟨outcome, left, next⟩ := fewer _ still between pending others rfl
      exact ⟨outcome, left, .entered old hollow deeper next⟩

end Catalog

namespace Session

variable {s : Session} {type : RecordType}

theorem check_of_register {error : RegistrationError} (refused : s.engine.register type = .error error) :
    s.engine.catalog.check type = .error error := by
  obtain refused | ⟨result, registered, accepted⟩ := bind_error_iff.1 refused
  · exact Registry.check_of_register refused
  · cases accepted

def admits (catalog : Catalog) (operation : RecordType × Operation) : Bool :=
  !operation.2.registers || (catalog.check operation.1).isOk

theorem foldl_refused (s : Session) (operations : List (RecordType × Operation)) :
    operations.foldl step s = (operations.filter (admits s.engine.catalog)).foldl step s := by
  induction operations generalizing s with
  | nil => rfl
  | cons first operations ih =>
    obtain ⟨type, operation⟩ := first
    have same : (s.step (type, operation)).engine.catalog = s.engine.catalog :=
      (s.step_fixed type operation).2.1
    rw [List.foldl_cons, ih, same, List.filter_cons]
    cases admitted : admits s.engine.catalog (type, operation) with
    | true => rfl
    | false =>
      have ⟨registers, refused⟩ := Bool.or_eq_false_iff.1 admitted
      cases operation with
      | register =>
        cases checked : s.engine.catalog.check type with
        | ok _ => rw [checked] at refused; cases refused
        | error error => rw [register_refused checked]; rfl
      | _ => cases registers

theorem register_fails_cleanly (s : Session) (type : RecordType) :
    -- the search ends, and however it ends, no name was entered twice
    (∃ outcome left, s.engine.catalog.Search [] [type] outcome left) ∧
    (∀ outcome left, s.engine.catalog.Search [] [type] outcome left →
      left.Nodup ∧ outcome = s.engine.catalog.check type) ∧
    -- a refusal names a type without members, and leaves everything as it was
    (∀ error, s.engine.register type = .error error →
      (∃ t, ReflTransGen s.engine.catalog.Holds type t ∧ s.engine.catalog.Hollow t ∧
        error = .emptySchema t.name) ∧
      s.step (type, .register) = s) ∧
    -- so that all goes on as if the registrations that are refused had not been tried
    ∀ operations : List (RecordType × Operation), operations.foldl step s =
      (operations.filter (admits s.engine.catalog)).foldl step s := by
  refine ⟨?ends, ?once, ?refused, foldl_refused s⟩
  case ends =>
    have root : ∀ r ∈ [type], r.name ∈ s.engine.catalog.namesFrom type :=
      List.forall_mem_singleton.2 List.mem_cons_self
    exact Catalog.exists_search (fun _ _ holds => holds.mem_namesFrom type) [] [type] root
  case once => exact fun outcome left search => ⟨search.nodup List.nodup_nil, search.check_eq⟩
  case refused =>
    intro error refused
    have checked := check_of_register refused
    obtain ⟨t, seen, hollow, named⟩ := Catalog.hollow_of_check checked
    exact ⟨⟨t, Catalog.reached_of_visited seen, hollow, named⟩, register_refused checked⟩

theorem register_fails_cleanly_cyclic :
    let order : RecordType := ⟨0, "Order"⟩
    let customer : RecordType := ⟨1, "Customer"⟩
    let label : RecordType := ⟨2, "Label"⟩
    let item : RecordType := ⟨3, "Item"⟩
    let catalog : Catalog := ⟨[[⟨"buyer", [], .optional (.record customer)⟩],
      [⟨"orders", [], .list (.record order)⟩, ⟨"labels", [], .list (.record label)⟩], [],
      [⟨"price", [], .int⟩]]⟩
    let fetch : Task := .fetchFilter ⟨"price", [], .compare .equal, .int 1⟩
    let s := run .default catalog Coercion.builtin
      [(item, .register), (item, .builder), (item, .use 0 fetch)]
    let names := ["Label", "Customer", "Order"]
    catalog.Search [] [order] (.error (.emptySchema "Label")) names ∧ names.Nodup ∧
    s.engine.register order = .error (.emptySchema "Label") ∧
    (∃ t, ReflTransGen catalog.Holds order t ∧ catalog.Hollow t ∧
      RegistrationError.emptySchema "Label" = .emptySchema t.name) ∧
    s.step (order, .register) = s ∧
    [(order, .register), (item, .clear)].foldl step s = [(item, .clear)].foldl step s := by
  intro order customer label item catalog fetch s names
  have schemas : s.engine.catalog = catalog := (run_fixed ..).2.1
  obtain ⟨-, once, refused, dropped⟩ := register_fails_cleanly s order
  rw [schemas] at once refused dropped
  have full : ∀ t ∈ [order, customer], ¬catalog.Hollow t := by
    intro t listed hollow
    have members : ∀ t ∈ [order, customer], (catalog.schema t).members ≠ [] := by decide
    exact members t listed hollow
  have search : catalog.Search [] [order] (.error (.emptySchema "Label")) names := by
    refine .failed (by decide) (full order (by decide)) ?_
    change catalog.Search ["Order"] [customer] _ _
    refine .failed (by decide) (full customer (by decide)) ?_
    change catalog.Search ["Customer", "Order"] [order, label] _ _
    exact .seen (by decide) (.hollow (by decide) rfl)
  obtain ⟨distinct, outcome⟩ := once _ _ search
  have registration : s.engine.register order = .error (.emptySchema "Label") := by
    rw [Engine.register, schemas, Registry.register_refused outcome.symm]
    rfl
  obtain ⟨culprit, unchanged⟩ := refused _ registration
  have admitted : [(order, Operation.register), (item, .clear)].filter (admits catalog) =
      [(item, .clear)] := by
    simp only [List.filter_cons, admits, ← outcome]
    rfl
  refine ⟨search, distinct, registration, culprit, unchanged, ?_⟩
  rw [dropped, admitted]

end Session

end Listing
