import Listing.Path
import Listing.Proofs.Outcome
import Listing.Proofs.Schema.Lookup

/-!
# The paths that names lead along

Names lead along steps if each of them stands for a member in the schema that the steps before it have come
to (`Leads`). A path is resolved exactly if all its names lead somewhere, and the error is that of the
first name that does not (`resolve_exact`).
-/

namespace Listing.Path

/-- The schema of the record that a member holds, under any optional layers. Nothing lies within a list or
a scalar. -/
def within (catalog : Catalog) : FieldType → Option Schema
  | .record r => some (catalog.schema r)
  | .optional inner => within catalog inner
  | _ => none

/-- In this scope the names lead along the steps, to the scope of a next name. -/
inductive Leads (catalog : Catalog) : Option Schema → List String → List Step → Option Schema → Prop
  | here (scope : Option Schema) : Leads catalog scope [] [] scope
  | on {s : Schema} {name : String} {m : Member} {names : List String} {steps : List Step}
      {scope : Option Schema} : s.member? name = some m →
      Leads catalog (within catalog m.type) names steps scope →
      Leads catalog (some s) (name :: names) (⟨m.name, m.type⟩ :: steps) scope

def scopeName : Option Schema → String
  | some s => s.name
  | none => "<scalar>"

def scopeAt (catalog : Catalog) (scope : Option Schema) (steps : List Step) : Nat → Option Schema
  | 0 => scope
  | i + 1 => steps[i]?.bind fun step => within catalog step.type

def readAt? (steps : List Step) (record : Record) (i : Nat) : Option Value :=
  match steps[i]? with
  | none => none
  | some step =>
    match record.lookup step.member with
    | some (.value v) => some (if i = steps.length - 1 then v else .null)
    | some (.record members) =>
      if i < steps.length - 1 then readAt? steps members (i + 1) else some .null
    | none => some .null
termination_by steps.length - i

/-! ## Name by name -/

def look (scope : Option Schema) (name : String) : Except CompileError Step :=
  match scope.bind (·.member? name) with
  | some m => .ok ⟨m.name, m.type⟩
  | none => .error (.unknownProperty (scopeName scope) name)

def walk (catalog : Catalog) : Option Schema → List String → Except CompileError (List Step)
  | _, [] => .ok []
  | scope, name :: names => do
    let step ← look scope name
    let steps ← walk catalog (within catalog step.type) names
    .ok (step :: steps)

variable {catalog : Catalog} {schema : Schema} {scope scope' : Option Schema} {names : List String}
  {steps : List Step} {property : String} {nested : List String} {p : Path} {e : CompileError}

theorem within_eq (catalog : Catalog) (type : FieldType) :
    within catalog type = type.record?.map catalog.schema := by
  induction type with
  | optional inner ih => exact ih
  | _ => rfl

theorem member_eq (schema : Schema) (name : String) : member schema name = look (some schema) name := by
  rw [member, look, Option.bind_some]
  rfl

theorem nestedMember_eq (catalog : Catalog) (parent : FieldType) (name : String) :
    nestedMember catalog parent name = look (within catalog parent) name := by
  rw [nestedMember, within_eq]
  cases parent.record? with
  | some r => exact member_eq (catalog.schema r) name
  | none => rfl

theorem look_ok_iff {name : String} {step : Step} : look scope name = .ok step ↔
    ∃ s m, scope = some s ∧ s.member? name = some m ∧ step = ⟨m.name, m.type⟩ := by
  cases scope with
  | none => simp [look]
  | some s => cases found : s.member? name <;> simp [look, found, eq_comm]

theorem look_error_iff {name : String} : look scope name = .error e ↔
    scope.bind (·.member? name) = none ∧ e = .unknownProperty (scopeName scope) name := by
  unfold look
  split
  · simp [*]
  · simp [*, eq_comm]

theorem follow_cons (catalog : Catalog) (step : Step) (name : String) (names : List String) :
    follow catalog step (name :: names) = look (within catalog step.type) name >>= fun next =>
      (follow catalog next names).map fun (parents, leaf) => (step :: parents, leaf) := by
  rw [follow, nestedMember_eq]
  rfl

theorem walk_cons (catalog : Catalog) (scope : Option Schema) (name : String) (names : List String) :
    walk catalog scope (name :: names) = look scope name >>= fun step =>
      (walk catalog (within catalog step.type) names).map (step :: ·) := rfl

theorem follow_eq (catalog : Catalog) (step : Step) (names : List String) :
    (follow catalog step names).map (fun (parents, leaf) => parents ++ [leaf]) =
      (walk catalog (within catalog step.type) names).map (step :: ·) := by
  induction names generalizing step with
  | nil => rfl
  | cons name names ih =>
    rw [follow_cons, walk_cons]
    cases look (within catalog step.type) name with
    | error e => rfl
    | ok next =>
      have way := congrArg (Except.map (step :: ·)) (ih next)
      rw [map_map] at way
      exact (map_map ..).trans way

theorem resolve_eq (catalog : Catalog) (schema : Schema) (property : String) (nested : List String) :
    (resolve catalog schema property nested).map Path.steps =
      walk catalog (some schema) (property :: nested) := by
  rw [resolve, walk_cons, member_eq]
  cases look (some schema) property with
  | error e => rfl
  | ok first => exact (map_map ..).trans (follow_eq catalog first nested)

/-! ## All names -/

theorem walk_ok_iff :
    walk catalog scope names = .ok steps ↔ ∃ scope', Leads catalog scope names steps scope' := by
  induction names generalizing scope steps with
  | nil =>
    constructor
    · intro walked
      cases walked
      exact ⟨scope, .here scope⟩
    · rintro ⟨-, ⟨⟩⟩
      rfl
  | cons name names ih =>
    rw [walk_cons, bind_ok_iff]
    constructor
    · rintro ⟨step, looked, rest⟩
      obtain ⟨s, m, rfl, stands, rfl⟩ := look_ok_iff.1 looked
      obtain ⟨behind, walked, rfl⟩ := map_ok_iff.1 rest
      obtain ⟨scope', leads⟩ := ih.1 walked
      exact ⟨scope', .on stands leads⟩
    · rintro ⟨scope', leads⟩
      cases leads with
      | on stands leads =>
        exact ⟨_, look_ok_iff.2 ⟨_, _, rfl, stands, rfl⟩,
          map_ok_iff.2 ⟨_, ih.2 ⟨scope', leads⟩, rfl⟩⟩

theorem walk_error_iff : walk catalog scope names = .error e ↔
    ∃ before name behind steps scope', names = before ++ name :: behind ∧
      Leads catalog scope before steps scope' ∧ scope'.bind (·.member? name) = none ∧
      e = .unknownProperty (scopeName scope') name := by
  induction names generalizing scope with
  | nil =>
    constructor
    · intro walked
      cases walked
    · rintro ⟨before, name, behind, -, -, parts, -⟩
      exact absurd parts (by simp)
  | cons name names ih =>
    rw [walk_cons, bind_error_iff]
    constructor
    · rintro (first | ⟨step, looked, rest⟩)
      · exact ⟨[], name, names, [], scope, rfl, .here scope, look_error_iff.1 first⟩
      · obtain ⟨s, m, rfl, stands, rfl⟩ := look_ok_iff.1 looked
        obtain ⟨before, failing, behind, steps, scope', rfl, leads, fails⟩ := ih.1 (map_error_iff.1 rest)
        exact ⟨name :: before, failing, behind, _, scope', rfl, .on stands leads, fails⟩
    · rintro ⟨before, failing, behind, steps, scope', parts, leads, fails⟩
      cases leads with
      | here =>
        obtain ⟨rfl, rfl⟩ := List.cons.inj parts
        exact .inl (look_error_iff.2 fails)
      | on stands leads =>
        obtain ⟨rfl, rfl⟩ := List.cons.inj parts
        exact .inr ⟨_, look_ok_iff.2 ⟨_, _, rfl, stands, rfl⟩,
          map_error_iff.2 (ih.2 ⟨_, failing, behind, _, scope', rfl, leads, fails⟩)⟩

theorem eq_of_steps_eq {q : Path} (record : p.record = q.record) (steps : p.steps = q.steps) : p = q := by
  obtain ⟨parents, leaf⟩ := List.append_inj' steps rfl
  cases p
  cases q
  cases record
  cases parents
  cases leaf
  rfl

theorem record_of_resolve (h : resolve catalog schema property nested = .ok p) :
    p.record = schema.name := by
  obtain ⟨first, -, rest⟩ := bind_ok_iff.1 h
  obtain ⟨way, -, path⟩ := bind_ok_iff.1 rest
  cases path
  rfl

theorem resolve_ok_iff : resolve catalog schema property nested = .ok p ↔
    p.record = schema.name ∧ ∃ scope, Leads catalog (some schema) (property :: nested) p.steps scope := by
  rw [← walk_ok_iff, ← resolve_eq, map_ok_iff]
  constructor
  · intro resolved
    exact ⟨record_of_resolve resolved, p, resolved, rfl⟩
  · rintro ⟨record, q, resolved, same⟩
    have equal : p = q := eq_of_steps_eq (record.trans (record_of_resolve resolved).symm) same.symm
    rw [equal]
    exact resolved

theorem resolve_error_iff : resolve catalog schema property nested = .error e ↔
    ∃ before name behind steps scope, property :: nested = before ++ name :: behind ∧
      Leads catalog (some schema) before steps scope ∧ scope.bind (·.member? name) = none ∧
      e = .unknownProperty (scopeName scope) name := by
  rw [← walk_error_iff, ← resolve_eq, map_error_iff]

theorem kind_of_resolve (h : resolve catalog schema property nested = .error e) :
    e.kind = .unknownProperty := by
  obtain ⟨-, -, -, -, -, -, -, -, rfl⟩ := resolve_error_iff.1 h
  rfl

theorem exists_resolve_iff : (∃ p, resolve catalog schema property nested = .ok p) ↔
    ∃ steps scope, Leads catalog (some schema) (property :: nested) steps scope := by
  simp only [← walk_ok_iff, ← resolve_eq, map_ok_iff]
  constructor
  · rintro ⟨p, resolved⟩
    exact ⟨p.steps, p, resolved, rfl⟩
  · rintro ⟨-, p, resolved, -⟩
    exact ⟨p, resolved⟩

/-! ## Positions -/

theorem Leads.length_eq (h : Leads catalog scope names steps scope') : steps.length = names.length := by
  induction h with
  | here => rfl
  | on _ _ ih => rw [List.length_cons, List.length_cons, ih]

theorem scopeAt_cons (catalog : Catalog) (scope : Option Schema) (step : Step) (steps : List Step)
    (i : Nat) : scopeAt catalog scope (step :: steps) (i + 1) =
      scopeAt catalog (within catalog step.type) steps i := by
  cases i <;> rfl

theorem Leads.step_at (h : Leads catalog scope names steps scope') {i : Nat} {step : Step}
    (at_i : steps[i]? = some step) : ∃ s name m, scopeAt catalog scope steps i = some s ∧
      names[i]? = some name ∧ s.member? name = some m ∧ step = ⟨m.name, m.type⟩ := by
  induction h generalizing i with
  | here => simp at at_i
  | on stands _ ih =>
    cases i with
    | zero =>
      cases at_i
      exact ⟨_, _, _, rfl, rfl, stands, rfl⟩
    | succ i =>
      rw [scopeAt_cons]
      exact ih at_i

theorem readAt?_eq (before : List Step) (leaf : Step) (parents : List Step) (record : Record) :
    readAt? (before ++ parents ++ [leaf]) record before.length = some (readFrom record leaf parents) := by
  induction parents generalizing before record with
  | nil =>
    have here : (before ++ [] ++ [leaf])[before.length]? = some leaf := by simp
    have last : before.length = (before ++ [] ++ [leaf]).length - 1 := by simp
    rw [readAt?, here, readFrom]
    dsimp only
    cases record.lookup leaf.member with
    | none => rfl
    | some node =>
      cases node with
      | value v => exact congrArg some (if_pos last)
      | record members => exact if_neg (Nat.not_lt.2 (Nat.le_of_eq last.symm))
  | cons parent parents ih =>
    have here : (before ++ (parent :: parents) ++ [leaf])[before.length]? = some parent := by simp
    have inside : before.length < (before ++ (parent :: parents) ++ [leaf]).length - 1 := by simp
    have rest : before ++ (parent :: parents) ++ [leaf] = before ++ [parent] ++ parents ++ [leaf] := by
      simp
    rw [readAt?, here, readFrom]
    dsimp only
    cases record.lookup parent.member with
    | none => rfl
    | some node =>
      cases node with
      | value v => exact congrArg some (if_neg (Nat.ne_of_lt inside))
      | record members =>
        have further := ih (before ++ [parent]) members
        rw [List.length_append, ← rest] at further
        exact (if_pos inside).trans further

theorem readAt?_steps (p : Path) (record : Record) : readAt? p.steps record 0 = some (p.read record) :=
  readAt?_eq [] p.leaf p.parents record

/-! ## Exact names -/

theorem member?_of_unique {s : Schema} {m : Member} (unique : (s.members.map (·.name)).Nodup)
    (listed : m ∈ s.members) : s.member? m.name = some m := by
  obtain ⟨found, first, named⟩ := Schema.exists_find? Member.name listed rfl
  have same : found = m :=
    List.inj_on_of_nodup_map unique (List.mem_of_find?_eq_some first) listed named
  rw [← same, Schema.member?_eq]
  exact Schema.memberBy?_of_exact (same ▸ first)

theorem Leads.members (h : Leads catalog scope names steps scope')
    (unique : ∀ i s, i < steps.length → scopeAt catalog scope steps i = some s →
      (s.members.map (·.name)).Nodup) :
    Leads catalog scope (steps.map (·.member)) steps scope' := by
  induction h with
  | here scope => exact .here scope
  | on stands _ ih =>
    have listed := Schema.mem_of_memberBy? stands
    refine .on (member?_of_unique (unique 0 _ (Nat.zero_lt_succ _) rfl) listed) (ih ?_)
    intro i s inside at_i
    exact unique (i + 1) s (Nat.succ_lt_succ inside) (scopeAt_cons .. ▸ at_i)

/-! ## The paths -/

theorem resolve_exact (catalog : Catalog) (schema : Schema) (property : String) (nested : List String) :
    let names := property :: nested
    let resolved := resolve catalog schema property nested
    ((∃ p, resolved = .ok p) ↔ ∃ steps scope, Leads catalog (some schema) names steps scope) ∧
    (∀ p, resolved = .ok p ↔
      p.record = schema.name ∧ ∃ scope, Leads catalog (some schema) names p.steps scope) ∧
    (∀ e, resolved = .error e ↔ ∃ before name behind steps scope, names = before ++ name :: behind ∧
      Leads catalog (some schema) before steps scope ∧ scope.bind (·.member? name) = none ∧
      e = .unknownProperty (scopeName scope) name) ∧
    ∀ p, resolved = .ok p →
      let scopeAt := scopeAt catalog (some schema) p.steps
      p.steps.length = names.length ∧
      (∀ i step, p.steps[i]? = some step →
        ∃ s, scopeAt i = some s ∧ ∃ m ∈ s.members, step = ⟨m.name, m.type⟩) ∧
      -- the positions of the leaf and of a reading are in bounds
      p.steps[p.steps.length - 1]? = some p.leaf ∧
      (∀ record, readAt? p.steps record 0 = some (p.read record)) ∧
      -- exact names lead along the same path
      ((∀ i s, i < p.steps.length → scopeAt i = some s → (s.members.map (·.name)).Nodup) →
        ∀ property' nested', property' :: nested' = p.steps.map (·.member) →
          resolve catalog schema property' nested' = .ok p) := by
  refine ⟨exists_resolve_iff, fun _ => resolve_ok_iff, fun _ => resolve_error_iff, ?_⟩
  intro p resolved scopeAt
  obtain ⟨record, scope, leads⟩ := resolve_ok_iff.1 resolved
  refine ⟨leads.length_eq, ?_, ?_, readAt?_steps p, ?_⟩
  · intro i step at_i
    obtain ⟨s, name, m, place, -, stands, rfl⟩ := leads.step_at at_i
    exact ⟨s, place, m, Schema.mem_of_memberBy? stands, rfl⟩
  · simp [Path.steps]
  · intro unique property' nested' exact
    rw [resolve_ok_iff, exact]
    exact ⟨record, scope, leads.members unique⟩

theorem resolve_exact_cyclic :
    let person : RecordType := ⟨0, "Person"⟩
    let team : RecordType := ⟨1, "Team"⟩
    let catalog : Catalog := ⟨[[⟨"Name", [], .text⟩, ⟨"Team", ["group"], .optional (.record team)⟩],
      [⟨"Lead", ["name"], .record person⟩, ⟨"Size", [], .int⟩]]⟩
    let schema := catalog.schema person
    let p : Path := ⟨"Person", [⟨"Team", .optional (.record team)⟩, ⟨"Lead", .record person⟩],
      ⟨"Name", .text⟩⟩
    resolve catalog schema "Group" ["LEAD", "Name"] = .ok p ∧
    resolve catalog schema "Team" ["Lead", "Name"] = .ok p ∧
    resolve catalog schema "group" ["size", "x", "y"] = .error (.unknownProperty "<scalar>" "x") := by
  intro person team catalog schema p
  have resolved : resolve catalog schema "Group" ["LEAD", "Name"] = .ok p := by
    dsimp only [schema, catalog, p, person, team]
    rfl
  have unique : ∀ i s, i < p.steps.length → scopeAt catalog (some schema) p.steps i = some s →
      (s.members.map (·.name)).Nodup := by
    intro i s inside at_i
    have all : ∀ i < p.steps.length, ∀ s ∈ scopeAt catalog (some schema) p.steps i,
      (s.members.map (·.name)).Nodup := by decide
    exact all i inside s at_i
  obtain ⟨-, -, -, further⟩ := resolve_exact catalog schema "Group" ["LEAD", "Name"]
  obtain ⟨-, -, -, -, again⟩ := further p resolved
  refine ⟨resolved, again unique "Team" ["Lead", "Name"] rfl, ?_⟩
  dsimp only [schema, catalog, person, team]
  rfl

end Listing.Path
