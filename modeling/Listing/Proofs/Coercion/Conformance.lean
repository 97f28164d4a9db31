import Listing.Proofs.Binary64.Rounding
import Listing.Proofs.Coercion.Builtin
import Listing.Proofs.Outcome

namespace Listing

/-- The values of a type. No value is a record. -/
inductive Conforms : FieldType → Value → Prop
  | null {inner : FieldType} : Conforms (.optional inner) .null
  | some {inner : FieldType} {v : Value} : Conforms inner v → Conforms (.optional inner) v
  | list {element : FieldType} {items : List Value} :
      (∀ item ∈ items, Conforms element item) → Conforms (.list element) (.list items)
  | member {e : EnumType} {m : EnumMember} : m ∈ e.members → Conforms (.enum e) (.member m)
  | bool (b : Bool) : Conforms .bool (.bool b)
  | int (n : Int64) : Conforms .int (.int n)
  | float {x : Binary64} : x.isFinite = true → Conforms .float (.float x)
  | text (s : String) : Conforms .text (.text s)
  | instant (t : Instant) : Conforms .instant (.instant t)
  | uuid (id : Uuid) : Conforms .uuid (.uuid id)

inductive Operand.Finite : Operand → Prop
  | null : Finite .null
  | bool (b : Bool) : Finite (.bool b)
  | int (n : Int64) : Finite (.int n)
  | float {x : Binary64} : x.isFinite = true → Finite (.float x)
  | string (s : String) : Finite (.string s)
  | array {items : List Operand} : (∀ item ∈ items, Finite item) → Finite (.array items)

theorem EnumType.byOrdinal?_mem {e : EnumType} {ordinal : Int64} {m : EnumMember}
    (h : e.byOrdinal? ordinal = some m) : m ∈ e.members :=
  List.mem_of_find?_eq_some h

theorem EnumType.byName?_mem {e : EnumType} {name : List Char} {m : EnumMember}
    (h : e.byName? name = some m) : m ∈ e.members :=
  List.mem_of_find?_eq_some h

namespace Coercion

theorem member?_mem {e : EnumType} {operand : Operand} {m : EnumMember}
    (h : member? e operand = some m) : m ∈ e.members := by
  cases operand with
  | string s =>
    rw [member?] at h
    cases named : e.byName? (Text.trim s.toList) with
    | some m' =>
      rw [named] at h
      cases h
      exact EnumType.byName?_mem named
    | none =>
      rw [named] at h
      obtain ⟨ordinal, -, found⟩ := Option.bind_eq_some_iff.1 h
      exact EnumType.byOrdinal?_mem found
  | int n => exact EnumType.byOrdinal?_mem h
  | float x =>
    obtain ⟨ordinal, -, found⟩ := Option.bind_eq_some_iff.1 h
    exact EnumType.byOrdinal?_mem found
  | null | bool _ | array _ => cases h

theorem primitive?_conforms {target : FieldType} {operand : Operand} {v : Value}
    (finite : operand.Finite) (h : primitive? target operand = some v) : Conforms target v := by
  unfold primitive? at h
  split at h
  · cases h
    exact .bool _
  · obtain ⟨b, -, rfl⟩ := Option.map_eq_some_iff.1 h
    exact .bool b
  · cases h
    exact .int _
  · obtain ⟨n, -, rfl⟩ := Option.map_eq_some_iff.1 h
    exact .int n
  · obtain ⟨n, -, rfl⟩ := Option.map_eq_some_iff.1 h
    exact .int n
  · cases h
    exact .float (Value.isFinite_widen _)
  · cases h
    cases finite with
    | float finite => exact .float finite
  · obtain ⟨x, read, rfl⟩ := Option.map_eq_some_iff.1 h
    exact .float (Option.filter_eq_some_iff.1 read).2
  · cases h
    exact .text _
  · cases h

theorem coerce_conforms {target : FieldType} {operand : Operand} {v : Value} (finite : operand.Finite)
    (h : coerce builtin target operand = .ok v) : Conforms target v := by
  induction target generalizing operand v with
  | optional inner ih =>
    cases operand with
    | null =>
      rw [coerce_optional_null] at h
      cases h
      exact .null
    | _ =>
      rw [coerce_optional rfl] at h
      exact .some (ih finite h)
  | list element ih =>
    cases operand with
    | null =>
      rw [coerce_list_null] at h
      cases h
    | array items =>
      rw [coerce_list_array, map_ok_iff] at h
      obtain ⟨vs, read, rfl⟩ := h
      cases finite with
      | array finite =>
        refine .list fun v member => ?_
        obtain ⟨item, listed, parsed⟩ := exists_of_mem_mapM read member
        exact ih (finite item listed) parsed
    | _ =>
      rw [coerce_list_single rfl (by simp), map_ok_iff] at h
      obtain ⟨w, read, rfl⟩ := h
      refine .list fun v member => ?_
      rw [List.mem_singleton.1 member]
      exact ih finite read
  | enum e =>
    rw [coerce_enum, settle_ok] at h
    obtain ⟨m, found, rfl⟩ := Option.map_eq_some_iff.1 h
    exact .member (member?_mem found)
  | instant =>
    rw [coerce_instant, settle_ok] at h
    obtain ⟨t, -, rfl⟩ := Option.map_eq_some_iff.1 h
    exact .instant t
  | uuid =>
    cases operand with
    | string s =>
      rw [coerce_uuid, settle_ok] at h
      obtain ⟨id, -, rfl⟩ := Option.map_eq_some_iff.1 h
      exact .uuid id
    | _ =>
      rw [coerce_uuid_of_ne_string (by simp)] at h
      cases h
  | record r =>
    rw [coerce_record] at h
    cases h
  | bool | int | float | text =>
    rw [coerce_primitive (by simp), settle_ok] at h
    exact primitive?_conforms finite h

theorem coerce_array_ok {element : FieldType} {items : List Operand} {v : Value} :
    coerce builtin (.list element) (.array items) = .ok v ↔ ∃ vs, v = .list vs ∧
      List.Forall₂ (fun item v => coerce builtin element item = .ok v) items vs := by
  rw [coerce_list_array, map_ok_iff]
  constructor
  · rintro ⟨vs, read, rfl⟩
    exact ⟨vs, rfl, mapM_ok_iff.1 read⟩
  · rintro ⟨vs, rfl, all⟩
    exact ⟨vs, mapM_ok_iff.2 all, rfl⟩

theorem coerce_array_error {element : FieldType} {items : List Operand} {e : CompileError} :
    coerce builtin (.list element) (.array items) = .error e ↔
      ∃ before item behind, items = before ++ item :: behind ∧
        (∀ i ∈ before, ∃ v, coerce builtin element i = .ok v) ∧
          coerce builtin element item = .error e := by
  rw [coerce_list_array, map_error_iff, mapM_error_iff]

/-- A value that comes out is one of the target type. An array is read item by item, and refused for the
first item that is. -/
theorem coerce_sound :
    (∀ target operand, operand.Finite → ∀ v, coerce builtin target operand = .ok v →
      Conforms target v) ∧
    (∀ element items v, coerce builtin (.list element) (.array items) = .ok v ↔ ∃ vs, v = .list vs ∧
      List.Forall₂ (fun item v => coerce builtin element item = .ok v) items vs) ∧
    ∀ element items e, coerce builtin (.list element) (.array items) = .error e ↔
      ∃ before item behind, items = before ++ item :: behind ∧
        (∀ i ∈ before, ∃ v, coerce builtin element i = .ok v) ∧
          coerce builtin element item = .error e := by
  refine ⟨?_, ?_, ?_⟩
  · intro target operand finite v read
    exact coerce_conforms finite read
  · intro element items v
    exact coerce_array_ok
  · intro element items e
    exact coerce_array_error

theorem coerce_sound_mixed_array :
    let operand : Operand := .array [.int 1, .null, .float (.ofParts true 0)]
    ∃ v, operand.Finite ∧ coerce builtin (.list (.optional .float)) operand = .ok v ∧
      Conforms (.list (.optional .float)) v := by
  intro operand
  have finite : operand.Finite := by
    refine .array fun item member => ?_
    simp only [List.mem_cons, List.not_mem_nil, or_false] at member
    obtain rfl | rfl | rfl := member
    · exact .int 1
    · exact .null
    · exact .float (by decide)
  have read : coerce builtin (.list (.optional .float)) operand =
      .ok (.list [.float (Value.widen 1), .null, .float (.ofParts true 0)]) := rfl
  exact ⟨_, finite, read, coerce_sound.1 _ _ finite _ read⟩

end Coercion

end Listing
