import Listing.Coercion
import Listing.Proofs.Outcome

namespace Listing.Coercion

variable {target element : FieldType} {operand : Operand}

theorem coerce_optional_null : coerce builtin (.optional target) .null = .ok .null := rfl

theorem coerce_optional (h : operand.isNull = false) :
    coerce builtin (.optional target) operand = coerce builtin target operand := by
  cases operand with
  | null => cases h
  | _ => rfl

theorem coerce_list_array (items : List Operand) :
    coerce builtin (.list element) (.array items) =
      (items.mapM (coerce builtin element)).map .list := rfl

theorem coerce_list_null : coerce builtin (.list element) .null =
    .error (.unparsable .null (.list element) .nullCollection) := rfl

theorem coerce_list_single (h : operand.isNull = false)
    (single : ∀ items, operand ≠ .array items) :
    coerce builtin (.list element) operand = (coerce builtin element operand).map fun v => .list [v] := by
  cases operand with
  | null => cases h
  | array items => exact absurd rfl (single items)
  | _ => rfl

theorem coerce_enum (e : EnumType) : coerce builtin (.enum e) operand =
    settle operand (.enum e) (.notMember e.name) ((member? e operand).map .member) := rfl

theorem coerce_instant : coerce builtin .instant operand =
    settle operand .instant .notInstant ((instant? operand).map .instant) := rfl

theorem coerce_uuid (s : String) : coerce builtin .uuid (.string s) =
    settle (.string s) .uuid (.malformedUuid (Uuid.fault (Text.trim s.toList)))
      ((Uuid.read? (Text.trim s.toList)).map .uuid) := rfl

theorem coerce_uuid_of_ne_string (h : ∀ s, operand ≠ .string s) :
    coerce builtin .uuid operand = .error (.unparsable operand .uuid .notString) := by
  cases operand with
  | string s => exact absurd rfl (h s)
  | _ => rfl

theorem coerce_primitive (h : target ∈ [FieldType.bool, .int, .float, .text]) :
    coerce builtin target operand =
      settle operand target (.noConversion operand.kindName) (primitive? target operand) := by
  simp only [List.mem_cons, List.not_mem_nil, or_false] at h
  obtain rfl | rfl | rfl | rfl := h <;> rfl

theorem coerce_record (r : RecordType) :
    coerce builtin (.record r) operand = .error (.unparsable operand (.record r) .noRule) := rfl

theorem settle_ok {refusal : Refusal} {found : Option Value} {v : Value} :
    settle operand target refusal found = .ok v ↔ found = some v := by
  cases found <;> simp [settle]

theorem settle_kind {refusal : Refusal} {found : Option Value} {e : CompileError}
    (h : settle operand target refusal found = .error e) : e.kind = .unparsable := by
  cases found with
  | some v => cases h
  | none =>
    cases h
    rfl

theorem coerce_kind {e : CompileError} (h : coerce builtin target operand = .error e) :
    e.kind = .unparsable := by
  induction target generalizing operand with
  | optional inner ih =>
    cases operand with
    | null => cases h
    | _ =>
      rw [coerce_optional rfl] at h
      exact ih h
  | list element ih =>
    cases operand with
    | null =>
      cases h
      rfl
    | array items =>
      rw [coerce_list_array, map_error_iff, mapM_error_iff] at h
      obtain ⟨before, item, behind, -, -, fails⟩ := h
      exact ih fails
    | _ =>
      rw [coerce_list_single rfl (by simp), map_error_iff] at h
      exact ih h
  | uuid =>
    cases operand with
    | string s =>
      rw [coerce_uuid] at h
      exact settle_kind h
    | _ =>
      cases h
      rfl
  | record r =>
    cases h
    rfl
  | bool | int | float | text | instant | enum e => exact settle_kind h

theorem exists_list_of_coerce {v : Value} (h : coerce builtin (.list element) operand = .ok v) :
    ∃ vs, v = .list vs := by
  cases operand with
  | null =>
    rw [coerce_list_null] at h
    cases h
  | array items =>
    rw [coerce_list_array, map_ok_iff] at h
    obtain ⟨vs, -, rfl⟩ := h
    exact ⟨vs, rfl⟩
  | _ =>
    rw [coerce_list_single rfl (by simp), map_ok_iff] at h
    obtain ⟨w, -, rfl⟩ := h
    exact ⟨[w], rfl⟩

end Listing.Coercion
