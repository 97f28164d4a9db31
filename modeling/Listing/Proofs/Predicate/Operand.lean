import Listing.Predicate
import Listing.Proofs.Coercion.Builtin

namespace Listing

namespace FieldType

inductive Scalar : FieldType → Prop
  | bool : Scalar .bool
  | int : Scalar .int
  | float : Scalar .float
  | text : Scalar .text
  | instant : Scalar .instant
  | uuid : Scalar .uuid
  | enum (e : EnumType) : Scalar (.enum e)
  | optional {inner : FieldType} : Scalar inner → Scalar (.optional inner)

inductive Orderable : FieldType → Prop
  | int : Orderable .int
  | float : Orderable .float
  | text : Orderable .text
  | instant : Orderable .instant
  | enum (e : EnumType) : Orderable (.enum e)
  | optional {inner : FieldType} : Orderable inner → Orderable (.optional inner)

inductive Searchable : FieldType → FieldType → Prop
  | list {element : FieldType} : Scalar element → Searchable (.list element) element
  | text : Searchable .text .text
  | optional {inner needle : FieldType} : Searchable inner needle → Searchable (.optional inner) needle

theorem isScalar_iff {type : FieldType} : type.isScalar = true ↔ type.Scalar := by
  induction type with
  | optional inner ih => exact ih.trans ⟨.optional, fun | .optional h => h⟩
  | list element | record r => exact ⟨nofun, nofun⟩
  | bool | int | float | text | instant | uuid | enum e => exact ⟨fun _ => by constructor, fun _ => rfl⟩

theorem isOrderable_iff {type : FieldType} : type.isOrderable = true ↔ type.Orderable := by
  induction type with
  | optional inner ih => exact ih.trans ⟨.optional, fun | .optional h => h⟩
  | bool | uuid | list element | record r => exact ⟨nofun, nofun⟩
  | int | float | text | instant | enum e => exact ⟨fun _ => by constructor, fun _ => rfl⟩

theorem Orderable.scalar {type : FieldType} (h : type.Orderable) : type.Scalar := by
  induction h with
  | optional _ ih => exact .optional ih
  | int | float | text | instant | enum => constructor

theorem same_refl (type : FieldType) : same type type = true := by
  induction type with
  | optional inner ih => exact ih
  | list element ih => exact ih
  | enum e => exact beq_self_eq_true e.name
  | record r => exact beq_self_eq_true r.name
  | _ => rfl

theorem compatible_refl (type : FieldType) : type.compatible type = true := by
  rw [compatible, same_refl, Bool.or_true]

end FieldType

def Comparison.DefinedFor : Comparison → FieldType → Prop
  | .equal, declared | .notEqual, declared => declared.Scalar
  | .greater, declared | .greaterOrEqual, declared | .less, declared | .lessOrEqual, declared =>
    declared.Orderable

theorem Comparison.DefinedFor.scalar {c : Comparison} {declared : FieldType}
    (h : c.DefinedFor declared) : declared.Scalar := by
  cases c with
  | equal | notEqual => exact h
  | greater | greaterOrEqual | less | lessOrEqual => exact FieldType.Orderable.scalar h

inductive Operator.Takes : Operator → FieldType → FieldType → Prop
  | compare {c : Comparison} {declared : FieldType} : c.DefinedFor declared →
      Takes (.compare c) declared declared
  | contains {declared needle : FieldType} : declared.Searchable needle → Takes .contains declared needle
  | oneOf {declared : FieldType} : declared.Scalar → Takes .oneOf declared (.list declared)

namespace Predicate

variable {operator : Operator} {declared target : FieldType}

theorem guarded_ok_iff {passes : Bool} {type : FieldType} :
    (if passes then .ok type else incompatible operator declared) = Except.ok target ↔
      passes = true ∧ type = target := by
  cases passes <;> simp [incompatible]

theorem guarded_error {passes : Bool} {type : FieldType} {e : CompileError}
    (h : (if passes then .ok type else incompatible operator declared) = Except.error e) :
    e = .incompatible (.filter operator) declared := by
  cases passes with
  | true => cases h
  | false => exact (Except.error.inj h).symm

theorem operandType_contains_optional (inner : FieldType) :
    operandType .contains (.optional inner) = .ok target ↔ operandType .contains inner = .ok target := by
  have same : (FieldType.optional inner).strip = inner.strip := rfl
  simp only [operandType, same]
  cases inner.strip with
  | list element => simp only [guarded_ok_iff]
  | _ => simp [incompatible]

theorem operandType_contains_iff :
    operandType .contains declared = .ok target ↔ declared.Searchable target := by
  induction declared with
  | optional inner ih =>
    rw [operandType_contains_optional, ih]
    exact ⟨.optional, fun | .optional h => h⟩
  | list element =>
    refine guarded_ok_iff.trans ⟨?_, ?_⟩
    · rintro ⟨scalar, rfl⟩
      exact .list (FieldType.isScalar_iff.1 scalar)
    · intro searchable
      cases searchable with
      | list scalar => exact ⟨FieldType.isScalar_iff.2 scalar, rfl⟩
  | text => exact ⟨fun h => by cases h; exact .text, fun | .text => rfl⟩
  | bool | int | float | instant | uuid | enum e | record r => exact ⟨nofun, nofun⟩

theorem operandType_compare_iff {c : Comparison} : operandType (.compare c) declared = .ok target ↔
    c.DefinedFor declared ∧ declared = target := by
  cases c with
  | equal | notEqual => exact guarded_ok_iff.trans (and_congr_left' FieldType.isScalar_iff)
  | greater | greaterOrEqual | less | lessOrEqual =>
    exact guarded_ok_iff.trans (and_congr_left' FieldType.isOrderable_iff)

theorem operandType_ok_iff : operandType operator declared = .ok target ↔ operator.Takes declared target := by
  cases operator with
  | unknown token => exact ⟨nofun, nofun⟩
  | contains => exact operandType_contains_iff.trans ⟨.contains, fun | .contains h => h⟩
  | oneOf =>
    refine guarded_ok_iff.trans ⟨?_, ?_⟩
    · rintro ⟨scalar, rfl⟩
      exact .oneOf (FieldType.isScalar_iff.1 scalar)
    · intro takes
      cases takes with
      | oneOf scalar => exact ⟨FieldType.isScalar_iff.2 scalar, rfl⟩
  | compare c =>
    refine operandType_compare_iff.trans ⟨?_, ?_⟩
    · rintro ⟨defined, rfl⟩
      exact .compare defined
    · intro takes
      cases takes with
      | compare defined => exact ⟨defined, rfl⟩

theorem operandType_error {e : CompileError} (h : operandType operator declared = .error e) :
    (∃ token, operator = .unknown token ∧ e = .unsupported token) ∨
      (∀ token, operator ≠ .unknown token) ∧ e = .incompatible (.filter operator) declared := by
  cases operator with
  | unknown token => exact .inl ⟨token, rfl, (Except.error.inj h).symm⟩
  | compare c =>
    refine .inr ⟨nofun, ?_⟩
    cases c <;> exact guarded_error h
  | oneOf => exact .inr ⟨nofun, guarded_error h⟩
  | contains =>
    refine .inr ⟨nofun, ?_⟩
    simp only [operandType] at h
    split at h
    · exact guarded_error h
    · cases h
    · exact (Except.error.inj h).symm

end Predicate

namespace Operator.Takes

variable {operator : Operator} {declared target : FieldType}

theorem known (h : operator.Takes declared target) (token : String) : operator ≠ .unknown token := by
  rintro rfl
  cases h

theorem unique {other : FieldType} (h : operator.Takes declared target)
    (h' : operator.Takes declared other) : target = other := by
  rw [← Predicate.operandType_ok_iff] at h h'
  exact Except.ok.inj (h.symm.trans h')

end Operator.Takes

namespace Predicate

open Coercion (coerce builtin)

variable {operator : Operator} {declared target : FieldType}

theorem fits_refl (type : FieldType) : fits type type = true := by
  unfold fits
  split
  · rename_i left right
    rw [left, FieldType.list.injEq] at right
    rw [right]
    exact FieldType.compatible_refl _
  · exact FieldType.compatible_refl _

theorem build_of_takes (path : Path) {operand : Operand} {v : Value} (takes : operator.Takes declared target)
    (read : coerce builtin target operand = .ok v) :
    ∃ p, build operator path ⟨v, target⟩ declared = .ok p := by
  simp only [build, operandType_ok_iff.2 takes, fits_refl, bind, Except.bind, if_true]
  cases takes with
  | compare => exact ⟨_, rfl⟩
  | contains => exact ⟨_, rfl⟩
  | oneOf =>
    obtain ⟨vs, rfl⟩ := Coercion.exists_list_of_coerce read
    exact ⟨_, rfl⟩

end Predicate

end Listing
