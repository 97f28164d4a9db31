import Listing.Compile.Term
import Listing.Proofs.Predicate.Operand
import Listing.Proofs.Value.Alike

namespace Listing

namespace Predicate

variable {declared : FieldType} (scalar : declared.isScalar = true) (path : Path)
include scalar

theorem operandType_equal : operandType (.compare .equal) declared = .ok declared := by
  simp [operandType, scalar]

theorem operandType_oneOf : operandType .oneOf declared = .ok (.list declared) := by
  simp [operandType, scalar]

theorem build_equal (v : Value) :
    build (.compare .equal) path ⟨v, declared⟩ declared = .ok (.compare path .equal v) := by
  simp [build, operandType_equal scalar, fits_refl, bind, Except.bind]

theorem build_oneOf (vs : List Value) :
    build .oneOf path ⟨.list vs, .list declared⟩ declared = .ok (.oneOf path vs) := by
  simp [build, operandType_oneOf scalar, fits_refl, bind, Except.bind]

end Predicate

namespace Scope

open Coercion (coerce builtin)

section

variable {s : Scope} (rules : s.rules = builtin) {property : String} {nested : List String} {path : Path}
  (resolved : Path.resolve s.catalog s.schema property nested = .ok path)
  (scalar : path.leaf.type.isScalar = true)
include rules resolved scalar

theorem compileFilter_equal (operand : Operand) :
    s.compileFilter ⟨property, nested, .compare .equal, operand⟩ =
      (coerce builtin path.leaf.type operand).map (.compare path .equal) := by
  simp only [compileFilter, resolved, Predicate.operandType_equal scalar, rules, bind, Except.bind]
  cases coerce builtin path.leaf.type operand with
  | error e => rfl
  | ok v => exact Predicate.build_equal scalar path v

theorem compileFilter_oneOf {operand : Operand} {read : Except CompileError (List Value)}
    (h : coerce builtin (.list path.leaf.type) operand = read.map .list) :
    s.compileFilter ⟨property, nested, .oneOf, operand⟩ = read.map (.oneOf path) := by
  simp only [compileFilter, resolved, Predicate.operandType_oneOf scalar, rules, h, bind, Except.bind]
  cases read with
  | error e => rfl
  | ok vs => exact Predicate.build_oneOf scalar path vs

theorem compileFilter_equal_ok {operand : Operand} {q : Predicate} :
    s.compileFilter ⟨property, nested, .compare .equal, operand⟩ = .ok q ↔
      ∃ v, coerce builtin path.leaf.type operand = .ok v ∧ .compare path .equal v = q := by
  rw [compileFilter_equal rules resolved scalar, map_ok_iff]

theorem compileFilter_oneOf_array_ok {items : List Operand} {p : Predicate} :
    s.compileFilter ⟨property, nested, .oneOf, .array items⟩ = .ok p ↔
      ∃ vs, items.mapM (coerce builtin path.leaf.type) = .ok vs ∧ .oneOf path vs = p := by
  rw [compileFilter_oneOf rules resolved scalar (Coercion.coerce_list_array items), map_ok_iff]

theorem oneOf_array_compiles_iff (items : List Operand) :
    (∃ p, s.compileFilter ⟨property, nested, .oneOf, .array items⟩ = .ok p) ↔
      ∀ item ∈ items, ∃ q, s.compileFilter ⟨property, nested, .compare .equal, item⟩ = .ok q := by
  simp only [compileFilter_oneOf_array_ok rules resolved scalar,
    compileFilter_equal_ok rules resolved scalar]
  constructor
  · rintro ⟨p, vs, read, -⟩ item member
    obtain ⟨v, parsed⟩ := exists_mapM_ok_iff.1 ⟨vs, read⟩ item member
    exact ⟨_, v, parsed, rfl⟩
  · intro compile
    obtain ⟨vs, read⟩ := exists_mapM_ok_iff.2 fun item member => by
      obtain ⟨-, v, parsed, -⟩ := compile item member
      exact ⟨v, parsed⟩
    exact ⟨_, vs, read, rfl⟩

theorem oneOf_array_eval_iff {items : List Operand} {p : Predicate}
    (h : s.compileFilter ⟨property, nested, .oneOf, .array items⟩ = .ok p) (record : Record) :
    p.eval record = true ↔ ∃ item ∈ items, ∃ q,
      s.compileFilter ⟨property, nested, .compare .equal, item⟩ = .ok q ∧ q.eval record = true := by
  obtain ⟨vs, read, rfl⟩ := (compileFilter_oneOf_array_ok rules resolved scalar).1 h
  have pairs := mapM_ok_iff.1 read
  simp only [compileFilter_equal_ok rules resolved scalar]
  rw [Predicate.eval, List.any_eq_true]
  constructor
  · rintro ⟨v, member, equal⟩
    obtain ⟨item, listed, parsed⟩ := exists_of_mem_mapM read member
    exact ⟨item, listed, _, ⟨v, parsed, rfl⟩, equal⟩
  · rintro ⟨item, listed, q, ⟨v, parsed, rfl⟩, equal⟩
    obtain ⟨w, member, parsed'⟩ := exists_of_mem_left pairs listed
    rw [parsed] at parsed'
    cases parsed'
    exact ⟨v, member, equal⟩

theorem oneOf_single {operand : Operand} (some : operand.isNull = false)
    (single : ∀ items, operand ≠ .array items) :
    Corresponds Eq Predicate.Equivalent (s.compileFilter ⟨property, nested, .oneOf, operand⟩)
      (s.compileFilter ⟨property, nested, .compare .equal, operand⟩) := by
  have read : coerce builtin (.list path.leaf.type) operand =
      ((coerce builtin path.leaf.type operand).map fun v => [v]).map .list := by
    rw [Coercion.coerce_list_single some single]
    cases coerce builtin path.leaf.type operand <;> rfl
  rw [compileFilter_oneOf rules resolved scalar read, compileFilter_equal rules resolved scalar]
  cases coerce builtin path.leaf.type operand with
  | error e => exact .error rfl
  | ok v => exact .ok fun record => Bool.or_false _

theorem oneOf_eq_any_equal :
    let equals (operand : Operand) := s.compileFilter ⟨property, nested, .compare .equal, operand⟩
    let within (operand : Operand) := s.compileFilter ⟨property, nested, .oneOf, operand⟩
    (∀ items, (∃ p, within (.array items) = .ok p) ↔ ∀ item ∈ items, ∃ q, equals item = .ok q) ∧
    (∀ items p, within (.array items) = .ok p → ∀ record,
      p.eval record = true ↔ ∃ item ∈ items, ∃ q, equals item = .ok q ∧ q.eval record = true) ∧
    (∀ operand, operand.isNull = false → (∀ items, operand ≠ .array items) →
      Corresponds Eq Predicate.Equivalent (within operand) (equals operand)) ∧
    within .null = .error (.unparsable .null (.list path.leaf.type) .nullCollection) := by
  intro equals within
  refine ⟨?_, ?_, ?_, ?_⟩
  · exact oneOf_array_compiles_iff rules resolved scalar
  · intro items p compiled record
    exact oneOf_array_eval_iff rules resolved scalar compiled record
  · intro operand some single
    exact oneOf_single rules resolved scalar some single
  · have refused : coerce builtin (.list path.leaf.type) .null =
        (Except.error _ : Except CompileError (List Value)).map .list := Coercion.coerce_list_null
    exact compileFilter_oneOf rules resolved scalar refused

end

theorem oneOf_eq_any_equal_nested :
    let person : RecordType := ⟨1, "Person"⟩
    let catalog : Catalog := ⟨[[⟨"Owner", [], .record person⟩], [⟨"Age", [], .optional .int⟩]]⟩
    let s : Scope := ⟨catalog, ⟨"Item", [⟨"Owner", [], .record person⟩]⟩, builtin⟩
    let path : Path := ⟨"Item", [⟨"Owner", .record person⟩], ⟨"Age", .optional .int⟩⟩
    let within (operand : Operand) := s.compileFilter ⟨"Owner", ["Age"], .oneOf, operand⟩
    let items : List Operand := [.int 1, .null, .float ⟨0x4000000000000000⟩]
    let aged (age : Value) : Record := [("Owner", .record [("Age", .value age)])]
    Path.resolve s.catalog s.schema "Owner" ["Age"] = .ok path ∧ path.leaf.type.isScalar = true ∧
    ∃ p, within (.array items) = .ok p ∧ p.eval (aged (.int 2)) = true ∧
      p.eval (aged (.int 3)) = false ∧
      (∃ item ∈ items, ∃ q, s.compileFilter ⟨"Owner", ["Age"], .compare .equal, item⟩ = .ok q ∧
        q.eval (aged (.int 2)) = true) := by
  intro person catalog s path within items aged
  have resolved : Path.resolve s.catalog s.schema "Owner" ["Age"] = .ok path := by
    dsimp only [s, catalog, path, person]
    rfl
  have compiled : within (.array items) = .ok (.oneOf path [.int 1, .null, .int 2]) := by
    dsimp only [within, items, s, catalog, path, person]
    rfl
  have matched : (Predicate.oneOf path [.int 1, .null, .int 2]).eval (aged (.int 2)) = true := by
    dsimp only [path, aged]
    rfl
  have some := ((oneOf_eq_any_equal rfl resolved rfl).2.1 items _ compiled _).1 matched
  exact ⟨resolved, rfl, _, compiled, matched, rfl, some⟩

end Scope

end Listing
