import Listing.Proofs.Predicate.Operand
import Listing.Proofs.Value.SortOrder
import Listing.Proofs.Value.Typed

namespace Listing

theorem Instant.order_eq_iff {s t : Instant} : s.order t = .eq ↔ s = t := by
  cases s
  cases t
  simp [Instant.order]

theorem Uuid.order_eq_iff {a b : Uuid} : a.order b = .eq ↔ a = b := by
  cases a
  cases b
  simp [Uuid.order, BitVec.toNat_eq]

namespace Value

def isNaN : Value → Bool
  | .float x => x.isNaN
  | _ => false

theorem isNull_iff {v : Value} : v.isNull = true ↔ v = .null := by
  cases v <;> simp [isNull]

theorem compare?_of_isNull {v w : Value} (h : v.isNull = true ∨ w.isNull = true) :
    v.compare? w = none := by
  obtain null | null := h
  · rw [isNull_iff.1 null]
    cases w <;> rfl
  · rw [isNull_iff.1 null]
    cases v <;> rfl

theorem looseEqual_of_isNull {v w : Value} (h : v.isNull = true ∨ w.isNull = true) :
    v.looseEqual w = (v.isNull && w.isNull) := by
  obtain null | null := h
  · rw [isNull_iff.1 null]
    cases w <;> rfl
  · rw [isNull_iff.1 null]
    cases v <;> rfl

def Ordered (v w : Value) (o : Ordering) : Prop :=
  v.compare? w = some o ∧ (v.looseEqual w = true ↔ o = .eq)

theorem ordered_floats {x y : Binary64} (hx : x.isNaN = false) (hy : y.isNaN = false) :
    x.compare? y = some (compare x.place y.place) ∧
      (x.equal y = true ↔ compare x.place y.place = .eq) := by
  have order : x.compare? y = some (compare x.place y.place) := by
    simp [Binary64.compare?, hx, hy]
  refine ⟨order, ?_⟩
  simp [Binary64.equal, order]

theorem ordered_of_rank_eq {v w : Value} (same : v.rank = w.rank) (some : 0 < v.rank)
    (scalar : v.rank < 7) (hv : v.isNaN = false) (hw : w.isNaN = false) : ∃ o, Ordered v w o := by
  have finite (n : Int64) : (widen n).isNaN = false := Binary64.isNaN_of_isFinite (isFinite_widen n)
  cases sameKind_of_rank_eq same with
  | null => cases some
  | bool a b => exact ⟨compare a b, rfl, by cases a <;> cases b <;> decide⟩
  | ints n m => exact ⟨compare n.toInt m.toInt, rfl, by simp [looseEqual, equal, Int64.toInt_inj]⟩
  | intFloat n y => exact ⟨_, ordered_floats (finite n) hw⟩
  | floatInt x m => exact ⟨_, ordered_floats hv (finite m)⟩
  | floats x y => exact ⟨_, ordered_floats hv hw⟩
  | text s t => exact ⟨compare s t, rfl, by simp [looseEqual, equal]⟩
  | instant s t => exact ⟨s.order t, rfl, by simp [looseEqual, equal, Instant.order_eq_iff]⟩
  | uuid a b => exact ⟨a.order b, rfl, by simp [looseEqual, equal, Uuid.order_eq_iff]⟩
  | member m n =>
    exact ⟨m.order n, rfl, by simp [looseEqual, equal, EnumMember.order, Int64.toInt_inj]⟩
  | list as bs => cases Nat.lt_irrefl _ scalar

end Value

namespace Comparison

open Value

variable {actual value : Value}

theorem holds_of_compare?_eq_none (unordered : actual.compare? value = none) (c : Comparison) :
    c.holds actual value = match c with
      | .equal => actual.looseEqual value
      | .notEqual => !actual.looseEqual value
      | _ => false := by
  cases c <;> simp [holds, unordered]

def allows : Comparison → Ordering → Bool
  | .equal, o => o == .eq
  | .notEqual, o => o != .eq
  | .greater, o => o == .gt
  | .greaterOrEqual, o => o != .lt
  | .less, o => o == .lt
  | .lessOrEqual, o => o != .gt

theorem holds_of_ordered {o : Ordering} (h : Ordered actual value o) (c : Comparison) :
    c.holds actual value = c.allows o := by
  obtain ⟨order, equal⟩ := h
  have loose : actual.looseEqual value = (o == .eq) := by
    rw [Bool.eq_iff_iff, equal, beq_iff_eq]
  cases c <;> cases o <;> simp [holds, allows, order, loose]

end Comparison

namespace Predicate

theorem rank_eq_of_fits {expected actual : FieldType} (h : fits expected actual = true) :
    expected.rank = actual.rank := by
  rw [← FieldType.rank_strip expected, ← FieldType.rank_strip actual]
  unfold fits at h
  split at h
  · rename_i left right
    rw [left, right]
    rfl
  · exact FieldType.rank_eq_of_compatible h

theorem build_compare_ok {comparison : Comparison} {path : Path} {constant : Constant}
    {declared : FieldType} {p : Predicate}
    (h : build (.compare comparison) path constant declared = .ok p) :
    p = .compare path comparison constant.value ∧ declared.isScalar = true ∧
      fits declared constant.type = true := by
  unfold build at h
  cases expected : operandType (.compare comparison) declared with
  | error e =>
    rw [expected] at h
    cases h
  | ok type =>
    obtain ⟨defined, rfl⟩ := operandType_compare_iff.1 expected
    simp only [expected, bind, Except.bind] at h
    split at h
    · rename_i fitting
      cases h
      exact ⟨rfl, FieldType.isScalar_iff.2 defined.scalar, fitting⟩
    · cases h

variable {comparison : Comparison} {path : Path} {constant : Constant} {declared : FieldType}
  {p : Predicate}

theorem ordered_of_build {actual : Value}
    (built : build (.compare comparison) path constant declared = .ok p)
    (typed : constant.type.Admits constant.value) (read : declared.Admits actual)
    (some : actual.isNull = false ∧ constant.value.isNull = false)
    (numbers : actual.isNaN = false ∧ constant.value.isNaN = false) :
    ∃ o, Value.Ordered actual constant.value o := by
  obtain ⟨-, scalar, fitting⟩ := build_compare_ok built
  obtain ⟨low, high⟩ := FieldType.rank_of_isScalar scalar
  have left : actual.rank = declared.rank := by
    obtain rfl | rank := read.rank_eq
    · cases some.1
    · exact rank
  have right : constant.value.rank = declared.rank := by
    obtain null | rank := typed.rank_eq
    · rw [null] at some
      cases some.2
    · rw [rank, rank_eq_of_fits fitting]
  apply Value.ordered_of_rank_eq
  · rw [left, right]
  · rw [left]
    exact low
  · rw [left]
    exact high
  · exact numbers.1
  · exact numbers.2

theorem build_compare_trichotomy (typed : constant.type.Admits constant.value)
    (built : build (.compare comparison) path constant declared = .ok p) :
    p = .compare path comparison constant.value ∧
    ∀ record, declared.Admits (path.read record) →
      let actual := path.read record
      let value := constant.value
      let holds (c : Comparison) := (compare path c value).eval record
      holds .notEqual = !holds .equal ∧
      (actual.isNull = true ∨ value.isNull = true →
        holds .greater = false ∧ holds .greaterOrEqual = false ∧
        holds .less = false ∧ holds .lessOrEqual = false ∧
        (holds .equal = true ↔ actual.isNull = true ∧ value.isNull = true)) ∧
      (actual.isNull = false ∧ value.isNull = false → actual.isNaN = false ∧ value.isNaN = false →
        [holds .greater, holds .equal, holds .less].count true = 1 ∧
        holds .greaterOrEqual = (holds .greater || holds .equal) ∧
        holds .lessOrEqual = (holds .less || holds .equal)) := by
  refine ⟨(build_compare_ok built).1, ?_⟩
  intro record read actual value holds
  refine ⟨rfl, ?_, ?_⟩
  · intro null
    have unordered : actual.compare? value = none := Value.compare?_of_isNull null
    have equal : actual.looseEqual value = (actual.isNull && value.isNull) :=
      Value.looseEqual_of_isNull null
    have decided (c : Comparison) : holds c = _ := Comparison.holds_of_compare?_eq_none unordered c
    refine ⟨decided .greater, decided .greaterOrEqual, decided .less, decided .lessOrEqual, ?_⟩
    rw [decided .equal, equal, Bool.and_eq_true]
  · intro some numbers
    obtain ⟨o, order⟩ := ordered_of_build built typed read some numbers
    have decided (c : Comparison) : holds c = c.allows o := Comparison.holds_of_ordered order c
    rw [decided, decided, decided, decided, decided]
    cases o <;> decide

theorem build_compare_trichotomy_mixed :
    let path : Path := ⟨"Item", [], ⟨"Price", .optional .int⟩⟩
    let constant : Constant := ⟨.float ⟨0x4004000000000000⟩, .float⟩
    let record : Record := [("Price", .value (.int 3))]
    let holds (c : Comparison) := (compare path c constant.value).eval record
    constant.type.Admits constant.value ∧
      build (.compare .less) path constant (.optional .int) =
        .ok (.compare path .less constant.value) ∧
      (FieldType.optional .int).Admits (path.read record) ∧
      [holds .greater, holds .equal, holds .less].count true = 1 := by
  intro path constant record holds
  have typed : constant.type.Admits constant.value := .float _
  have built : build (.compare .less) path constant (.optional .int) =
      .ok (.compare path .less constant.value) := rfl
  have read : (FieldType.optional .int).Admits (path.read record) := .some (.int 3)
  have order := (build_compare_trichotomy typed built).2 record read
  exact ⟨typed, built, read, (order.2.2 ⟨rfl, rfl⟩ ⟨rfl, by decide⟩).1⟩

end Predicate

end Listing
