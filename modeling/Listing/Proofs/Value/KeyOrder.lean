import Listing.Proofs.Value.SortOrder
import Listing.Proofs.Value.Typed

namespace Listing

namespace Value

mutual

theorem sortOrder_swap (a b : Value) : b.sortOrder a = (a.sortOrder b).swap := by
  by_cases same : a.rank = b.rank
  · cases sameKind_of_rank_eq same with
    | null => rfl
    | bool a b => exact Std.OrientedOrd.eq_swap
    | ints n m => exact Std.OrientedOrd.eq_swap
    | intFloat n x =>
      rw [sortOrder_float_int, sortOrder_int_float]
      split
      · rfl
      · exact Std.OrientedOrd.eq_swap
    | floatInt x n =>
      rw [sortOrder_float_int, sortOrder_int_float]
      split
      · rfl
      · exact Std.OrientedOrd.eq_swap
    | floats x y => exact Std.OrientedOrd.eq_swap
    | text s t => exact Std.OrientedOrd.eq_swap
    | instant s t =>
      show t.order s = (s.order t).swap
      exact Std.OrientedCmp.eq_swap
    | uuid a b => exact Std.OrientedOrd.eq_swap
    | member m n => exact Std.OrientedOrd.eq_swap
    | list as bs =>
      rw [sortOrder, sortOrder]
      exact sortOrderItems_swap as bs
  · rw [sortOrder_of_rank_ne same, sortOrder_of_rank_ne (Ne.symm same)]
    exact Std.OrientedOrd.eq_swap
termination_by sizeOf a

theorem sortOrderItems_swap (as bs : List Value) :
    sortOrderItems bs as = (sortOrderItems as bs).swap := by
  match as, bs with
  | [], [] => rfl
  | [], _ :: _ => rfl
  | _ :: _, [] => rfl
  | a :: as, b :: bs =>
    rw [sortOrderItems, sortOrderItems, sortOrder_swap a b, sortOrderItems_swap as bs,
      Ordering.swap_then]
termination_by sizeOf as

end

instance : Std.OrientedCmp sortOrder where
  eq_swap := sortOrder_swap _ _

theorem sortOrder_null_of_ne {v : Value} (h : v ≠ .null) : sortOrder .null v = .lt := by
  cases v <;> first | rfl | exact absurd rfl h

end Value

namespace FieldType

def HasKey (type : FieldType) (v : Value) : Prop := v = .null ∨ type.Admits v

variable {type : FieldType}

theorem not_hasKey_list (scalar : type.isScalar = true) (items : List Value) :
    ¬ type.HasKey (.list items) := by
  rintro (null | list)
  · cases null
  induction type with
  | optional inner ih =>
    cases list with
    | some list => exact ih scalar list
  | list element => cases scalar
  | _ => cases list

theorem not_hasKey_int_float (n : Int64) (x : Binary64) :
    ¬ (type.HasKey (.int n) ∧ type.HasKey (.float x)) := by
  rintro ⟨null | int, null | float⟩
  · cases null
  · cases null
  · cases null
  induction type with
  | optional inner ih =>
    cases int with
    | some int =>
      cases float with
      | some float => exact ih int float
  | int => cases float
  | _ => cases int

end FieldType

namespace Value

variable {type : FieldType} {a b c : Value}

theorem not_tangled_of_keys (scalar : type.isScalar = true) (ha : type.HasKey a)
    (hb : type.HasKey b) (hc : type.HasKey c) : ¬ Tangled a b c := by
  intro tangled
  unfold Tangled at tangled
  split at tangled
  · exact FieldType.not_hasKey_int_float _ _ ⟨ha, hb⟩
  · exact FieldType.not_hasKey_int_float _ _ ⟨hb, ha⟩
  · exact FieldType.not_hasKey_int_float _ _ ⟨ha, hb⟩
  · exact FieldType.not_hasKey_int_float _ _ ⟨hc, ha⟩
  · exact FieldType.not_hasKey_list scalar _ ha
  · exact tangled

theorem isLE_trans_of_keys (scalar : type.isScalar = true) (ha : type.HasKey a)
    (hb : type.HasKey b) (hc : type.HasKey c) :
    (a.sortOrder b).isLE = true → (b.sortOrder c).isLE = true → (a.sortOrder c).isLE = true := by
  rw [isLE_trans_iff, ← tangled_iff]
  exact not_tangled_of_keys scalar ha hb hc

end Value

end Listing
