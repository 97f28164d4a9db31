import Listing.Schema.FieldType

namespace Listing.FieldType

inductive Admits : FieldType → Value → Prop
  | null {inner : FieldType} : Admits (.optional inner) .null
  | some {inner : FieldType} {v : Value} : Admits inner v → Admits (.optional inner) v
  | bool (b : Bool) : Admits .bool (.bool b)
  | int (n : Int64) : Admits .int (.int n)
  | float (x : Binary64) : Admits .float (.float x)
  | text (s : String) : Admits .text (.text s)
  | instant (t : Instant) : Admits .instant (.instant t)
  | uuid (id : Uuid) : Admits .uuid (.uuid id)
  | member (e : EnumType) (m : EnumMember) : Admits (.enum e) (.member m)
  | list (element : FieldType) (items : List Value) : Admits (.list element) (.list items)

def rank : FieldType → Nat
  | .bool => 1
  | .int => 2
  | .float => 2
  | .text => 3
  | .instant => 4
  | .uuid => 5
  | .enum _ => 6
  | .list _ => 7
  | .record _ => 8
  | .optional inner => inner.rank

theorem rank_strip (type : FieldType) : type.strip.rank = type.rank := by
  induction type with
  | optional inner ih => exact ih
  | _ => rfl

theorem strip_ne_optional (type inner : FieldType) : type.strip ≠ .optional inner := by
  induction type with
  | optional type ih => exact ih
  | _ => simp [strip]

theorem Admits.rank_eq {type : FieldType} {v : Value} (h : type.Admits v) :
    v = .null ∨ v.rank = type.rank := by
  induction h with
  | null => exact .inl rfl
  | some _ ih => exact ih
  | _ => exact .inr rfl

theorem rank_eq_of_same {a b : FieldType} (h : same a b = true) : a.rank = b.rank := by
  fun_induction same a b with
  | case8 a b ih => exact ih h
  | case11 => cases h
  | _ => rfl

theorem rank_eq_of_isNumeric {type : FieldType} (h : type.isNumeric = true) : type.rank = 2 := by
  rw [← rank_strip]
  unfold isNumeric at h
  split at h
  · rename_i stripped
    rw [stripped]
    rfl
  · rename_i stripped
    rw [stripped]
    rfl
  · cases h

theorem rank_eq_of_compatible {a b : FieldType} (h : a.compatible b = true) : a.rank = b.rank := by
  rw [compatible, Bool.or_eq_true, Bool.and_eq_true] at h
  obtain ⟨left, right⟩ | same := h
  · rw [rank_eq_of_isNumeric left, rank_eq_of_isNumeric right]
  · rw [← rank_strip a, ← rank_strip b]
    exact rank_eq_of_same same

theorem rank_of_isScalar {type : FieldType} (h : type.isScalar = true) :
    0 < type.rank ∧ type.rank < 7 := by
  rw [← rank_strip]
  unfold isScalar at h
  cases stripped : type.strip with
  | optional inner => exact absurd stripped (strip_ne_optional type inner)
  | list element =>
    rw [stripped] at h
    cases h
  | record r =>
    rw [stripped] at h
    cases h
  | _ => simp [rank]

end Listing.FieldType
