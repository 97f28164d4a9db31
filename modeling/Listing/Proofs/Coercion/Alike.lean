import Listing.Proofs.Coercion.Builtin
import Listing.Proofs.Outcome
import Listing.Proofs.Value.Alike

namespace Listing

namespace Operand

mutual

theorem alike_refl : (o : Operand) → o.alike o = true
  | .null => rfl
  | .bool _ => by simp [alike]
  | .int _ => by simp [alike]
  | .float x => Binary64.alike_refl x
  | .string _ => by simp [alike]
  | .array items => alikeItems_refl items

theorem alikeItems_refl : (items : List Operand) → alikeItems items items = true
  | [] => rfl
  | o :: os => by rw [alikeItems, alike_refl o, alikeItems_refl os, Bool.and_self]

end

mutual

theorem alike_symm (o p : Operand) (h : o.alike p = true) : p.alike o = true := by
  cases o <;> cases p <;> simp_all only [alike, beq_iff_eq, Bool.false_eq_true]
  · exact Binary64.alike_symm h
  · exact alikeItems_symm _ _ h

theorem alikeItems_symm (os ps : List Operand) (h : alikeItems os ps = true) :
    alikeItems ps os = true := by
  cases os <;> cases ps <;> simp_all only [alikeItems, Bool.and_eq_true, Bool.false_eq_true]
  exact ⟨alike_symm _ _ h.1, alikeItems_symm _ _ h.2⟩

end

mutual

theorem alike_trans (o p q : Operand) (h : o.alike p = true) (h' : p.alike q = true) :
    o.alike q = true := by
  cases o <;> cases p <;> cases q <;> simp_all only [alike, beq_iff_eq, Bool.false_eq_true]
  · exact Binary64.alike_trans h h'
  · exact alikeItems_trans _ _ _ h h'

theorem alikeItems_trans (os ps qs : List Operand) (h : alikeItems os ps = true)
    (h' : alikeItems ps qs = true) : alikeItems os qs = true := by
  cases os <;> cases ps <;> cases qs <;>
    simp_all only [alikeItems, Bool.and_eq_true, Bool.false_eq_true]
  exact ⟨alike_trans _ _ _ h.1 h'.1, alikeItems_trans _ _ _ h.2 h'.2⟩

end

theorem alikeItems_forall₂ {os ps : List Operand} (h : alikeItems os ps = true) :
    List.Forall₂ (fun o p => o.alike p = true) os ps := by
  induction os generalizing ps with
  | nil =>
    cases ps with
    | nil => exact .nil
    | cons p ps => cases h
  | cons o os ih =>
    cases ps with
    | nil => cases h
    | cons p ps =>
      obtain ⟨head, tail⟩ := Bool.and_eq_true_iff.1 h
      exact .cons head (ih tail)

theorem alike_inversion {o p : Operand} (h : o.alike p = true) :
    o = p ∨ (∃ x y, o = .float x ∧ p = .float y ∧ x.alike y = true) ∨
      ∃ os ps, o = .array os ∧ p = .array ps ∧
        List.Forall₂ (fun o p => o.alike p = true) os ps := by
  unfold alike at h
  split at h
  · exact .inl rfl
  · exact .inl (congrArg _ (eq_of_beq h))
  · exact .inl (congrArg _ (eq_of_beq h))
  · exact .inr (.inl ⟨_, _, rfl, rfl, h⟩)
  · exact .inl (congrArg _ (eq_of_beq h))
  · exact .inr (.inr ⟨_, _, rfl, rfl, alikeItems_forall₂ h⟩)
  · cases h

end Operand

namespace Value

mutual

theorem alike_refl : (v : Value) → v.Alike v
  | .float x => Binary64.alike_refl x
  | .list items => alikeItems_refl items
  | .null | .bool _ | .int _ | .text _ | .instant _ | .uuid _ | .member _ => by simp [Alike]

theorem alikeItems_refl : (vs : List Value) → AlikeItems vs vs
  | [] => trivial
  | v :: vs => ⟨alike_refl v, alikeItems_refl vs⟩

end

theorem alikeItems_of_forall₂ {vs ws : List Value} (h : List.Forall₂ Alike vs ws) :
    AlikeItems vs ws := by
  induction h with
  | nil => trivial
  | cons head _ tail => exact ⟨head, tail⟩

end Value

def CompileError.SameKind (e e' : CompileError) : Prop := e.kind = e'.kind

namespace Coercion

abbrev Interchangeable : Outcome → Outcome → Prop :=
  Corresponds CompileError.SameKind Value.Alike

theorem interchangeable_refl (x : Outcome) : Interchangeable x x := by
  cases x with
  | ok v => exact .ok (Value.alike_refl v)
  | error e => exact .error rfl

theorem settle_interchangeable {o p : Operand} {target : FieldType} {refusal refusal' : Refusal}
    {found found' : Option Value} (h : Option.Rel Value.Alike found found') :
    Interchangeable (settle o target refusal found) (settle p target refusal' found') := by
  cases h with
  | some h => exact .ok h
  | none => exact .error rfl

theorem settle_same {o p : Operand} {target : FieldType} {refusal refusal' : Refusal}
    (found : Option Value) :
    Interchangeable (settle o target refusal found) (settle p target refusal' found) := by
  apply settle_interchangeable
  cases found with
  | some v => exact .some (Value.alike_refl v)
  | none => exact .none

theorem primitive?_alike {x y : Binary64} (h : x.alike y = true) (target : FieldType) :
    Option.Rel Value.Alike (primitive? target (.float x)) (primitive? target (.float y)) := by
  cases target with
  | int =>
    rw [primitive?, primitive?, integral?_alike h]
    cases integral? y with
    | some n => exact .some rfl
    | none => exact .none
  | float => exact .some h
  | _ => exact .none

theorem coerce_float_alike {x y : Binary64} (h : x.alike y = true) (target : FieldType) :
    Interchangeable (coerce builtin target (.float x)) (coerce builtin target (.float y)) := by
  induction target with
  | optional inner ih =>
    rw [coerce_optional rfl, coerce_optional rfl]
    exact ih
  | list element ih =>
    rw [coerce_list_single rfl (by simp), coerce_list_single rfl (by simp)]
    exact ih.map fun _ _ h => ⟨h, trivial⟩
  | enum e =>
    have member : member? e (.float x) = member? e (.float y) := by
      rw [member?, member?, integral?_alike h]
    rw [coerce_enum, coerce_enum, member]
    exact settle_same _
  | instant => exact settle_same none
  | uuid => exact .error rfl
  | record r => exact .error rfl
  | bool | int | float | text =>
    rw [coerce_primitive (by simp), coerce_primitive (by simp)]
    exact settle_interchangeable (primitive?_alike h _)

theorem coerce_alike_of_arrays {o p : Operand} {target : FieldType} (h : o.alike p = true)
    (arrays : ∀ os ps, Operand.alike (.array os) (.array ps) = true →
      List.Forall₂ (fun o p => o.alike p = true) os ps →
      Interchangeable (coerce builtin target (.array os)) (coerce builtin target (.array ps))) :
    Interchangeable (coerce builtin target o) (coerce builtin target p) := by
  obtain rfl | ⟨x, y, rfl, rfl, floats⟩ | ⟨os, ps, rfl, rfl, items⟩ := Operand.alike_inversion h
  · exact interchangeable_refl _
  · exact coerce_float_alike floats target
  · exact arrays os ps h items

theorem coerce_alike {o p : Operand} (h : o.alike p = true) (target : FieldType) :
    Interchangeable (coerce builtin target o) (coerce builtin target p) := by
  induction target generalizing o p with
  | list element ih =>
    refine coerce_alike_of_arrays h fun os ps _ items => ?_
    rw [coerce_list_array, coerce_list_array]
    have converted := Corresponds.mapM items fun _ _ => ih
    exact converted.map fun _ _ => Value.alikeItems_of_forall₂
  | optional inner ih =>
    refine coerce_alike_of_arrays h fun os ps same _ => ?_
    rw [coerce_optional rfl, coerce_optional rfl]
    exact ih same
  -- An array is refused as a scalar, whatever its items.
  | _ => exact coerce_alike_of_arrays h fun _ _ _ _ => .error rfl

end Coercion

end Listing
