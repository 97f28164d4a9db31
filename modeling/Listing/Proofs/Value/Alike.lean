import Listing.Predicate
import Listing.Proofs.Binary64.Alike

namespace Listing

namespace Value

mutual

def Alike : Value → Value → Prop
  | .float x, .float y => x.alike y = true
  | .list vs, .list ws => AlikeItems vs ws
  | v, w => v = w

def AlikeItems : List Value → List Value → Prop
  | [], [] => True
  | v :: vs, w :: ws => Alike v w ∧ AlikeItems vs ws
  | _, _ => False

end

theorem alike_inversion {v w : Value} (h : v.Alike w) :
    v = w ∨ (∃ x y, v = .float x ∧ w = .float y ∧ x.alike y = true) ∨
      ∃ vs ws, v = .list vs ∧ w = .list ws ∧ AlikeItems vs ws := by
  unfold Alike at h
  split at h
  · exact .inr (.inl ⟨_, _, rfl, rfl, h⟩)
  · exact .inr (.inr ⟨_, _, rfl, rfl, h⟩)
  · exact .inl h

mutual

theorem equal_alike (v w : Value) (h : v.Alike w) (a : Value) : a.equal v = a.equal w := by
  obtain rfl | ⟨x, y, rfl, rfl, h⟩ | ⟨vs, ws, rfl, rfl, h⟩ := alike_inversion h
  · rfl
  · cases a <;> simp only [equal]
    exact Binary64.equal_alike_right h _
  · cases a <;> simp only [equal]
    exact equalItems_alike vs ws h _
termination_by sizeOf v

theorem equalItems_alike (vs ws : List Value) (h : AlikeItems vs ws) (as : List Value) :
    equalItems as vs = equalItems as ws := by
  match vs, ws, as with
  | [], [], _ => rfl
  | [], _ :: _, _ => exact False.elim h
  | _ :: _, [], _ => exact False.elim h
  | _ :: _, _ :: _, [] => rfl
  | v :: vs, w :: ws, a :: as =>
    rw [equalItems, equalItems, equal_alike v w h.1, equalItems_alike vs ws h.2]
termination_by sizeOf vs

end

theorem looseEqual_alike {v w : Value} (h : v.Alike w) (a : Value) :
    a.looseEqual v = a.looseEqual w := by
  obtain rfl | ⟨x, y, rfl, rfl, floats⟩ | ⟨vs, ws, rfl, rfl, -⟩ := alike_inversion h
  · rfl
  · cases a <;> simp only [looseEqual, equal]
    all_goals exact Binary64.equal_alike_right floats _
  · cases a <;> exact equal_alike _ _ h _

theorem compare?_alike {v w : Value} (h : v.Alike w) (a : Value) :
    a.compare? v = a.compare? w := by
  obtain rfl | ⟨x, y, rfl, rfl, h⟩ | ⟨vs, ws, rfl, rfl, -⟩ := alike_inversion h
  · rfl
  · cases a <;> simp only [compare?]
    all_goals exact Binary64.compare?_alike_right h _
  · cases a <;> rfl

theorem textContains_alike {v w : Value} (h : v.Alike w) (a : Value) :
    a.textContains v = a.textContains w := by
  obtain rfl | ⟨x, y, rfl, rfl, -⟩ | ⟨vs, ws, rfl, rfl, -⟩ := alike_inversion h
  · rfl
  all_goals cases a <;> rfl

theorem listContains_alike {v w : Value} (h : v.Alike w) (a : Value) :
    a.listContains v = a.listContains w := by
  cases a with
  | list items => simp only [listContains, looseEqual_alike h]
  | _ => rfl

theorem any_looseEqual_alike {vs ws : List Value} (h : AlikeItems vs ws) (a : Value) :
    vs.any (a.looseEqual ·) = ws.any (a.looseEqual ·) := by
  match vs, ws with
  | [], [] => rfl
  | [], _ :: _ => exact False.elim h
  | _ :: _, [] => exact False.elim h
  | v :: vs, w :: ws =>
    rw [List.any_cons, List.any_cons, looseEqual_alike h.1, any_looseEqual_alike h.2]

end Value

theorem Comparison.holds_alike {v w : Value} (h : v.Alike w) (c : Comparison) (actual : Value) :
    c.holds actual v = c.holds actual w := by
  cases c <;> simp only [holds, Value.looseEqual_alike h, Value.compare?_alike h]

namespace Predicate

def Equivalent (p q : Predicate) : Prop := ∀ record, p.eval record = q.eval record

theorem Equivalent.symm {p q : Predicate} (h : p.Equivalent q) : q.Equivalent p := by
  intro record
  exact (h record).symm

theorem Equivalent.trans {p q r : Predicate} (hpq : p.Equivalent q) (hqr : q.Equivalent r) :
    p.Equivalent r := by
  intro record
  exact (hpq record).trans (hqr record)

theorem compare_alike {v w : Value} (h : v.Alike w) (path : Path) (c : Comparison) :
    (compare path c v).Equivalent (compare path c w) := by
  intro record
  exact Comparison.holds_alike h c _

theorem contains_alike {v w : Value} (h : v.Alike w) (path : Path) (inside : Inside) :
    (contains path inside v).Equivalent (contains path inside w) := by
  intro record
  cases inside with
  | element => exact Value.listContains_alike h _
  | substring => exact Value.textContains_alike h _

theorem oneOf_alike {vs ws : List Value} (h : Value.AlikeItems vs ws) (path : Path) :
    (oneOf path vs).Equivalent (oneOf path ws) := by
  intro record
  exact Value.any_looseEqual_alike h _

end Predicate

end Listing
