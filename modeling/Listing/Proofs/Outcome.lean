import Mathlib.Data.List.Forall2

namespace Listing

variable {ε ε' α β γ δ : Type}

inductive Corresponds (failure : ε → ε' → Prop) (success : α → β → Prop) :
    Except ε α → Except ε' β → Prop
  | ok {a b} : success a b → Corresponds failure success (.ok a) (.ok b)
  | error {e e'} : failure e e' → Corresponds failure success (.error e) (.error e')

def error? : Except ε α → Option ε
  | .ok _ => none
  | .error e => some e

theorem map_ok_iff {f : α → β} {x : Except ε α} {b : β} :
    x.map f = .ok b ↔ ∃ a, x = .ok a ∧ f a = b := by
  cases x <;> simp [Except.map]

theorem map_error_iff {f : α → β} {x : Except ε α} {e : ε} : x.map f = .error e ↔ x = .error e := by
  cases x <;> simp [Except.map]

theorem map_map {f : α → β} {g : β → γ} (x : Except ε α) : (x.map f).map g = x.map (g ∘ f) := by
  cases x <;> rfl

theorem bind_ok_iff {x : Except ε α} {f : α → Except ε β} {b : β} :
    (x >>= f) = .ok b ↔ ∃ a, x = .ok a ∧ f a = .ok b := by
  cases x <;> simp [bind, Except.bind]

theorem bind_error_iff {x : Except ε α} {f : α → Except ε β} {e : ε} :
    (x >>= f) = .error e ↔ x = .error e ∨ ∃ a, x = .ok a ∧ f a = .error e := by
  cases x <;> simp [bind, Except.bind]

theorem mapM_ok_iff {f : α → Except ε β} {xs : List α} {ys : List β} :
    xs.mapM f = .ok ys ↔ List.Forall₂ (fun x y => f x = .ok y) xs ys := by
  induction xs generalizing ys with
  | nil =>
    rw [List.mapM_nil, List.forall₂_nil_left_iff]
    exact ⟨fun h => (Except.ok.inj h).symm, fun h => congrArg _ h.symm⟩
  | cons x xs ih =>
    rw [List.mapM_cons, List.forall₂_cons_left_iff]
    cases head : f x with
    | error e => simp [bind, Except.bind]
    | ok y =>
      cases tail : xs.mapM f with
      | error e => simp [bind, Except.bind, ← ih, tail]
      | ok rest => simp [bind, Except.bind, pure, Except.pure, ← ih, tail, eq_comm]

theorem exists_of_mem_left {related : α → β → Prop} {xs : List α} {ys : List β}
    (h : List.Forall₂ related xs ys) {x : α} (member : x ∈ xs) : ∃ y ∈ ys, related x y := by
  induction h with
  | nil => cases member
  | cons head _ ih =>
    obtain _ | ⟨_, member⟩ := member
    · exact ⟨_, .head _, head⟩
    · obtain ⟨y, listed, holds⟩ := ih member
      exact ⟨y, .tail _ listed, holds⟩

theorem exists_of_mem_mapM {f : α → Except ε β} {xs : List α} {ys : List β} {y : β}
    (h : xs.mapM f = .ok ys) (member : y ∈ ys) : ∃ x ∈ xs, f x = .ok y :=
  exists_of_mem_left (mapM_ok_iff.1 h).flip member

theorem exists_mapM_ok_iff {f : α → Except ε β} {xs : List α} :
    (∃ ys, xs.mapM f = .ok ys) ↔ ∀ x ∈ xs, ∃ y, f x = .ok y := by
  simp only [mapM_ok_iff]
  constructor
  · rintro ⟨ys, pairs⟩ x member
    obtain ⟨y, -, result⟩ := exists_of_mem_left pairs member
    exact ⟨y, result⟩
  · intro succeed
    induction xs with
    | nil => exact ⟨[], .nil⟩
    | cons x xs ih =>
      obtain ⟨y, head⟩ := succeed x (.head _)
      obtain ⟨ys, tail⟩ := ih fun z member => succeed z (.tail _ member)
      exact ⟨y :: ys, .cons head tail⟩

theorem mapM_congr {m : Type → Type} [Monad m] [LawfulMonad m] {f g : α → m β} {xs : List α}
    (same : ∀ x ∈ xs, f x = g x) : xs.mapM f = xs.mapM g := by
  induction xs with
  | nil => rfl
  | cons x xs ih =>
    rw [List.mapM_cons, List.mapM_cons, same x (.head _), ih fun y member => same y (.tail _ member)]

theorem mapM_error_of_first {f : α → Except ε β} {before behind : List α} {x : α} {e : ε}
    (succeed : ∀ y ∈ before, ∃ b, f y = .ok b) (fails : f x = .error e) :
    (before ++ x :: behind).mapM f = .error e := by
  induction before with
  | nil =>
    rw [List.nil_append, List.mapM_cons, fails]
    rfl
  | cons y before ih =>
    obtain ⟨b, head⟩ := succeed y (.head _)
    have tail := ih fun z member => succeed z (.tail _ member)
    rw [List.cons_append, List.mapM_cons, head, tail]
    rfl

theorem mapM_error_iff {f : α → Except ε β} {xs : List α} {e : ε} : xs.mapM f = .error e ↔
    ∃ before x behind, xs = before ++ x :: behind ∧ (∀ y ∈ before, ∃ b, f y = .ok b) ∧
      f x = .error e := by
  constructor
  · intro h
    induction xs with
    | nil => cases h
    | cons x xs ih =>
      rw [List.mapM_cons] at h
      cases head : f x with
      | error e' =>
        rw [head] at h
        cases h
        exact ⟨[], x, xs, rfl, by simp, head⟩
      | ok b =>
        cases tail : xs.mapM f with
        | ok rest =>
          rw [head, tail] at h
          cases h
        | error e' =>
          rw [head, tail] at h
          cases h
          obtain ⟨before, failing, behind, parts, succeed, fails⟩ := ih tail
          refine ⟨x :: before, failing, behind, by rw [parts]; rfl, ?_, fails⟩
          rintro y (_ | ⟨_, member⟩)
          · exact ⟨b, head⟩
          · exact succeed y member
  · rintro ⟨before, x, behind, parts, succeed, fails⟩
    rw [parts]
    exact mapM_error_of_first succeed fails

namespace Corresponds

variable {failure : ε → ε' → Prop} {success : α → β → Prop} {success' : γ → δ → Prop}

theorem iff {x : Except ε α} {y : Except ε' β} : Corresponds failure success x y ↔
    ((∃ a, x = .ok a) ↔ ∃ b, y = .ok b) ∧ (∀ e e', x = .error e → y = .error e' → failure e e') ∧
      ∀ a b, x = .ok a → y = .ok b → success a b := by
  constructor
  · rintro (⟨same⟩ | ⟨same⟩) <;> simp [same]
  · rintro ⟨succeed, failures, successes⟩
    cases x with
    | ok a =>
      obtain ⟨b, rfl⟩ := succeed.1 ⟨a, rfl⟩
      exact .ok (successes a b rfl rfl)
    | error e =>
      cases y with
      | ok b => simp at succeed
      | error e' => exact .error (failures e e' rfl rfl)

theorem exists_ok {x : Except ε α} {y : Except ε' β} (h : Corresponds failure success x y) {a : α}
    (returns : x = .ok a) : ∃ b, y = .ok b ∧ success a b := by
  cases h with
  | ok related =>
    cases returns
    exact ⟨_, rfl, related⟩
  | error _ => cases returns

theorem bind {x : Except ε α} {y : Except ε' β} {f : α → Except ε γ} {g : β → Except ε' δ}
    (h : Corresponds failure success x y)
    (hfg : ∀ a b, success a b → Corresponds failure success' (f a) (g b)) :
    Corresponds failure success' (x >>= f) (y >>= g) := by
  cases h with
  | ok h => exact hfg _ _ h
  | error h => exact .error h

theorem map {x : Except ε α} {y : Except ε' β} {f : α → γ} {g : β → δ}
    (h : Corresponds failure success x y) (hfg : ∀ a b, success a b → success' (f a) (g b)) :
    Corresponds failure success' (x.map f) (y.map g) := by
  cases h with
  | ok h => exact .ok (hfg _ _ h)
  | error h => exact .error h

theorem mapM {ι κ : Type} {related : ι → κ → Prop} {f : ι → Except ε α} {g : κ → Except ε' β}
    {xs : List ι} {ys : List κ} (h : List.Forall₂ related xs ys)
    (hfg : ∀ x y, related x y → Corresponds failure success (f x) (g y)) :
    Corresponds failure (List.Forall₂ success) (xs.mapM f) (ys.mapM g) := by
  induction h with
  | nil => exact .ok .nil
  | cons head _ ih =>
    rw [List.mapM_cons, List.mapM_cons]
    refine bind (hfg _ _ head) fun a b first => bind ih fun as bs rest => ?_
    exact .ok (.cons first rest)

end Corresponds

end Listing
