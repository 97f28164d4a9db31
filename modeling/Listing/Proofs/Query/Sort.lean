import Mathlib.Data.List.Induction
import Listing.Query.Basic

namespace Listing

variable {α β : Type} (order : α → α → Ordering)

theorem insertFromEnd_perm (x : α) (xs : List α) : (insertFromEnd order x xs).Perm (x :: xs) := by
  induction xs with
  | nil => exact .refl _
  | cons y ys ih =>
    unfold insertFromEnd
    split
    · exact (ih.cons y).trans (.swap x y ys)
    · exact .refl _

theorem stableSort_perm (xs : List α) : (stableSort order xs).Perm xs := by
  have fold (sorted : List α) :
      (xs.foldl (fun sorted x => insertFromEnd order x sorted) sorted).Perm (xs ++ sorted) := by
    induction xs generalizing sorted with
    | nil => exact .refl _
    | cons x xs ih =>
      rw [List.foldl_cons]
      exact (ih _).trans (((insertFromEnd_perm order x sorted).append_left xs).trans
        List.perm_middle)
  have entered := fold []
  rw [List.append_nil] at entered
  exact (List.reverse_perm _).trans entered

theorem insertFromEnd_map (f : β → α) (x : β) (xs : List β) :
    insertFromEnd order (f x) (xs.map f) =
      (insertFromEnd (fun a b => order (f a) (f b)) x xs).map f := by
  induction xs with
  | nil => rfl
  | cons y ys ih =>
    simp only [List.map_cons, insertFromEnd]
    split
    · rw [ih, List.map_cons]
    · rfl

theorem stableSort_concat (xs : List α) (x : α) : stableSort order (xs ++ [x]) =
    (insertFromEnd order x (stableSort order xs).reverse).reverse := by
  simp [stableSort]

theorem stableSort_map (f : β → α) (xs : List β) :
    stableSort order (xs.map f) = (stableSort (fun a b => order (f a) (f b)) xs).map f := by
  induction xs using List.reverseRecOn with
  | nil => rfl
  | append_singleton xs x ih =>
    rw [List.map_append, List.map_singleton, stableSort_concat, stableSort_concat, ih,
      ← List.map_reverse, insertFromEnd_map, List.map_reverse]

structure TotalPreorder (rows : List α) : Prop where
  refl : ∀ a ∈ rows, order a a = .eq
  total : ∀ a ∈ rows, ∀ b ∈ rows, (order a b).isLE = true ∨ (order b a).isLE = true
  trans : ∀ a ∈ rows, ∀ b ∈ rows, ∀ c ∈ rows,
    (order a b).isLE = true → (order b c).isLE = true → (order a c).isLE = true
  swap : ∀ a ∈ rows, ∀ b ∈ rows, order b a = (order a b).swap

namespace TotalPreorder

variable {order} {rows : List α}

theorem of_transCmp (h : Std.TransCmp fun a b : {row // row ∈ rows} => order a b) :
    TotalPreorder order rows where
  refl a ha := by
    have reflexive : Std.ReflCmp fun a b : {row // row ∈ rows} => order a b := inferInstance
    exact reflexive.compare_self (a := ⟨a, ha⟩)
  total a ha b hb := by
    have swapped := h.eq_swap (a := ⟨a, ha⟩) (b := ⟨b, hb⟩)
    dsimp only at swapped
    rw [swapped]
    cases order b a <;> decide
  trans a ha b hb c hc := h.isLE_trans (a := ⟨a, ha⟩) (b := ⟨b, hb⟩) (c := ⟨c, hc⟩)
  swap a ha b hb := h.eq_swap (a := ⟨b, hb⟩) (b := ⟨a, ha⟩)

theorem mono {some : List α} (h : TotalPreorder order rows) (within : ∀ a ∈ some, a ∈ rows) :
    TotalPreorder order some where
  refl a ha := h.refl a (within a ha)
  total a ha b hb := h.total a (within a ha) b (within b hb)
  trans a ha b hb c hc := h.trans a (within a ha) b (within b hb) c (within c hc)
  swap a ha b hb := h.swap a (within a ha) b (within b hb)

theorem filter (h : TotalPreorder order rows) (p : α → Bool) :
    TotalPreorder order (rows.filter p) :=
  h.mono fun _ member => (List.mem_filter.1 member).1

theorem comap {items : List β} {f : β → α} (h : TotalPreorder order rows)
    (within : ∀ a ∈ items, f a ∈ rows) : TotalPreorder (fun a b => order (f a) (f b)) items where
  refl a ha := h.refl _ (within a ha)
  total a ha b hb := h.total _ (within a ha) _ (within b hb)
  trans a ha b hb c hc := h.trans _ (within a ha) _ (within b hb) _ (within c hc)
  swap a ha b hb := h.swap _ (within a ha) _ (within b hb)

end TotalPreorder

def Precedes (earlier : α → α → Prop) (a b : α) : Prop :=
  order a b = .lt ∨ order a b = .eq ∧ earlier a b

variable {order} {rows : List α} {earlier : α → α → Prop}

theorem Precedes.isLE {a b : α} (h : Precedes order earlier a b) : (order a b).isLE = true := by
  obtain less | ⟨equal, -⟩ := h
  · rw [less]
    rfl
  · rw [equal]
    rfl

theorem precedes_of_isLE {a b : α} (h : (order a b).isLE = true) (first : earlier a b) :
    Precedes order earlier a b := by
  unfold Precedes
  cases compared : order a b with
  | lt => exact .inl rfl
  | eq => exact .inr ⟨rfl, first⟩
  | gt =>
    rw [compared] at h
    cases h

theorem pairwise_insertFromEnd (h : TotalPreorder order rows) {x : α} {sorted : List α}
    (listed : x ∈ rows) (within : ∀ y ∈ sorted, y ∈ rows)
    (ordered : sorted.Pairwise fun y z => Precedes order earlier z y)
    (last : ∀ y ∈ sorted, earlier y x) :
    (insertFromEnd order x sorted).Pairwise fun y z => Precedes order earlier z y := by
  induction sorted with
  | nil => exact List.pairwise_singleton _ _
  | cons y ys ih =>
    obtain ⟨below, rest⟩ := List.pairwise_cons.1 ordered
    have inserted := ih (fun z member => within z (.tail _ member)) rest
      (fun z member => last z (.tail _ member))
    unfold insertFromEnd
    split
    · rename_i less
      refine List.pairwise_cons.2 ⟨fun z member => ?_, inserted⟩
      obtain rfl | member := List.mem_cons.1 ((insertFromEnd_perm order x ys).mem_iff.1 member)
      · exact .inl less
      · exact below z member
    -- The row goes behind `y`, and `y` is behind all others.
    · rename_i behind
      have top : (order y x).isLE = true := by
        rw [h.swap x listed y (within y (.head _))]
        cases compared : order x y with
        | lt => exact absurd compared behind
        | eq => rfl
        | gt => rfl
      refine List.pairwise_cons.2 ⟨fun z member => ?_, ordered⟩
      refine precedes_of_isLE ?_ (last z member)
      obtain rfl | above := List.mem_cons.1 member
      · exact top
      · exact h.trans z (within z member) y (within y (.head _)) x listed (below z above).isLE top

theorem pairwise_stableSort (h : TotalPreorder order rows) (listed : rows.Pairwise earlier) :
    (stableSort order rows).Pairwise (Precedes order earlier) := by
  induction rows using List.reverseRecOn with
  | nil => exact .nil
  | append_singleton rows x ih =>
    obtain ⟨before, -, last⟩ := List.pairwise_append.1 listed
    have sorted := ih (h.mono fun a member => List.mem_append_left _ member) before
    have entered (y : α) : y ∈ (stableSort order rows).reverse ↔ y ∈ rows := by
      rw [List.mem_reverse, (stableSort_perm order rows).mem_iff]
    rw [stableSort_concat, List.pairwise_reverse]
    apply pairwise_insertFromEnd h
    · exact List.mem_append_right _ (.head _)
    · exact fun y member => List.mem_append_left _ ((entered y).1 member)
    · exact List.pairwise_reverse.2 sorted
    · exact fun y member => last y ((entered y).1 member) x (.head _)

/-- The rows at all positions of the first list make up the second, the lesser ones first and of equal
ones that at the lesser position. -/
def StablySorted (order : α → α → Ordering) (rows sorted : List α) : Prop :=
  ∃ placed : List (α × Nat), placed.Perm rows.zipIdx ∧ placed.map (·.1) = sorted ∧
    placed.Pairwise fun a b => order a.1 b.1 = .lt ∨ order a.1 b.1 = .eq ∧ a.2 < b.2

theorem pairwise_zipIdx (rows : List α) : rows.zipIdx.Pairwise fun a b => a.2 < b.2 := by
  rw [← List.pairwise_map, List.zipIdx_map_snd]
  exact List.pairwise_lt_range'

theorem stablySorted_of_eq (equal : ∀ a b, order a b = .eq) (rows : List α) :
    StablySorted order rows rows := by
  refine ⟨rows.zipIdx, .refl _, List.zipIdx_map_fst _ _, (pairwise_zipIdx rows).imp fun first => ?_⟩
  exact .inr ⟨equal _ _, first⟩

theorem stableSort_stablySorted (h : TotalPreorder order rows) :
    StablySorted order rows (stableSort order rows) := by
  have placed : TotalPreorder (fun a b : α × Nat => order a.1 b.1) rows.zipIdx :=
    h.comap fun a member => List.fst_mem_of_mem_zipIdx member
  refine ⟨_, stableSort_perm _ rows.zipIdx, ?_, pairwise_stableSort placed (pairwise_zipIdx rows)⟩
  rw [← stableSort_map, List.zipIdx_map_fst]

namespace StablySorted

variable {sorted sorted' : List α}

theorem perm (h : StablySorted order rows sorted) : sorted.Perm rows := by
  obtain ⟨placed, moved, rfl, -⟩ := h
  have rowsMoved := moved.map (·.1)
  rw [List.zipIdx_map_fst] at rowsMoved
  exact rowsMoved

theorem pairwise (h : StablySorted order rows sorted) :
    sorted.Pairwise fun a b => order a b ≠ .gt := by
  obtain ⟨placed, -, rfl, ordered⟩ := h
  rw [List.pairwise_map]
  refine ordered.imp fun {a b} before => ?_
  obtain less | ⟨equal, -⟩ := before
  · rw [less]
    decide
  · rw [equal]
    decide

theorem unique (preorder : TotalPreorder order rows) (h : StablySorted order rows sorted)
    (h' : StablySorted order rows sorted') : sorted = sorted' := by
  obtain ⟨placed, moved, rfl, ordered⟩ := h
  obtain ⟨placed', moved', rfl, ordered'⟩ := h'
  have same : placed = placed' := by
    refine (moved.trans moved'.symm).eq_of_pairwise ?_ ordered ordered'
    intro a b ha hb before after
    have left := List.fst_mem_of_mem_zipIdx (moved.mem_iff.1 ha)
    have right := List.fst_mem_of_mem_zipIdx (moved'.mem_iff.1 hb)
    have swapped := preorder.swap a.1 left b.1 right
    obtain less | ⟨equal, first⟩ := before
    · rw [less] at swapped
      simp [swapped] at after
    · rw [equal] at swapped
      simp only [swapped] at after
      obtain less | ⟨-, second⟩ := after
      · cases less
      · omega
  rw [same]

end StablySorted

end Listing
