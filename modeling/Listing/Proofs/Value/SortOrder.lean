import Listing.Proofs.Binary64.Rounding

/-!
# The order of rows by a key

`sortOrder` puts values of different kinds in the order of the kinds (`sortOrder_of_rank_ne`), and values
of one kind in an order of their own. It is not transitive: an integer is compared with a float as the
float nearest to it, but with another integer exactly. `sortOrder_isLE_trans_iff` says which values get
tangled so.
-/

namespace Listing

namespace Binary64

theorem isNaN_of_isFinite {x : Binary64} (h : x.isFinite = true) : x.isNaN = false := by
  simp only [isNaN, isFinite, decide_eq_true_eq, decide_eq_false_iff_not] at *
  omega

theorem place_le_of_totalPlace_le {x y : Binary64} (h : x.totalPlace ≤ y.totalPlace) :
    x.place ≤ y.place := by
  unfold totalPlace at h
  unfold place
  cases hx : x.negative <;> cases hy : y.negative <;> simp only [hx, hy] at h ⊢ <;> grind

end Binary64

instance : Std.TransCmp Instant.order :=
  inferInstanceAs (Std.TransCmp (compareLex (compareOn Instant.seconds) (compareOn Instant.nanos)))

instance : Std.TransCmp Uuid.order :=
  inferInstanceAs (Std.TransCmp (compareOn fun id : Uuid => id.value.toNat))

def EnumMember.order (m n : EnumMember) : Ordering := compare m.ordinal.toInt n.ordinal.toInt

instance : Std.TransCmp EnumMember.order :=
  inferInstanceAs (Std.TransCmp (compareOn fun m : EnumMember => m.ordinal.toInt))

namespace Value

/-! ## Kinds -/

inductive SameKind : Value → Value → Prop
  | null : SameKind .null .null
  | bool (a b : Bool) : SameKind (.bool a) (.bool b)
  | ints (n m : Int64) : SameKind (.int n) (.int m)
  | intFloat (n : Int64) (x : Binary64) : SameKind (.int n) (.float x)
  | floatInt (x : Binary64) (n : Int64) : SameKind (.float x) (.int n)
  | floats (x y : Binary64) : SameKind (.float x) (.float y)
  | text (s t : String) : SameKind (.text s) (.text t)
  | instant (s t : Instant) : SameKind (.instant s) (.instant t)
  | uuid (a b : Uuid) : SameKind (.uuid a) (.uuid b)
  | member (m n : EnumMember) : SameKind (.member m) (.member n)
  | list (as bs : List Value) : SameKind (.list as) (.list bs)

theorem sameKind_of_rank_eq {a b : Value} (h : a.rank = b.rank) : SameKind a b := by
  cases a <;> cases b <;> first | constructor | cases h

theorem sortOrder_of_rank_ne {a b : Value} (h : a.rank ≠ b.rank) :
    a.sortOrder b = compare a.rank b.rank := by
  cases a <;> cases b <;> first | exact absurd rfl h | rfl

theorem sortOrder_ints (n m : Int64) : sortOrder (.int n) (.int m) = compare n.toInt m.toInt := rfl

theorem sortOrder_floats (x y : Binary64) :
    sortOrder (.float x) (.float y) = compare x.totalPlace y.totalPlace := rfl

theorem sortOrder_int_float (n : Int64) (x : Binary64) : sortOrder (.int n) (.float x) =
    if x.isNaN then .eq else compare (widen n).place x.place := by
  have finite := Binary64.isNaN_of_isFinite (isFinite_widen n)
  cases h : x.isNaN <;> simp [sortOrder, compare?, Binary64.compare?, finite, h, rank]

theorem sortOrder_float_int (x : Binary64) (n : Int64) : sortOrder (.float x) (.int n) =
    if x.isNaN then .eq else compare x.place (widen n).place := by
  have finite := Binary64.isNaN_of_isFinite (isFinite_widen n)
  cases h : x.isNaN <;> simp [sortOrder, compare?, Binary64.compare?, finite, h, rank]

/-! ## Transitivity -/

def Breaks (a b c : Value) : Prop :=
  (a.sortOrder b).isLE = true ∧ (b.sortOrder c).isLE = true ∧ a.sortOrder c = .gt

def BreaksItems (as bs cs : List Value) : Prop :=
  (sortOrderItems as bs).isLE = true ∧ (sortOrderItems bs cs).isLE = true ∧
    sortOrderItems as cs = .gt

theorem isLE_trans_iff {a b c : Value} :
    ((a.sortOrder b).isLE = true → (b.sortOrder c).isLE = true → (a.sortOrder c).isLE = true) ↔
      ¬ Breaks a b c := by
  unfold Breaks
  cases a.sortOrder b <;> cases b.sortOrder c <;> cases a.sortOrder c <;> decide

theorem rank_le_of_isLE {a b : Value} (h : (a.sortOrder b).isLE = true) : a.rank ≤ b.rank := by
  by_cases same : a.rank = b.rank
  · exact Nat.le_of_eq same
  · rw [sortOrder_of_rank_ne same] at h
    exact Nat.isLE_compare.1 h

theorem Breaks.rank_eq {a b c : Value} (h : Breaks a b c) : a.rank = b.rank ∧ b.rank = c.rank := by
  have first := rank_le_of_isLE h.1
  have second := rank_le_of_isLE h.2.1
  by_cases same : a.rank = c.rank
  · omega
  · have behind := h.2.2
    rw [sortOrder_of_rank_ne same, Nat.compare_eq_gt] at behind
    omega

theorem not_breaks_of_trans {κ : Type} (order : κ → κ → Ordering) [Std.TransCmp order]
    (value : κ → Value) (h : ∀ x y, (value x).sortOrder (value y) = order x y) (x y z : κ) :
    ¬ Breaks (value x) (value y) (value z) := by
  rw [← isLE_trans_iff, h, h, h]
  exact Std.TransCmp.isLE_trans

/-! ## Numbers -/

theorem isLE_intFloat {n : Int64} {x : Binary64} : (sortOrder (.int n) (.float x)).isLE = true ↔
    x.isNaN = true ∨ (widen n).place ≤ x.place := by
  rw [sortOrder_int_float]
  cases x.isNaN <;> simp [Int.isLE_compare]

theorem isLE_floatInt {n : Int64} {x : Binary64} : (sortOrder (.float x) (.int n)).isLE = true ↔
    x.isNaN = true ∨ x.place ≤ (widen n).place := by
  rw [sortOrder_float_int]
  cases x.isNaN <;> simp [Int.isLE_compare]

theorem intFloat_eq_gt {n : Int64} {x : Binary64} : sortOrder (.int n) (.float x) = .gt ↔
    x.isNaN = false ∧ x.place < (widen n).place := by
  rw [sortOrder_int_float]
  cases x.isNaN <;> simp [Int.compare_eq_gt]

theorem floatInt_eq_gt {n : Int64} {x : Binary64} : sortOrder (.float x) (.int n) = .gt ↔
    x.isNaN = false ∧ (widen n).place < x.place := by
  rw [sortOrder_float_int]
  cases x.isNaN <;> simp [Int.compare_eq_gt]

mutual

/-- Three values that are no chain although their neighbours are in order. -/
def Tangled : Value → Value → Value → Prop
  -- Two integers that the float between them does not tell apart.
  | .int n, .float x, .int m => m.toInt < n.toInt ∧
      (x.isNaN = true ∨ (widen n).place = x.place ∧ x.place = (widen m).place)
  -- The zeros around the integer zero, or NaNs.
  | .float x, .int n, .float y => y.totalPlace < x.totalPlace ∧
      (x.isNaN = true ∨ x.place ≤ (widen n).place) ∧ (y.isNaN = true ∨ (widen n).place ≤ y.place)
  -- A NaN, which ties with all integers, in front of or behind all numbers.
  | .int n, .float x, .float y => x.isNaN = true ∧ x.totalPlace ≤ y.totalPlace ∧
      y.isNaN = false ∧ y.place < (widen n).place
  | .float x, .float y, .int n => y.isNaN = true ∧ x.totalPlace ≤ y.totalPlace ∧
      x.isNaN = false ∧ (widen n).place < x.place
  | .list as, .list bs, .list cs => TangledItems as bs cs
  | _, _, _ => False

/-- Lists are tangled by the first items that are not equal all three: either these are, or the outer
two are equal and the rest decides. -/
def TangledItems : List Value → List Value → List Value → Prop
  | a :: as, b :: bs, c :: cs =>
    (a.sortOrder b = .eq ∧ b.sortOrder c = .eq ∧ a.sortOrder c = .eq ∧ TangledItems as bs cs) ∨
    ((sortOrderItems (a :: as) (b :: bs)).isLE = true ∧
      (sortOrderItems (b :: bs) (c :: cs)).isLE = true ∧
      (Tangled a b c ∨ a.sortOrder c = .eq ∧ (a.sortOrder b = .lt ∨ b.sortOrder c = .lt) ∧
        sortOrderItems as cs = .gt))
  | _, _, _ => False

end

theorem not_breaks_int_int_float (n m : Int64) (x : Binary64) :
    ¬ Breaks (.int n) (.int m) (.float x) := by
  rintro ⟨first, second, behind⟩
  rw [sortOrder_ints, Int.isLE_compare] at first
  rw [isLE_intFloat] at second
  rw [intFloat_eq_gt] at behind
  have wide := place_widen_mono first
  obtain nan | within := second
  · rw [nan] at behind
    cases behind.1
  · omega

theorem not_breaks_float_int_int (x : Binary64) (n m : Int64) :
    ¬ Breaks (.float x) (.int n) (.int m) := by
  rintro ⟨first, second, behind⟩
  rw [isLE_floatInt] at first
  rw [sortOrder_ints, Int.isLE_compare] at second
  rw [floatInt_eq_gt] at behind
  have wide := place_widen_mono second
  obtain nan | within := first
  · rw [nan] at behind
    cases behind.1
  · omega

theorem breaks_int_float_int (n : Int64) (x : Binary64) (m : Int64) :
    Breaks (.int n) (.float x) (.int m) ↔ m.toInt < n.toInt ∧
      (x.isNaN = true ∨ (widen n).place = x.place ∧ x.place = (widen m).place) := by
  unfold Breaks
  rw [isLE_intFloat, isLE_floatInt, sortOrder_ints, Int.compare_eq_gt]
  constructor
  · rintro ⟨first, second, behind⟩
    have wide := place_widen_mono (Int.le_of_lt behind)
    refine ⟨behind, ?_⟩
    obtain nan | low := first
    · exact .inl nan
    · obtain nan | high := second
      · exact .inl nan
      · exact .inr (by omega)
  · rintro ⟨behind, nan | ⟨low, high⟩⟩
    · exact ⟨.inl nan, .inl nan, behind⟩
    · exact ⟨.inr (by omega), .inr (by omega), behind⟩

theorem breaks_float_int_float (x : Binary64) (n : Int64) (y : Binary64) :
    Breaks (.float x) (.int n) (.float y) ↔ y.totalPlace < x.totalPlace ∧
      (x.isNaN = true ∨ x.place ≤ (widen n).place) ∧
        (y.isNaN = true ∨ (widen n).place ≤ y.place) := by
  unfold Breaks
  rw [isLE_floatInt, isLE_intFloat, sortOrder_floats, Int.compare_eq_gt]
  constructor
  · rintro ⟨first, second, behind⟩
    exact ⟨behind, first, second⟩
  · rintro ⟨behind, first, second⟩
    exact ⟨first, second, behind⟩

theorem breaks_int_float_float (n : Int64) (x y : Binary64) :
    Breaks (.int n) (.float x) (.float y) ↔ x.isNaN = true ∧ x.totalPlace ≤ y.totalPlace ∧
      y.isNaN = false ∧ y.place < (widen n).place := by
  unfold Breaks
  rw [isLE_intFloat, sortOrder_floats, Int.isLE_compare, intFloat_eq_gt]
  constructor
  · rintro ⟨nan | low, order, number, behind⟩
    · exact ⟨nan, order, number, behind⟩
    · have places := Binary64.place_le_of_totalPlace_le order
      omega
  · rintro ⟨nan, order, number, behind⟩
    exact ⟨.inl nan, order, number, behind⟩

theorem breaks_float_float_int (x y : Binary64) (n : Int64) :
    Breaks (.float x) (.float y) (.int n) ↔ y.isNaN = true ∧ x.totalPlace ≤ y.totalPlace ∧
      x.isNaN = false ∧ (widen n).place < x.place := by
  unfold Breaks
  rw [isLE_floatInt, sortOrder_floats, Int.isLE_compare, floatInt_eq_gt]
  constructor
  · rintro ⟨order, nan | high, number, behind⟩
    · exact ⟨nan, order, number, behind⟩
    · have places := Binary64.place_le_of_totalPlace_le order
      omega
  · rintro ⟨nan, order, number, behind⟩
    exact ⟨order, .inl nan, number, behind⟩

/-! ## All values -/

theorem rank_eq_of_tangled {a b c : Value} (h : Tangled a b c) : a.rank = b.rank ∧ b.rank = c.rank := by
  unfold Tangled at h
  split at h
  case h_6 => cases h
  all_goals exact ⟨rfl, rfl⟩

theorem tangledItems_cons {a b c : Value} {as bs cs : List Value} (head : Tangled a b c ↔ Breaks a b c)
    (tail : TangledItems as bs cs ↔ BreaksItems as bs cs) :
    TangledItems (a :: as) (b :: bs) (c :: cs) ↔ BreaksItems (a :: as) (b :: bs) (c :: cs) := by
  rw [TangledItems, head, tail]
  unfold Breaks BreaksItems
  rw [sortOrderItems, sortOrderItems, sortOrderItems]
  cases a.sortOrder b <;> cases b.sortOrder c <;> cases a.sortOrder c <;> simp

mutual

theorem tangled_iff (a b c : Value) : Tangled a b c ↔ Breaks a b c := by
  by_cases ranks : a.rank = b.rank ∧ b.rank = c.rank
  · cases sameKind_of_rank_eq ranks.1 with
    | null =>
      cases sameKind_of_rank_eq ranks.2 with
      | null => simp [Tangled, Breaks, sortOrder, compare?, rank]
    | bool a b =>
      cases sameKind_of_rank_eq ranks.2 with
      | bool _ c =>
        simp only [Tangled, false_iff]
        exact not_breaks_of_trans compare .bool (fun _ _ => rfl) _ _ _
    | ints n m =>
      cases sameKind_of_rank_eq ranks.2 with
      | ints _ k =>
        simp only [Tangled, false_iff]
        exact not_breaks_of_trans (compareOn Int64.toInt) .int (fun _ _ => rfl) _ _ _
      | intFloat _ x =>
        simp only [Tangled, false_iff]
        exact not_breaks_int_int_float n m x
    | intFloat n x =>
      cases sameKind_of_rank_eq ranks.2 with
      | floatInt _ m =>
        rw [Tangled]
        exact (breaks_int_float_int n x m).symm
      | floats _ y =>
        rw [Tangled]
        exact (breaks_int_float_float n x y).symm
    | floatInt x n =>
      cases sameKind_of_rank_eq ranks.2 with
      | ints _ m =>
        simp only [Tangled, false_iff]
        exact not_breaks_float_int_int x n m
      | intFloat _ y =>
        rw [Tangled]
        exact (breaks_float_int_float x n y).symm
    | floats x y =>
      cases sameKind_of_rank_eq ranks.2 with
      | floatInt _ n =>
        rw [Tangled]
        exact (breaks_float_float_int x y n).symm
      | floats _ z =>
        simp only [Tangled, false_iff]
        exact not_breaks_of_trans (compareOn Binary64.totalPlace) .float (fun _ _ => rfl) _ _ _
    | text s t =>
      cases sameKind_of_rank_eq ranks.2 with
      | text _ u =>
        simp only [Tangled, false_iff]
        exact not_breaks_of_trans compare .text (fun _ _ => rfl) _ _ _
    | instant s t =>
      cases sameKind_of_rank_eq ranks.2 with
      | instant _ u =>
        simp only [Tangled, false_iff]
        exact not_breaks_of_trans Instant.order .instant (fun _ _ => rfl) _ _ _
    | uuid a b =>
      cases sameKind_of_rank_eq ranks.2 with
      | uuid _ c =>
        simp only [Tangled, false_iff]
        exact not_breaks_of_trans Uuid.order .uuid (fun _ _ => rfl) _ _ _
    | member m n =>
      cases sameKind_of_rank_eq ranks.2 with
      | member _ k =>
        simp only [Tangled, false_iff]
        exact not_breaks_of_trans EnumMember.order .member (fun _ _ => rfl) _ _ _
    | list as bs =>
      cases sameKind_of_rank_eq ranks.2 with
      | list _ cs =>
        rw [Tangled, tangledItems_iff as bs cs]
        simp only [Breaks, BreaksItems, sortOrder]
  -- Values of different kinds are neither.
  · constructor
    · intro tangled
      exact absurd (rank_eq_of_tangled tangled) ranks
    · intro breaks
      exact absurd breaks.rank_eq ranks
termination_by sizeOf a

theorem tangledItems_iff (as bs cs : List Value) : TangledItems as bs cs ↔ BreaksItems as bs cs := by
  match as, bs, cs with
  | [], _, [] => simp [TangledItems, BreaksItems, sortOrderItems]
  | [], _, _ :: _ => simp [TangledItems, BreaksItems, sortOrderItems]
  | _ :: _, [], _ => simp [TangledItems, BreaksItems, sortOrderItems]
  | _ :: _, _ :: _, [] => simp [TangledItems, BreaksItems, sortOrderItems]
  | a :: as, b :: bs, c :: cs =>
    exact tangledItems_cons (tangled_iff a b c) (tangledItems_iff as bs cs)
termination_by sizeOf as

end

/-- Sorting by `sortOrder` is transitive on exactly the values that are not tangled. -/
theorem sortOrder_isLE_trans_iff (a b c : Value) :
    ((a.sortOrder b).isLE = true → (b.sortOrder c).isLE = true → (a.sortOrder c).isLE = true) ↔
      ¬ Tangled a b c := by
  rw [tangled_iff]
  exact isLE_trans_iff

/-- Two integers beyond 53 binary digits, and the float that both are nearest to. -/
theorem sortOrder_not_transitive : ∃ a b c : Value, (a.sortOrder b).isLE = true ∧
    (b.sortOrder c).isLE = true ∧ (a.sortOrder c).isLE = false :=
  ⟨.int 9007199254740993, .float ⟨0x4340000000000000⟩, .int 9007199254740992, by decide +kernel⟩

end Value

end Listing
