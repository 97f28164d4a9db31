import Listing.Proofs.Query.Sort
import Listing.Proofs.Value.KeyOrder

namespace Listing

variable {α : Type} [Row α]

namespace SortKey

def lexicographic (keys : List SortKey) (a b : α) : Ordering :=
  ((keys.map fun k => k.compare (Row.record a) (Row.record b)).find? (· != .eq)).getD .eq

def sort (keys : List SortKey) (rows : List α) : List α :=
  if keys.isEmpty then rows else stableSort (lexicographic keys) rows

/-- The key ends at a member of a scalar type, and the rows have keys of this type. -/
def Typed (k : SortKey) (rows : List α) : Prop :=
  k.path.leaf.type.isScalar = true ∧
    ∀ row ∈ rows, k.path.leaf.type.HasKey (k.key (Row.record row))

theorem compare_swap (k : SortKey) (a b : Record) : k.compare b a = (k.compare a b).swap := by
  unfold compare
  dsimp only
  rw [Value.sortOrder_swap (k.key a) (k.key b)]
  cases k.direction <;> rfl

/-- Two values turned around are in the order turned around, so that every value ties with itself. A key
that goes down therefore orders two records as it does the other way round when it goes up. -/
theorem compare_converse :
    (∀ a b : Value, b.sortOrder a = (a.sortOrder b).swap) ∧ (∀ a : Value, a.sortOrder a = .eq) ∧
      ∀ (path : Path) (x y : Record),
        compare ⟨path, .descending⟩ x y = compare ⟨path, .ascending⟩ y x := by
  refine ⟨Value.sortOrder_swap, fun a => ?_, fun path x y => ?_⟩
  · exact Std.ReflCmp.compare_self
  · exact (Value.sortOrder_swap _ _).symm

theorem compare_of_null {k : SortKey} {a b : Record} (null : k.key a = .null)
    (some : k.key b ≠ .null) :
    k.compare a b = match k.direction with | .ascending => .lt | .descending => .gt := by
  unfold compare
  rw [null, Value.sortOrder_null_of_ne some]
  cases k.direction <;> rfl

theorem isLE_trans {k : SortKey} {rows : List α} (typed : k.Typed rows) {a b c : α} (ha : a ∈ rows)
    (hb : b ∈ rows) (hc : c ∈ rows)
    (hab : (k.compare (Row.record a) (Row.record b)).isLE = true)
    (hbc : (k.compare (Row.record b) (Row.record c)).isLE = true) :
    (k.compare (Row.record a) (Row.record c)).isLE = true := by
  obtain ⟨scalar, keyed⟩ := typed
  cases direction : k.direction with
  | ascending =>
    simp only [compare, direction] at hab hbc ⊢
    exact Value.isLE_trans_of_keys scalar (keyed a ha) (keyed b hb) (keyed c hc) hab hbc
  | descending =>
    simp only [compare, direction, ← Value.sortOrder_swap] at hab hbc ⊢
    exact Value.isLE_trans_of_keys scalar (keyed c hc) (keyed b hb) (keyed a ha) hbc hab

theorem transCmp_compare {k : SortKey} {rows : List α} (typed : k.Typed rows) :
    Std.TransCmp fun a b : {row // row ∈ rows} => k.compare (Row.record a.1) (Row.record b.1) where
  eq_swap := k.compare_swap _ _
  isLE_trans {a b c} := isLE_trans typed a.2 b.2 c.2

theorem lexicographic_cons (k : SortKey) (keys : List SortKey) (a b : α) :
    lexicographic (k :: keys) a b =
      (k.compare (Row.record a) (Row.record b)).then (lexicographic keys a b) := by
  unfold lexicographic
  rw [List.map_cons, List.find?_cons]
  cases k.compare (Row.record a) (Row.record b) <;> rfl

theorem transCmp_lexicographic {keys : List SortKey} {rows : List α}
    (typed : ∀ k ∈ keys, k.Typed rows) :
    Std.TransCmp fun a b : {row // row ∈ rows} => lexicographic keys a.1 b.1 := by
  induction keys with
  | nil => exact { eq_swap := rfl, isLE_trans := fun _ _ => rfl }
  | cons k keys ih =>
    have := transCmp_compare (typed k (.head _))
    have := ih fun j member => typed j (.tail _ member)
    simp only [lexicographic_cons]
    exact inferInstanceAs (Std.TransCmp (compareLex
      (fun a b : {row // row ∈ rows} => k.compare (Row.record a.1) (Row.record b.1))
      fun a b => lexicographic keys a.1 b.1))

theorem sort_stablySorted {keys : List SortKey} {rows : List α}
    (preorder : TotalPreorder (lexicographic keys) rows) :
    StablySorted (lexicographic keys) rows (sort keys rows) := by
  unfold sort
  split
  · rename_i none
    rw [List.isEmpty_iff.1 none]
    exact stablySorted_of_eq (fun _ _ => rfl) rows
  · exact stableSort_stablySorted preorder

end SortKey

namespace Query

theorem order_eq (q : Query α) : q.order = SortKey.lexicographic q.keys := by
  funext a b
  unfold order
  induction q.keys with
  | nil => rfl
  | cons k keys ih => rw [List.foldr_cons, ih, SortKey.lexicographic_cons]

theorem totalPreorder_order {q : Query α} (typed : ∀ k ∈ q.keys, k.Typed q.source) :
    TotalPreorder q.order q.source := by
  rw [order_eq]
  exact .of_transCmp (SortKey.transCmp_lexicographic typed)

theorem sorted_eq (q : Query α) :
    q.sorted = SortKey.sort q.keys (q.source.filter q.passes) := by
  rw [sorted, order_eq]
  rfl

theorem fetch_stablySorted (source : List α) (predicates : List Predicate) (keys : List SortKey)
    (typed : ∀ k ∈ keys, k.Typed source) :
    let q : Query α := ⟨source, predicates, keys, 0, none⟩
    let passing := source.filter fun row => predicates.all (·.eval (Row.record row))
    TotalPreorder q.order source ∧
    (∀ a b, q.order a b = SortKey.lexicographic keys a b) ∧
    (∀ k ∈ keys, ∀ a b, k.key a = .null → k.key b ≠ .null →
      k.compare a b = match k.direction with | .ascending => .lt | .descending => .gt) ∧
    q.fetch.Perm passing ∧ q.fetch.Pairwise (fun a b => q.order a b ≠ .gt) ∧
    StablySorted q.order passing q.fetch ∧
    ∀ rows, StablySorted q.order passing rows → rows = q.fetch := by
  intro q passing
  have preorder : TotalPreorder q.order source := totalPreorder_order typed
  have sorted : StablySorted q.order passing q.fetch := by
    have fetched : q.fetch = SortKey.sort keys passing := sorted_eq q
    rw [order_eq] at preorder ⊢
    rw [fetched]
    exact SortKey.sort_stablySorted (preorder.filter _)
  refine ⟨preorder, ?_, ?_, sorted.perm, sorted.pairwise, sorted, ?_⟩
  · intro a b
    rw [order_eq]
  · intro k _ a b null some
    exact SortKey.compare_of_null null some
  · intro rows other
    exact other.unique (preorder.filter _) sorted

theorem fetch_stablySorted_descending :
    let path : Path := ⟨"Player", [], ⟨"Score", .optional .float⟩⟩
    let key : SortKey := ⟨path, .descending⟩
    let row (name : String) (score : Value) : Record :=
      [("Name", .value (.text name)), ("Score", .value score)]
    let one : Value := .float ⟨0x3ff0000000000000⟩
    let rows := [row "a" .null, row "b" one, row "c" (.float .nan), row "d" .null, row "e" one]
    let sorted := [row "c" (.float .nan), row "b" one, row "e" one, row "a" .null, row "d" .null]
    (∀ k ∈ [key], k.Typed rows) ∧ (Query.mk rows [] [key] 0 none).fetch = sorted ∧
      StablySorted (Query.mk rows [] [key] 0 none).order rows sorted := by
  intro path key row one rows sorted
  have typed : ∀ k ∈ [key], k.Typed rows := by
    intro k member
    rw [List.mem_singleton.1 member]
    refine ⟨rfl, fun r listed => ?_⟩
    simp only [rows, List.mem_cons, List.not_mem_nil, or_false] at listed
    obtain rfl | rfl | rfl | rfl | rfl := listed
    · exact .inl rfl
    · exact .inr (.some (.float _))
    · exact .inr (.some (.float _))
    · exact .inl rfl
    · exact .inr (.some (.float _))
  have fetched : (Query.mk rows [] [key] 0 none).fetch = sorted := rfl
  have stable := (fetch_stablySorted rows [] [key] typed).2.2.2.2.2.1
  exact ⟨typed, fetched, fetched ▸ stable⟩

end Query

end Listing
