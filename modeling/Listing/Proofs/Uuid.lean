import Listing.Uuid

namespace Listing.Uuid

def ofValues (ds : List Nat) : Nat := ds.foldl (fun n d => 16 * n + d) 0

def Denotes (cs : List Char) (n : Nat) : Prop :=
  ∃ ds : List Nat, (∀ d ∈ ds, d < 16) ∧ cs = ds.map Nat.digitChar ∧ ofValues ds = n

theorem hexDigit?_digitChar : ∀ d < 16, hexDigit? (Nat.digitChar d) = some d := by decide

theorem denotes_toDigits (n : Nat) : Denotes (Nat.toDigits 16 n) n := by
  induction n using Nat.strongRecOn with
  | ind n ih =>
    rw [Nat.toDigits_eq_if (by decide)]
    split
    case isTrue small => exact ⟨[n], by simp [small], rfl, by simp [ofValues]⟩
    case isFalse large =>
      obtain ⟨ds, digits, written, value⟩ := ih (n / 16) (by omega)
      refine ⟨ds ++ [n % 16], ?_, by simp [written], ?_⟩
      · exact List.forall_mem_append.2 ⟨digits, List.forall_mem_singleton.2 (by omega)⟩
      · rw [ofValues, List.foldl_append, ← ofValues, value]
        simp only [List.foldl_cons, List.foldl_nil]
        omega

theorem ofValues_zeros (count : Nat) (ds : List Nat) :
    ofValues (List.replicate count 0 ++ ds) = ofValues ds := by
  induction count with
  | zero => rfl
  | succ count ih => exact ih

theorem denotes_digits (id : Uuid) : Denotes id.digits id.value.toNat := by
  obtain ⟨ds, digits, written, value⟩ := denotes_toDigits id.value.toNat
  refine ⟨List.replicate (32 - (Nat.toDigits 16 id.value.toNat).length) 0 ++ ds, ?_, ?_, ?_⟩
  · refine List.forall_mem_append.2 ⟨fun d zero => ?_, digits⟩
    rw [List.eq_of_mem_replicate zero]
    decide
  · rw [Uuid.digits, List.map_append, List.map_replicate, ← written]
    rfl
  · rw [ofValues_zeros, value]

theorem length_digits (id : Uuid) : id.digits.length = 32 := by
  have bound : id.value.toNat < 16 ^ 32 := id.value.isLt
  have short := (Nat.length_toDigits_le_iff (by decide) (by decide)).2 bound
  rw [digits, List.length_append, List.length_replicate]
  omega

theorem mapM_hexDigit? {ds : List Nat} (digits : ∀ d ∈ ds, d < 16) :
    (ds.map Nat.digitChar).mapM hexDigit? = some ds := by
  induction ds with
  | nil => rfl
  | cons d ds ih =>
    rw [List.map_cons, List.mapM_cons, hexDigit?_digitChar d (digits d (.head _)),
      ih fun e member => digits e (.tail _ member)]
    rfl

theorem ofDigits?_digits (id : Uuid) : ofDigits? id.digits = some id := by
  obtain ⟨ds, digits, written, value⟩ := id.denotes_digits
  rw [ofDigits?, if_pos id.length_digits, written, mapM_hexDigit? digits, Option.map_some]
  rw [ofValues] at value
  rw [value, BitVec.ofNat_toNat, BitVec.setWidth_eq]

def total (sizes : List Nat) : Nat := sizes.foldr (· + ·) 0

variable {sizes : List Nat} {cs : List Char}

theorem total_cons (size : Nat) (sizes : List Nat) : total (size :: sizes) = size + total sizes := rfl

theorem length_hyphenate (some : sizes ≠ []) (length : cs.length = total sizes) :
    (hyphenate sizes cs).length + 1 = total sizes + sizes.length := by
  fun_induction hyphenate sizes cs with
  | case1 => exact absurd rfl some
  | case2 size cs =>
    rw [List.length_take, length]
    simp [total]
  | case3 size sizes cs more ih =>
    rw [total_cons] at length
    have rest := ih more (by rw [List.length_drop]; omega)
    rw [List.length_append, List.length_cons, List.length_take, total_cons, List.length_cons]
    omega

theorem joinGroups?_hyphenate (some : sizes ≠ []) (length : cs.length = total sizes) :
    joinGroups? sizes (hyphenate sizes cs) = .some cs := by
  fun_induction hyphenate sizes cs with
  | case1 => exact absurd rfl some
  | case2 size cs =>
    have exactly : cs.length = size := length
    rw [List.take_of_length_le (Nat.le_of_eq exactly), joinGroups?, if_pos exactly]
  | case3 size sizes cs more ih =>
    rw [total_cons] at length
    have rest := ih more (by rw [List.length_drop]; omega)
    have front : (cs.take size).length = size := by
      rw [List.length_take]
      omega
    rw [joinGroups?, List.drop_left' front, List.take_left' front]
    · change Option.map (cs.take size ++ ·) (joinGroups? sizes _) = _
      rw [rest, Option.map_some, List.take_append_drop]
    · exact more

theorem read?_write (id : Uuid) : read? id.write = some id := by
  have length : id.digits.length = total groups := id.length_digits
  have hyphens : id.write.length + 1 = 32 + 5 := length_hyphenate (by decide) length
  have long : id.write.length ≠ 32 := by omega
  rw [read?, ofDigits?, if_neg long, ofHyphenated?, write, joinGroups?_hyphenate (by decide) length,
    Option.bind_some, ofDigits?_digits]
  rfl

end Listing.Uuid
