import Listing.Request.Basic

namespace Listing

namespace Text

theorem segments_eq (mark : Char) (cs : List Char) :
    (segments mark cs).1 :: (segments mark cs).2 = cs.splitOn mark := by
  induction cs with
  | nil => rfl
  | cons c cs ih =>
    rw [List.splitOn_cons_eq_if_modifyHead, ← ih]
    by_cases marked : c = mark <;> simp [segments, marked]

theorem not_mem_segments (mark : Char) (cs : List Char) :
    ∀ s ∈ (segments mark cs).1 :: (segments mark cs).2, mark ∉ s := by
  induction cs with
  | nil => simp [segments]
  | cons c cs ih =>
    by_cases marked : c = mark
    · simpa [segments, marked] using ih
    · simpa [segments, marked, Ne.symm marked] using ih

end Text

namespace Dotted

theorem join_eq (first : String) (others : List String) :
    join first others = ".".intercalate (first :: others) := by
  induction others generalizing first with
  | nil => rfl
  | cons step others ih => exact ih (first ++ "." ++ step)

theorem toList_join (first : String) (others : List String) :
    (join first others).toList = ['.'].intercalate ((first :: others).map String.toList) := by
  rw [join_eq, String.toList_intercalate]
  rfl

theorem map_toList_split (path : String) :
    ((split path).1 :: (split path).2).map String.toList = path.toList.splitOn '.' := by
  rw [← Text.segments_eq]
  simp [split, Function.comp_def]

theorem join_split (path : String) : join (split path).1 (split path).2 = path := by
  apply String.toList_injective
  rw [toList_join, map_toList_split, List.intercalate_splitOn]

theorem not_mem_split (path : String) : ∀ step ∈ (split path).1 :: (split path).2, '.' ∉ step.toList := by
  intro step listed
  have cut : step.toList ∈ path.toList.splitOn '.' := by
    rw [← map_toList_split]
    exact List.mem_map_of_mem listed
  rw [← Text.segments_eq] at cut
  exact Text.not_mem_segments '.' path.toList _ cut

theorem split_join {first : String} {others : List String}
    (free : ∀ step ∈ first :: others, '.' ∉ step.toList) :
    split (join first others) = (first, others) := by
  have free' : ∀ s ∈ (first :: others).map String.toList, '.' ∉ s := by simpa using free
  have steps : ((split (join first others)).1 :: (split (join first others)).2).map String.toList =
      (first :: others).map String.toList := by
    rw [map_toList_split, toList_join, List.splitOn_intercalate '.' free' (by simp)]
  rw [List.map_inj_right fun _ _ => String.toList_injective] at steps
  obtain ⟨property, nested⟩ := List.cons.inj steps
  exact Prod.ext property nested

theorem split_join_iff {first : String} {others : List String} :
    split (join first others) = (first, others) ↔ ∀ step ∈ first :: others, '.' ∉ step.toList := by
  constructor
  · intro same
    have cut := not_mem_split (join first others)
    rwa [same] at cut
  · exact split_join

end Dotted

namespace FilterTerm

theorem ofPath_path_iff {t : FilterTerm} : ofPath t.path t.operator t.operand = t ↔
    ∀ step ∈ t.property :: t.nested, '.' ∉ step.toList := by
  rw [← Dotted.split_join_iff, Prod.ext_iff]
  cases t
  simp [ofPath, path]

theorem dotted_lossless :
    (∀ text operator operand, (ofPath text operator operand).path = text) ∧
    ∀ t : FilterTerm, ofPath t.path t.operator t.operand = t ↔
      ∀ step ∈ t.property :: t.nested, '.' ∉ step.toList :=
  ⟨fun text _ _ => Dotted.join_split text, fun _ => ofPath_path_iff⟩

theorem dotted_lossless_empty_steps :
    let t : FilterTerm := ⟨"a", ["", "b", ""], .compare .equal, .null⟩
    (∀ step ∈ t.property :: t.nested, '.' ∉ step.toList) ∧ t.path = "a..b." ∧
    ofPath "a..b." (.compare .equal) .null = t ∧
    ∀ text ∈ ["", ".", ".a", "a..", "a.b.c"], (ofPath text (.compare .equal) .null).path = text := by
  intro t
  have free : ∀ step ∈ t.property :: t.nested, '.' ∉ step.toList := by decide
  have written : t.path = "a..b." := rfl
  obtain ⟨back, forth⟩ := dotted_lossless
  exact ⟨free, written, (forth t).2 free, fun text _ => back text _ _⟩

end FilterTerm

end Listing
