import Mathlib.Algebra.Group.Nat.Defs
import Listing.Proofs.Compile.Drain
import Listing.Proofs.Query.Built

namespace Listing

variable {α : Type}

namespace Pagination

def effectiveSize (requested : Option Int64) (default : Nat) (limit : Option Nat) : Nat :=
  let size := match requested with
    | some n => if 0 < n then n.toInt.toNat else default
    | none => default
  match limit with
  | some m => min size m
  | none => size

theorem positive?_some (n : Int64) :
    positive? (some n) = if 0 < n then some n.toInt.toNat else none := by
  simp only [positive?, Option.bind_some, Int64.lt_iff_toInt_lt, Int64.toInt_zero]

theorem resolve_page {p : Int64} (h : 0 < p) (size : Option Int64) (defaultPage defaultSize : Nat)
    (limit : Option Nat) :
    (resolve (some p) size defaultPage defaultSize limit).page = p.toInt.toNat := by
  have first : 0 < p.toInt := Int64.lt_iff_toInt_lt.1 h
  unfold resolve
  rw [positive?_some, if_pos h, Option.getD_some]
  exact Nat.max_eq_right (by omega)

theorem resolve_size (page size : Option Int64) (defaultPage defaultSize : Nat) (limit : Option Nat) :
    (resolve page size defaultPage defaultSize limit).size = effectiveSize size defaultSize limit := by
  have wanted : (positive? size).getD defaultSize =
      match size with
      | some n => if 0 < n then n.toInt.toNat else defaultSize
      | none => defaultSize := by
    cases size with
    | none => rfl
    | some n =>
      rw [positive?_some]
      by_cases positive : 0 < n <;> simp only [positive, if_true, if_false] <;> rfl
  exact congrArg (fun size => match limit with | some m => min size m | none => size) wanted

theorem effectiveSize_le {size : Option Int64} {default bound : Nat} {limit : Option Nat}
    (h : bound ∈ limit) : effectiveSize size default limit ≤ bound := by
  rw [Option.mem_def.1 h]
  exact Nat.min_le_right _ _

end Pagination

namespace Query

variable [Row α]

theorem fetch_window (p : Pagination) {q : Query α} (first : q.skipped = 0) (all : q.limit = none)
    (few : q.sorted.length ≤ maxCount) :
    (Builder.window p q).fetch = (q.sorted.drop ((p.page - 1) * p.size)).take p.size := by
  have skipped : q.sorted.drop (min maxCount (0 + min maxCount ((p.page - 1) * p.size))) =
      q.sorted.drop ((p.page - 1) * p.size) := by
    rw [Nat.zero_add, drop_min_maxCount few, drop_min_maxCount few]
  rw [← skipped, ← first]
  simp only [fetch, Builder.window, Handle.take, Handle.skip, all]
  rfl

theorem total_window (p : Pagination) (q : Query α) : (Builder.window p q).total = q.total := rfl

end Query

def Page.cut (listing : List α) (size : Nat) (number : Nat) : Page α :=
  .of ((listing.drop ((number - 1) * size)).take size) number size listing.length

namespace Page

variable {listing : List α} {size number : Nat}

theorem length_cut_le : (cut listing size number).data.length ≤ size := List.length_take_le _ _

theorem le_pagesFor_iff (h : 0 < size) (first : 0 < number) {total : Nat} :
    number ≤ pagesFor size total ↔ (number - 1) * size < total := by
  obtain _ | before := number
  · cases first
  rw [pagesFor, if_neg (Nat.ne_of_gt h), Nat.le_div_iff_mul_le h, Nat.succ_mul, Nat.add_sub_cancel]
  omega

theorem cut_nonempty_iff (first : 0 < number) : (cut listing size number).data ≠ [] ↔
    (cut listing size number).page ≤ (cut listing size number).totalPages := by
  change (listing.drop ((number - 1) * size)).take size ≠ [] ↔ number ≤ pagesFor size listing.length
  obtain rfl | sized := Nat.eq_zero_or_pos size
  · simp [pagesFor, Nat.ne_of_gt first]
  · rw [le_pagesFor_iff sized first, ne_eq, List.take_eq_nil_iff, List.drop_eq_nil_iff]
    omega

theorem pagesFor_le (h : 0 < size) (total : Nat) : pagesFor size total ≤ total := by
  rw [pagesFor, if_neg (Nat.ne_of_gt h), Nat.div_le_iff_le_mul_add_pred h]
  have scaled := Nat.le_mul_of_pos_left total h
  omega

theorem le_pagesFor_mul (h : 0 < size) (total : Nat) : total ≤ pagesFor size total * size := by
  rw [pagesFor, if_neg (Nat.ne_of_gt h)]
  have rest := Nat.mod_lt (total + size - 1) h
  have parts := Nat.div_add_mod (total + size - 1) size
  rw [Nat.mul_comm] at parts
  omega

theorem flatMap_cut (listing : List α) (size count : Nat) :
    (List.range count).flatMap (fun i => (cut listing size (i + 1)).data) =
      listing.take (count * size) := by
  induction count with
  | zero => rw [Nat.zero_mul]; rfl
  | succ count ih =>
    rw [List.range_succ, List.flatMap_append, ih, Nat.succ_mul, List.take_add, List.flatMap_singleton]
    rfl

def numbers (count : Nat) : List Int64 := (List.range count).map fun i => Int64.ofNat (i + 1)

theorem toInt_number {count i : Nat} (h : count < 2 ^ 63) (listed : i ∈ List.range count) :
    (Int64.ofNat (i + 1)).toInt = (i + 1 : Nat) := by
  have within := List.mem_range.1 listed
  apply Int64.toInt_ofNat_of_lt
  omega

theorem map_numbers {count : Nat} (h : count < 2 ^ 63) {β : Type} (f : Nat → β) :
    ((numbers count).map fun p => f p.toInt.toNat) = (List.range count).map fun i => f (i + 1) := by
  rw [numbers, List.map_map]
  apply List.map_congr_left
  intro i listed
  rw [Function.comp_apply, toInt_number h listed, Int.toNat_natCast]

theorem numbers_pos {count : Nat} (h : count < 2 ^ 63) : ∀ p ∈ numbers count, 0 < p := by
  intro p member
  obtain ⟨i, listed, rfl⟩ := List.mem_map.1 member
  rw [Int64.lt_iff_toInt_lt, toInt_number h listed, Int64.toInt_zero]
  omega

end Page

def Request.turnTo (request : Request) (page : Int64) : Request := { request with page := some page }

namespace Builder

variable [Row α]

def turn (b : Builder) (rows : List α) (request : Request) (defaultPage defaultSize : Nat) :
    Caches → List Int64 → List (Page α)
  | _, [] => []
  | caches, p :: ps =>
    let built := b.build caches (Query.ofRows rows) (request.turnTo p) defaultPage defaultSize
    built.result.toPage (b.pagination (request.turnTo p) defaultPage defaultSize) ::
      b.turn rows request defaultPage defaultSize built.caches ps

theorem listing_build (b : Builder) (caches : Caches) (rows : List α) (request : Request) (p : Int64)
    (defaultPage defaultSize : Nat) :
    b.listing (b.build caches (Query.ofRows rows) (request.turnTo p) defaultPage defaultSize).caches
      rows request = b.listing caches rows request := by
  rw [listing_eq, listing_eq, unpaged_ofRows, unpaged_ofRows, build]
  refine Query.sorted_congr rfl ?_ fun row => ?_
  · simp only [Request.turnTo, Compiler.drain_again]
  · rw [Bool.eq_iff_iff]
    simp only [Query.passes, List.all_map, List.all_eq_true, Request.turnTo, Compiler.mem_drain_again]

theorem build_page (b : Builder) (caches : Caches) {rows : List α} (few : rows.length < 2 ^ 63)
    (request : Request) (defaultPage defaultSize : Nat) {p : Int64} (first : 0 < p) :
    (b.build caches (Query.ofRows rows) (request.turnTo p) defaultPage defaultSize).result.toPage
        (b.pagination (request.turnTo p) defaultPage defaultSize) =
      Page.cut (b.listing caches rows request)
        (Pagination.effectiveSize request.size defaultSize b.config.maxPageSize) p.toInt.toNat := by
  have same : b.unpaged caches (Query.ofRows rows) (request.turnTo p) =
      b.unpaged caches (Query.ofRows rows) request := rfl
  have counted : (b.unpaged caches (Query.ofRows rows) request).sorted.length ≤ maxCount := by
    rw [← listing_eq]
    have bound := b.length_listing_le caches rows request
    unfold maxCount
    omega
  have page : (b.pagination (request.turnTo p) defaultPage defaultSize).page = p.toInt.toNat :=
    Pagination.resolve_page first _ _ _ _
  have size : (b.pagination (request.turnTo p) defaultPage defaultSize).size =
      Pagination.effectiveSize request.size defaultSize b.config.maxPageSize :=
    Pagination.resolve_size _ _ _ _ _
  rw [build_result, same, Query.toPage, Query.total_window, Query.fetch_window _ _ _ counted, page,
    size, ← Query.length_sorted, ← listing_eq]
  · rfl
  · rw [unpaged_ofRows]
  · rw [unpaged_ofRows]

theorem turn_eq (b : Builder) (caches : Caches) {rows : List α} (few : rows.length < 2 ^ 63)
    (request : Request) (defaultPage defaultSize : Nat) {ps : List Int64} (positive : ∀ p ∈ ps, 0 < p) :
    b.turn rows request defaultPage defaultSize caches ps =
      ps.map fun p => Page.cut (b.listing caches rows request)
        (Pagination.effectiveSize request.size defaultSize b.config.maxPageSize) p.toInt.toNat := by
  induction ps generalizing caches with
  | nil => rfl
  | cons p ps ih =>
    have first := b.build_page caches few request defaultPage defaultSize (positive p (.head _))
    have later := ih (b.build caches (Query.ofRows rows) (request.turnTo p) defaultPage
      defaultSize).caches fun q member => positive q (.tail _ member)
    rw [listing_build] at later
    rw [turn, first, List.map_cons]
    exact congrArg _ later

/-- Whatever the caches hold, the pages of a request are the stretches of one listing. They are no
longer than the limit, have rows exactly up to the last one, and together are the listing. -/
theorem turn_partitions (b : Builder) (caches : Caches) {rows : List α}
    (few : rows.length < 2 ^ 63) (request : Request) (defaultPage defaultSize : Nat) :
    let size := Pagination.effectiveSize request.size defaultSize b.config.maxPageSize
    let listing := b.listing caches rows request
    let turn := b.turn rows request defaultPage defaultSize caches
    (∀ ps, (∀ p ∈ ps, 0 < p) → turn ps = ps.map fun p => .of
      ((listing.drop ((p.toInt.toNat - 1) * size)).take size) p.toInt.toNat size listing.length) ∧
    (∀ ps, (∀ p ∈ ps, 0 < p) → ∀ page ∈ turn ps,
      (∀ limit ∈ b.config.maxPageSize, page.data.length ≤ limit) ∧
      (page.data ≠ [] ↔ page.page ≤ page.totalPages)) ∧
    (0 < size →
      (turn (Page.numbers (Page.pagesFor size listing.length))).flatMap (·.data) = listing) := by
  intro size listing turn
  have windows {ps : List Int64} (positive : ∀ p ∈ ps, 0 < p) :
      turn ps = ps.map fun p => Page.cut listing size p.toInt.toNat :=
    b.turn_eq caches few request defaultPage defaultSize positive
  refine ⟨?_, ?_, ?_⟩
  · intro ps positive
    exact windows positive
  · intro ps positive page member
    rw [windows positive] at member
    obtain ⟨p, asked, rfl⟩ := List.mem_map.1 member
    have first : 0 < p.toInt := Int64.lt_iff_toInt_lt.1 (positive p asked)
    constructor
    · intro limit limited
      exact Nat.le_trans Page.length_cut_le (Pagination.effectiveSize_le limited)
    · apply Page.cut_nonempty_iff
      omega
  · intro sized
    have count : Page.pagesFor size listing.length < 2 ^ 63 := by
      have pages := Page.pagesFor_le sized listing.length
      have passing : listing.length ≤ rows.length := b.length_listing_le caches rows request
      omega
    rw [windows (Page.numbers_pos count), Page.map_numbers count (Page.cut listing size),
      List.flatMap_map]
    rw [Page.flatMap_cut, List.take_of_length_le (Page.le_pagesFor_mul sized _)]

theorem turn_partitions_five :
    let catalog : Catalog := ⟨[[⟨"n", [], .int⟩]]⟩
    let b : Builder := ⟨⟨catalog, catalog.schema ⟨0, "Numbers"⟩, Coercion.builtin⟩, .default⟩
    let rows : List Record := [3, 1, 5, 2, 4].map fun n => [("n", .value (.int n))]
    let request : Request := ⟨[], [⟨"n", [], .descending⟩], none, some 2⟩
    let pages := b.turn rows request 1 100 (.empty none) (Page.numbers 3)
    rows.length < 2 ^ 63 ∧ pages.map (·.data.length) = [2, 2, 1] ∧
      pages.flatMap (·.data) = b.listing (.empty none) rows request := by
  intro catalog b rows request pages
  have few : rows.length < 2 ^ 63 := by decide
  have count : Page.pagesFor 2 (b.listing (.empty none) rows request).length = 3 := by decide
  have together := (turn_partitions b (.empty none) few request 1 100).2.2 (by decide)
  have size : Pagination.effectiveSize request.size 100 b.config.maxPageSize = 2 := by decide
  rw [size, count] at together
  exact ⟨few, by decide, together⟩

end Builder

end Listing
