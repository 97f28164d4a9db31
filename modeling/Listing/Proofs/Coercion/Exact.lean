import Listing.Proofs.Binary64.Exact
import Listing.Proofs.Coercion.Builtin
import Listing.Proofs.Outcome

/-!
# Numbers that are read as integers

A number is read as an integer, or as the member of an enumeration with this ordinal, only if it is this
integer (`coerce_keeps`), on its own or as an item of arrays. A float that is no integer of 64 bits is
refused (`coerce_refuses`). The one exception is the float next above these integers, which is read as the
greatest of them, so that reading is exact unless this float is accepted (`coerce_integral_exact`).
-/

namespace Listing

namespace Operand

def number? : Operand → Option ℚ
  | .int n => some n.toInt
  | .float x => if x.isFinite then some x.toRat else none
  | _ => none

mutual

def leaves : Operand → List Operand
  | .array items => leavesOfItems items
  | operand => [operand]

def leavesOfItems : List Operand → List Operand
  | [] => []
  | operand :: operands => leaves operand ++ leavesOfItems operands

end

theorem leaves_of_ne_array {operand : Operand} (h : ∀ items, operand ≠ .array items) :
    operand.leaves = [operand] := by
  cases operand with
  | array items => exact absurd rfl (h items)
  | _ => rfl

end Operand

namespace Value

def integer? : Value → Option Int64
  | .int n => some n
  | .member m => some m.ordinal
  | _ => none

mutual

def leaves : Value → List Value
  | .list items => leavesOfItems items
  | value => [value]

def leavesOfItems : List Value → List Value
  | [] => []
  | value :: values => leaves value ++ leavesOfItems values

end

end Value

namespace FieldType

def core : FieldType → FieldType
  | .optional inner => inner.core
  | .list element => element.core
  | type => type

def IsIntegral (type : FieldType) : Prop := type.core = .int ∨ ∃ e, type.core = .enum e

end FieldType

namespace Coercion

/-- What becomes of a number as an integer. -/
def Keeps (q : ℚ) (n : Int64) : Prop := q = n.toInt ∨ q = 2 ^ 63 ∧ n = Int64.maxValue

def Reads (operand : Operand) (value : Value) : Prop :=
  ∀ q, operand.number? = some q → ∃ n, value.integer? = some n ∧ Keeps q n

theorem integral?_eq_some_iff {x : Binary64} {n : Int64} :
    integral? x = some n ↔ x.isFinite = true ∧ Keeps x.toRat n := by
  have low := n.le_toInt
  have high := n.toInt_lt
  unfold integral? Keeps Integer.bound
  simp only [Option.bind_eq_some_iff, Binary64.whole?_eq_some_iff, Option.ite_none_right_eq_some,
    Option.some_inj]
  constructor
  · rintro ⟨k, ⟨finite, value⟩, ⟨above, below⟩, rfl⟩
    refine ⟨finite, ?_⟩
    obtain rfl | less : k = 2 ^ 63 ∨ k < 2 ^ 63 := by omega
    · exact .inr ⟨by rw [value]; norm_num, rfl⟩
    · rw [value, Int.min_eq_left (by omega), Int64.toInt_ofInt_of_le above less]
      exact .inl rfl
  · rintro ⟨finite, same | ⟨top, rfl⟩⟩
    · refine ⟨n.toInt, ⟨finite, same⟩, by omega, ?_⟩
      rw [Int.min_eq_left (by omega), Int64.ofInt_toInt]
    · exact ⟨2 ^ 63, ⟨finite, by rw [top]; norm_num⟩, by omega, rfl⟩

/-! ## One number -/

theorem byOrdinal?_ordinal {e : EnumType} {n : Int64} {m : EnumMember}
    (h : e.byOrdinal? n = some m) : m.ordinal = n :=
  eq_of_beq (List.find?_some h :)

theorem reads_float {x : Binary64} {n : Int64} {v : Value} (h : integral? x = some n)
    (value : v.integer? = some n) : Reads (.float x) v := by
  obtain ⟨finite, keeps⟩ := integral?_eq_some_iff.1 h
  intro q number
  rw [Operand.number?, if_pos finite] at number
  cases number
  exact ⟨_, value, keeps⟩

theorem reads_int {n : Int64} {v : Value} (value : v.integer? = some n) : Reads (.int n) v := by
  intro q number
  cases number
  exact ⟨_, value, .inl rfl⟩

theorem primitive?_reads {operand : Operand} {v : Value} (h : primitive? .int operand = some v) :
    (∃ n, v = .int n) ∧ Reads operand v := by
  cases operand with
  | int n =>
    cases h
    exact ⟨⟨n, rfl⟩, reads_int rfl⟩
  | float x =>
    obtain ⟨n, whole, rfl⟩ := Option.map_eq_some_iff.1 h
    exact ⟨⟨n, rfl⟩, reads_float whole rfl⟩
  | string s =>
    obtain ⟨n, -, rfl⟩ := Option.map_eq_some_iff.1 h
    exact ⟨⟨n, rfl⟩, by rintro q ⟨⟩⟩
  | null | bool _ | array _ => cases h

theorem member?_reads {e : EnumType} {operand : Operand} {m : EnumMember}
    (h : member? e operand = some m) : Reads operand (.member m) := by
  cases operand with
  | int n =>
    have ordinal := byOrdinal?_ordinal h
    exact reads_int (by rw [Value.integer?, ordinal])
  | float x =>
    obtain ⟨n, whole, found⟩ := Option.bind_eq_some_iff.1 h
    have ordinal := byOrdinal?_ordinal found
    exact reads_float whole (by rw [Value.integer?, ordinal])
  | string s =>
    rintro q ⟨⟩
  | null | bool _ | array _ => cases h

/-! ## Numbers in arrays -/

theorem reads_leaves_single {operand : Operand} {v : Value} (array : ∀ items, operand ≠ .array items)
    (list : v.leaves = [v]) (h : Reads operand v) :
    List.Forall₂ Reads operand.leaves v.leaves := by
  rw [Operand.leaves_of_ne_array array, list]
  exact .cons h .nil

theorem reads_leavesOfItems {items : List Operand} {vs : List Value}
    (h : List.Forall₂ (fun item v => List.Forall₂ Reads item.leaves v.leaves) items vs) :
    List.Forall₂ Reads (Operand.leavesOfItems items) (Value.leavesOfItems vs) := by
  induction h with
  | nil => exact .nil
  | cons head _ tail => exact List.rel_append head tail

theorem coerce_keeps {target : FieldType} (integral : target.IsIntegral) {operand : Operand} {v : Value}
    (h : coerce builtin target operand = .ok v) :
    List.Forall₂ Reads operand.leaves v.leaves := by
  induction target generalizing operand v with
  | optional inner ih =>
    cases operand with
    | null =>
      cases h
      exact .cons (by rintro q ⟨⟩) .nil
    | _ =>
      rw [coerce_optional rfl] at h
      exact ih integral h
  | list element ih =>
    cases operand with
    | null => cases h
    | array items =>
      rw [coerce_list_array, map_ok_iff] at h
      obtain ⟨vs, read, rfl⟩ := h
      exact reads_leavesOfItems ((mapM_ok_iff.1 read).imp fun _ _ => ih integral)
    | _ =>
      rw [coerce_list_single rfl (by simp), map_ok_iff] at h
      obtain ⟨w, read, rfl⟩ := h
      rw [Value.leaves, Value.leavesOfItems, Value.leavesOfItems, List.append_nil]
      exact ih integral read
  | int =>
    rw [coerce_primitive (by simp), settle_ok] at h
    obtain ⟨⟨n, rfl⟩, reads⟩ := primitive?_reads h
    cases operand with
    | array items => cases h
    | _ => exact reads_leaves_single (by simp) rfl reads
  | enum e =>
    rw [coerce_enum, settle_ok] at h
    obtain ⟨m, found, rfl⟩ := Option.map_eq_some_iff.1 h
    cases operand with
    | array items => cases found
    | _ => exact reads_leaves_single (by simp) rfl (member?_reads found)
  | _ => simp [FieldType.IsIntegral, FieldType.core] at integral

/-! ## Refusal -/

theorem not_keeps {q : ℚ} (other : (∀ n : Int, q ≠ n) ∨ q < -2 ^ 63 ∨ 2 ^ 63 < q) (n : Int64) :
    ¬ Keeps q n := by
  have low : (-2 ^ 63 : ℚ) ≤ n.toInt := by exact_mod_cast n.le_toInt
  have high : (n.toInt : ℚ) < 2 ^ 63 := by exact_mod_cast n.toInt_lt
  rintro (rfl | ⟨rfl, -⟩)
  · rcases other with fractional | less | greater
    · exact fractional _ rfl
    · linarith
    · linarith
  · rcases other with fractional | less | greater
    · exact fractional (2 ^ 63) (by norm_num)
    · norm_num at less
    · exact lt_irrefl _ greater

theorem coerce_refuses {target : FieldType} (integral : target.IsIntegral) {operand : Operand}
    {x : Binary64} (listed : .float x ∈ operand.leaves) (finite : x.isFinite = true)
    (other : (∀ n : Int, x.toRat ≠ n) ∨ x.toRat < -2 ^ 63 ∨ 2 ^ 63 < x.toRat) :
    ∃ e, coerce builtin target operand = .error e ∧ e.kind = .unparsable := by
  cases h : coerce builtin target operand with
  | error e => exact ⟨e, rfl, coerce_kind h⟩
  | ok v =>
    obtain ⟨w, -, reads⟩ := exists_of_mem_left (coerce_keeps integral h) listed
    obtain ⟨n, -, keeps⟩ := reads x.toRat (if_pos finite)
    exact absurd keeps (not_keeps other n)

/-! ## Acceptance -/

theorem coerce_int_float {x : Binary64} (finite : x.isFinite = true) {n : Int64} :
    coerce builtin .int (.float x) = .ok (.int n) ↔ Keeps x.toRat n := by
  rw [coerce_primitive (by simp), settle_ok, primitive?, Option.map_eq_some_iff]
  simp [integral?_eq_some_iff, finite]

theorem coerce_enum_float {x : Binary64} (finite : x.isFinite = true) {e : EnumType}
    {m : EnumMember} : coerce builtin (.enum e) (.float x) = .ok (.member m) ↔
      e.byOrdinal? m.ordinal = some m ∧ Keeps x.toRat m.ordinal := by
  rw [coerce_enum, settle_ok, member?]
  simp only [Option.map_eq_some_iff, Option.bind_eq_some_iff, integral?_eq_some_iff, finite, true_and]
  constructor
  · rintro ⟨_, ⟨n, keeps, found⟩, ⟨⟩⟩
    rw [byOrdinal?_ordinal found]
    exact ⟨found, keeps⟩
  · rintro ⟨found, keeps⟩
    exact ⟨m, ⟨_, keeps, found⟩, rfl⟩

/-! ## Exactness -/

def ReadsExactly (operand : Operand) (value : Value) : Prop :=
  ∀ q, operand.number? = some q → ∃ n, value.integer? = some n ∧ q = n.toInt

structure Exact (target : FieldType) (operand : Operand) : Prop where
  reads {v : Value} : coerce builtin target operand = .ok v →
    List.Forall₂ ReadsExactly operand.leaves v.leaves
  refuses {x : Binary64} : .float x ∈ operand.leaves → x.isFinite = true →
    (∀ n : Int, x.toRat ≠ n) ∨ x.toRat < -2 ^ 63 ∨ 2 ^ 63 ≤ x.toRat →
    ∃ e, coerce builtin target operand = .error e ∧ e.kind = .unparsable

theorem float_of_number? {operand : Operand} (h : operand.number? = some (2 ^ 63)) :
    ∃ x, operand = .float x ∧ x.isFinite = true ∧ x.toRat = 2 ^ 63 := by
  cases operand with
  | int n =>
    have top : (n.toInt : ℚ) = 2 ^ 63 := Option.some.inj h
    have below : (n.toInt : ℚ) < 2 ^ 63 := by exact_mod_cast n.toInt_lt
    exact absurd top below.ne
  | float x =>
    obtain ⟨finite, value⟩ := Option.ite_none_right_eq_some.1 h
    exact ⟨x, rfl, finite, Option.some.inj value⟩
  | null | bool _ | string _ | array _ => cases h

theorem Reads.exactly {operand : Operand} {v : Value} (h : Reads operand v)
    (inside : operand.number? ≠ some (2 ^ 63)) : ReadsExactly operand v := by
  intro q number
  obtain ⟨n, value, same | ⟨rfl, -⟩⟩ := h q number
  · exact ⟨n, value, same⟩
  · exact absurd number inside

theorem Exact.of_inside {target : FieldType} (integral : target.IsIntegral) {operand : Operand}
    (inside : ∀ v, coerce builtin target operand = .ok v →
      ∀ o ∈ operand.leaves, o.number? ≠ some (2 ^ 63)) : Exact target operand where
  reads {v} read := by
    have pairs := (List.forall₂_and_left _ _).2 ⟨inside v read, coerce_keeps integral read⟩
    exact pairs.imp fun _ _ pair => pair.2.exactly pair.1
  refuses {x} listed finite other := by
    cases h : coerce builtin target operand with
    | error e => exact ⟨e, rfl, coerce_kind h⟩
    | ok v =>
      have number : (Operand.float x).number? = some x.toRat := if_pos finite
      have apart : x.toRat ≠ 2 ^ 63 := by
        rintro top
        exact inside v h _ listed (by rw [number, top])
      rw [← h]
      apply coerce_refuses integral listed finite
      rcases other with fractional | less | greater
      · exact .inl fractional
      · exact .inr (.inl less)
      · exact .inr (.inr (lt_of_le_of_ne greater apart.symm))

theorem Exact.inside {target : FieldType} {operand : Operand} (h : Exact target operand) {v : Value}
    (read : coerce builtin target operand = .ok v) {o : Operand} (listed : o ∈ operand.leaves) :
    o.number? ≠ some (2 ^ 63) := by
  intro top
  obtain ⟨x, rfl, finite, value⟩ := float_of_number? top
  obtain ⟨e, fails, -⟩ := h.refuses listed finite (.inr (.inr value.ge))
  rw [read] at fails
  cases fails

theorem coerce_integral_exact {target : FieldType} (integral : target.IsIntegral) (operand : Operand) :
    (Exact target operand ↔ ∀ v, coerce builtin target operand = .ok v →
      ∀ o ∈ operand.leaves, o.number? ≠ some (2 ^ 63)) ∧
    ∀ v, coerce builtin target operand = .ok v → List.Forall₂ Reads operand.leaves v.leaves := by
  refine ⟨⟨?_, Exact.of_inside integral⟩, fun v read => coerce_keeps integral read⟩
  intro exact v read o listed
  exact exact.inside read listed

theorem coerce_integral_exact_array :
    let target : FieldType := .list (.optional .int)
    let operand (last : Binary64) : Operand := .array [.int 3, .null, .float last]
    let inside : Binary64 := ⟨0x4340000000000000⟩
    let beyond : Binary64 := ⟨0x43f0000000000000⟩
    target.IsIntegral ∧ inside.isFinite = true ∧ inside.toRat = 2 ^ 53 ∧ beyond.toRat = 2 ^ 64 ∧
      coerce builtin target (operand inside) =
        .ok (.list [.int 3, .null, .int 9007199254740992]) ∧
      Exact target (operand inside) ∧
      ∃ e, coerce builtin target (operand beyond) = .error e ∧ e.kind = .unparsable := by
  intro target operand inside beyond
  have integral : target.IsIntegral := .inl rfl
  have whole : Binary64.whole? ⟨0x4340000000000000⟩ = some (2 ^ 53) := rfl
  have whole' : Binary64.whole? ⟨0x43f0000000000000⟩ = some (2 ^ 64) := rfl
  have value : inside.toRat = 2 ^ 53 := by exact_mod_cast (Binary64.whole?_eq_some_iff.1 whole).2
  have value' : beyond.toRat = 2 ^ 64 := by exact_mod_cast (Binary64.whole?_eq_some_iff.1 whole').2
  have read : coerce builtin target (operand inside) =
      .ok (.list [.int 3, .null, .int 9007199254740992]) := by
    dsimp only [target, operand, inside]
    rfl
  have small (last : Binary64) (apart : last.toRat ≠ 2 ^ 63) :
      ∀ o ∈ (operand last).leaves, o.number? ≠ some (2 ^ 63) := by
    rintro o listed top
    obtain ⟨x, rfl, -, edge⟩ := float_of_number? top
    simp only [operand, Operand.leaves, Operand.leavesOfItems, List.cons_append, List.nil_append,
      List.mem_cons, List.not_mem_nil, or_false, reduceCtorEq, false_or, Operand.float.injEq] at listed
    rw [listed] at edge
    exact apart edge
  have exactly (last : Binary64) (apart : last.toRat ≠ 2 ^ 63) : Exact target (operand last) :=
    (coerce_integral_exact integral (operand last)).1.2 fun _ _ => small last apart
  have listed : .float beyond ∈ (operand beyond).leaves := .tail _ (.tail _ (.head _))
  have refused := (exactly beyond (by rw [value']; norm_num)).refuses listed (by decide)
    (.inr (.inr (by rw [value']; norm_num)))
  exact ⟨integral, by decide, value, value', read, exactly inside (by rw [value]; norm_num), refused⟩

theorem coerce_beyond_range :
    let x : Binary64 := ⟨0x43e0000000000000⟩
    let last : EnumMember := ⟨9223372036854775807, "Last"⟩
    let edges : EnumType := ⟨"Edges", [last]⟩
    x.isFinite = true ∧ x.toRat = 2 ^ 63 ∧
      coerce builtin .int (.float x) = .ok (.int 9223372036854775807) ∧
      coerce builtin (.enum edges) (.float x) = .ok (.member last) ∧
      ¬ Exact .int (.float x) ∧ ¬ Exact (.enum edges) (.float x) := by
  intro x last edges
  have whole : Binary64.whole? ⟨0x43e0000000000000⟩ = some (2 ^ 63) := rfl
  have value : x.toRat = 2 ^ 63 := by exact_mod_cast (Binary64.whole?_eq_some_iff.1 whole).2
  have finite : x.isFinite = true := by decide
  have int : coerce builtin .int (.float x) = .ok (.int 9223372036854775807) :=
    (coerce_int_float finite).2 (.inr ⟨value, rfl⟩)
  have enum : coerce builtin (.enum edges) (.float x) = .ok (.member last) :=
    (coerce_enum_float finite).2 ⟨rfl, .inr ⟨value, rfl⟩⟩
  have number : (Operand.float x).number? = some (2 ^ 63) := by
    rw [Operand.number?, if_pos finite, value]
  refine ⟨finite, value, int, enum, ?_, ?_⟩
  · intro exact
    exact exact.inside int (.head _) number
  · intro exact
    exact exact.inside enum (.head _) number

end Coercion

end Listing
