import Listing.Proofs.Compile.Membership
import Listing.Proofs.Instant.Timestamp
import Listing.Proofs.Json.Number
import Listing.Proofs.Uuid
import Listing.Proofs.Value.Typed
import Listing.Value.Printer

namespace Listing

namespace Text

variable {cs : List Char} {c : Char}

theorem dropWhile_isBlank (visible : ∀ c ∈ cs, isBlank c = false) : cs.dropWhile isBlank = cs := by
  cases cs with
  | nil => rfl
  | cons c cs =>
    have first : isBlank c = false := visible c (.head _)
    rw [List.dropWhile_cons_of_neg (by simp [first])]

theorem trim_of_visible (visible : ∀ c ∈ cs, isBlank c = false) : trim cs = cs := by
  have backwards : ∀ c ∈ cs.reverse, isBlank c = false := fun c member =>
    visible c (List.mem_reverse.1 member)
  rw [trim, dropWhile_isBlank visible, dropWhile_isBlank backwards, List.reverse_reverse]

theorem isBlank_of_isDigit (digit : c.isDigit = true) : isBlank c = false := by
  simp only [Char.isDigit, Bool.and_eq_true, decide_eq_true_eq] at digit
  obtain ⟨low, high⟩ : 48 ≤ c.toNat ∧ c.toNat ≤ 57 := digit
  simp only [isBlank, inRanges, blankRanges, List.any_cons, List.any_nil, Bool.or_eq_false_iff,
    Bool.and_eq_false_iff, decide_eq_false_iff_not, and_true]
  omega

end Text

open Text (isBlank isBlank_of_isDigit trim_of_visible)

namespace Integer

theorem isBlank_padded {width n : Nat} : ∀ c ∈ padded width n, isBlank c = false := fun _ member =>
  isBlank_of_isDigit (isDigit_of_mem_padded member)

theorem isBlank_decimal (n : Int) : ∀ c ∈ decimal n, isBlank c = false := by
  have digits : ∀ c ∈ Nat.toDigits 10 n.natAbs, isBlank c = false := fun c member =>
    isBlank_of_isDigit ((Binary64.Numeral.areDigits_toDigits _).2 c member)
  unfold decimal
  split
  · exact List.forall_mem_cons.2 ⟨by decide, digits⟩
  · exact digits

theorem read?_decimal (n : Int64) : read? (decimal n.toInt) = some n := by
  have areDigits := Binary64.Numeral.areDigits_toDigits n.toInt.natAbs
  have digits := Binary64.Numeral.digits?_of_areDigits areDigits
  rw [Nat.ofDigitChars_ten_toDigits] at digits
  unfold decimal
  split
  case isTrue negative =>
    have value : -(n.toInt.natAbs : Int) = n.toInt := by omega
    rw [read?, digits, Option.bind_some, value, Json.fit?_toInt]
  case isFalse positive =>
    have value : (n.toInt.natAbs : Int) = n.toInt := by omega
    obtain ⟨c, cs, start⟩ := List.exists_cons_of_ne_nil areDigits.1
    have digit : c.isDigit = true := areDigits.2 c (start ▸ .head _)
    have minus : c ≠ '-' := Binary64.Numeral.ne_of_isDigit digit (by decide)
    have plus : c ≠ '+' := Binary64.Numeral.ne_of_isDigit digit (by decide)
    rw [start] at digits ⊢
    rw [read?, digits, Option.bind_some, value, Json.fit?_toInt]
    · exact fun _ h => minus (List.cons.inj h).1
    · exact fun _ h => plus (List.cons.inj h).1

end Integer

namespace Uuid

theorem mem_hyphenate {sizes : List Nat} {cs : List Char} :
    ∀ c ∈ hyphenate sizes cs, c = '-' ∨ c ∈ cs := by
  fun_induction hyphenate sizes cs with
  | case1 => simp
  | case2 => exact fun c member => .inr (List.mem_of_mem_take member)
  | case3 size sizes cs _ ih =>
    intro c member
    obtain front | behind := List.mem_append.1 member
    · exact .inr (List.mem_of_mem_take front)
    · obtain rfl | behind := List.mem_cons.1 behind
      · exact .inl rfl
      · exact (ih c behind).imp id List.mem_of_mem_drop

theorem isBlank_digitChar : ∀ d < 16, isBlank (Nat.digitChar d) = false := by decide

theorem isBlank_write (id : Uuid) : ∀ c ∈ id.write, isBlank c = false := by
  intro c member
  obtain rfl | digit := mem_hyphenate c member
  · rfl
  · obtain ⟨ds, small, written, -⟩ := id.denotes_digits
    rw [written] at digit
    obtain ⟨d, listed, rfl⟩ := List.mem_map.1 digit
    exact isBlank_digitChar d (small d listed)

end Uuid

namespace Instant

open Integer (isBlank_padded)

theorem isBlank_dateText (d : Date) : ∀ c ∈ dateText d, isBlank c = false := by
  have year : ∀ c ∈ yearText d.year, isBlank c = false := by
    unfold yearText
    split
    · exact isBlank_padded
    · refine List.forall_mem_cons.2 ⟨?_, isBlank_padded⟩
      split <;> rfl
  have hyphen : isBlank '-' = false := rfl
  simp only [dateText, List.append_assoc, List.cons_append, List.forall_mem_append,
    List.forall_mem_cons]
  exact ⟨year, hyphen, isBlank_padded, hyphen, isBlank_padded⟩

theorem isBlank_clockText (time : Clock) : ∀ c ∈ clockText time, isBlank c = false := by
  have fraction : ∀ c ∈ fractionText time.nanos, isBlank c = false := by
    obtain ⟨-, text⟩ | ⟨width, n, -, -, -, text⟩ := fractionText_cases time.nanos
    · rw [text]
      exact List.forall_mem_nil _
    · rw [text]
      exact List.forall_mem_cons.2 ⟨rfl, isBlank_padded⟩
  have colon : isBlank ':' = false := rfl
  simp only [clockText, List.append_assoc, List.cons_append, List.forall_mem_append,
    List.forall_mem_cons]
  exact ⟨isBlank_padded, colon, isBlank_padded, colon, isBlank_padded, fraction⟩

theorem isBlank_plainText (t : Instant) : ∀ c ∈ t.plainText, isBlank c = false := by
  have offset : ∀ c ∈ zone, isBlank c = false := by
    simp [zone, isBlank, Text.inRanges, Text.blankRanges]
  have mark : isBlank 'T' = false := rfl
  rw [plainText, civilText, ← zone]
  simp only [List.append_assoc, List.cons_append, List.forall_mem_append, List.forall_mem_cons]
  exact ⟨isBlank_dateText _, mark, isBlank_clockText _, offset⟩

end Instant

namespace EnumType

structure Distinct (e : EnumType) : Prop where
  trimmed : ∀ m ∈ e.members, Text.trim m.name.toList = m.name.toList
  apart : e.members.Pairwise fun a b => Text.sameIgnoringCase a.name.toList b.name.toList = false

variable {e : EnumType} {m : EnumMember}

theorem find?_name {members : List EnumMember} (member : m ∈ members)
    (apart : members.Pairwise fun a b => Text.sameIgnoringCase a.name.toList b.name.toList = false) :
    (members.find? fun a => Text.sameIgnoringCase a.name.toList m.name.toList) = some m := by
  induction members with
  | nil => cases member
  | cons a members ih =>
    obtain ⟨first, others⟩ := List.pairwise_cons.1 apart
    obtain rfl | behind := List.mem_cons.1 member
    · exact List.find?_cons_of_pos (beq_self_eq_true _)
    · rw [List.find?_cons_of_neg (by simp [first m behind]), ih behind others]

theorem Distinct.byName?_name (h : e.Distinct) (member : m ∈ e.members) :
    e.byName? m.name.toList = some m := find?_name member h.apart

end EnumType

namespace FieldType

/-- The values of a type whose texts are read again. -/
inductive Legible : FieldType → Value → Prop
  | bool (b : Bool) : Legible .bool (.bool b)
  | int (n : Int64) : Legible .int (.int n)
  | uuid (id : Uuid) : Legible .uuid (.uuid id)
  | instant {t : Instant} : t.OnClock → 0 ≤ t.date.year → t.date.year ≤ 9999 →
      Legible .instant (.instant t)
  | member {e : EnumType} {m : EnumMember} : e.Distinct → m ∈ e.members →
      Legible (.enum e) (.member m)
  | some {inner : FieldType} {v : Value} : Legible inner v → Legible (.optional inner) v

variable {declared : FieldType} {v x : Value}

theorem Legible.isScalar (h : declared.Legible v) : declared.isScalar = true := by
  induction h with
  | some _ ih => exact ih
  | _ => rfl

theorem Legible.looseEqual (h : declared.Legible v) (conforms : declared.Admits x) :
    x.looseEqual v = x.equal v := by
  induction h with
  | some inner ih =>
    cases conforms with
    | null => cases inner <;> rfl
    | some conforms => exact ih conforms
  | _ =>
    cases conforms
    rfl

end FieldType

namespace Coercion

variable {declared : FieldType} {v : Value}

theorem coerce_text (h : declared.Legible v) : coerce builtin declared (.string v.print) = .ok v := by
  induction h with
  | bool b =>
    cases b <;> rfl
  | int n =>
    rw [coerce_primitive (by decide), settle_ok, primitive?, Value.print, Integer.text,
      String.toList_ofList, trim_of_visible (Integer.isBlank_decimal _), Integer.read?_decimal]
    rfl
  | uuid id =>
    rw [coerce_uuid, settle_ok, Value.print, Uuid.text, String.toList_ofList,
      trim_of_visible id.isBlank_write, Uuid.read?_write]
    rfl
  | instant onClock low high =>
    rw [coerce_instant, settle_ok, instant?, Value.print, String.toList_ofList,
      trim_of_visible (Instant.isBlank_plainText _), Instant.read?_plainText onClock low high]
    rfl
  | member distinct member =>
    rw [coerce_enum, settle_ok, member?, Value.print, distinct.trimmed _ member, distinct.byName?_name member]
    rfl
  | some _ ih => rw [coerce_optional rfl, ih]

theorem coerce_print (h : declared.Legible v) :
    coerce builtin declared (.string v.print) = .ok v ∧
    ∀ (s : Scope) (property : String) (nested : List String) (path : Path), s.rules = builtin →
      Path.resolve s.catalog s.schema property nested = .ok path → path.leaf.type = declared →
      ∃ p, s.compileFilter ⟨property, nested, .compare .equal, .string v.print⟩ = .ok p ∧
        ∀ record, declared.Admits (path.read record) →
          (p.eval record = true ↔ (path.read record).equal v = true) := by
  refine ⟨coerce_text h, ?_⟩
  rintro s property nested path rules resolved rfl
  refine ⟨.compare path .equal v, ?_, ?_⟩
  · rw [s.compileFilter_equal rules resolved h.isScalar, coerce_text h]
    rfl
  · intro record conforms
    rw [Predicate.eval, Comparison.holds, h.looseEqual conforms]

theorem coerce_print_leap_second :
    let declared : FieldType := .optional .instant
    let s : Scope := ⟨⟨[]⟩, ⟨"Event", [⟨"At", [], declared⟩]⟩, builtin⟩
    let path : Path := ⟨"Event", [], ⟨"At", declared⟩⟩
    let second : Instant := ⟨1483228799, 123000000⟩
    let leap : Instant := ⟨1483228799, 1123000000⟩
    let held (v : Value) : Record := [("At", .value v)]
    let text := "2016-12-31T23:59:60.123+00:00"
    declared.Legible (.instant leap) ∧ Path.resolve s.catalog s.schema "At" [] = .ok path ∧
    (Value.instant leap).print = text ∧
    coerce builtin declared (.string text) = .ok (.instant leap) ∧
    ∃ p, s.compileFilter ⟨"At", [], .compare .equal, .string text⟩ = .ok p ∧
      p.eval (held (.instant leap)) = true ∧ p.eval (held (.instant second)) ≠ true ∧
      p.eval (held .null) ≠ true := by
  intro declared s path second leap held text
  have legible : declared.Legible (.instant leap) :=
    .some (.instant (.inr (by decide)) (by decide) (by decide))
  have resolved : Path.resolve s.catalog s.schema "At" [] = .ok path := rfl
  have printed : (Value.instant leap).print = text := by decide
  obtain ⟨read, compile⟩ := coerce_print legible
  rw [printed] at read compile
  obtain ⟨p, compiled, passes⟩ := compile s "At" [] path rfl resolved rfl
  refine ⟨legible, resolved, printed, read, p, compiled, ?_, ?_, ?_⟩
  · exact (passes (held (.instant leap)) (.some (.instant leap))).2 (by decide)
  · exact fun passed => absurd ((passes (held (.instant second)) (.some (.instant second))).1 passed)
      (by decide)
  · exact fun passed => absurd ((passes (held .null) .null).1 passed) (by decide)

end Coercion

end Listing
