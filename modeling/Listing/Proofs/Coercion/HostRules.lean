import Mathlib.Data.List.Induction
import Listing.Proofs.Coercion.Builtin

/-!
# Rules of the host program

A host program adds rules of its own, one after another. Wherever a conversion comes to a type, the rule
added last of those that support it converts, and a built-in one only if none of them does: `Converts` says
what comes out then, and `coerce_latest` that this is what `coerce` returns. A rule for none of the types
that are under the target changes nothing.
-/

namespace Listing

/-- A rule that does not come back to the other rules. -/
structure HostRule where
  supports : FieldType → Bool
  convert : FieldType → Operand → Coercion.Outcome

def FieldType.layers : FieldType → List FieldType
  | .optional inner => .optional inner :: inner.layers
  | .list element => .list element :: element.layers
  | type => [type]

def FieldType.isLayer : FieldType → Bool
  | .optional _ => true
  | .list _ => true
  | _ => false

namespace Coercion

def extend (hosts : List HostRule) : List Rule :=
  hosts.foldl (fun rules h => add rules (.custom h.supports h.convert)) builtin

def Latest (hosts : List HostRule) (type : FieldType) (h : HostRule) : Prop :=
  ∃ before after, hosts = before ++ h :: after ∧ h.supports type = true ∧
    ∀ g ∈ after, g.supports type = false

def Unclaimed (hosts : List HostRule) (type : FieldType) : Prop :=
  ∀ h ∈ hosts, h.supports type = false

/-- A conversion in which the rule for each type that it comes to is the one added last. -/
inductive Converts (hosts : List HostRule) : FieldType → Operand → Outcome → Prop
  | host {type : FieldType} {operand : Operand} {h : HostRule} :
      Latest hosts type h → Converts hosts type operand (h.convert type operand)
  | null {inner : FieldType} :
      Unclaimed hosts (.optional inner) → Converts hosts (.optional inner) .null (.ok .null)
  | present {inner : FieldType} {operand : Operand} {out : Outcome} :
      Unclaimed hosts (.optional inner) → operand.isNull = false → Converts hosts inner operand out →
      Converts hosts (.optional inner) operand out
  | nullList {element : FieldType} : Unclaimed hosts (.list element) →
      Converts hosts (.list element) .null (.error (.unparsable .null (.list element) .nullCollection))
  | array {element : FieldType} {items : List Operand} {out : Operand → Outcome} :
      Unclaimed hosts (.list element) → (∀ item ∈ items, Converts hosts element item (out item)) →
      Converts hosts (.list element) (.array items) ((items.mapM out).map .list)
  | single {element : FieldType} {operand : Operand} {out : Outcome} :
      Unclaimed hosts (.list element) → operand.isNull = false → (∀ items, operand ≠ .array items) →
      Converts hosts element operand out →
      Converts hosts (.list element) operand (out.map fun v => .list [v])
  | scalar {type : FieldType} {operand : Operand} :
      Unclaimed hosts type → type.isLayer = false →
      Converts hosts type operand (coerce builtin type operand)

variable {hosts : List HostRule} {type inner element : FieldType} {operand : Operand}

theorem extend_concat (hosts : List HostRule) (h : HostRule) :
    extend (hosts ++ [h]) = .custom h.supports h.convert :: extend hosts := by
  rw [extend, List.foldl_concat]
  rfl

theorem find?_extend_append (hosts others : List HostRule)
    (unclaimed : ∀ g ∈ others, g.supports type = false) :
    (extend (hosts ++ others)).find? (·.supports type) = (extend hosts).find? (·.supports type) := by
  induction others using List.reverseRecOn with
  | nil => rw [List.append_nil]
  | append_singleton others g ih =>
    obtain ⟨before, last⟩ := List.forall_mem_append.1 unclaimed
    have passed : (Rule.custom g.supports g.convert).supports type = false :=
      last g (.head _)
    rw [← List.append_assoc, extend_concat, List.find?_cons_of_neg (by rw [passed]; decide)]
    exact ih before

theorem find?_of_unclaimed (h : Unclaimed hosts type) :
    (extend hosts).find? (·.supports type) = builtin.find? (·.supports type) :=
  find?_extend_append [] hosts h

theorem find?_of_latest {h : HostRule} (latest : Latest hosts type h) :
    (extend hosts).find? (·.supports type) = some (.custom h.supports h.convert) := by
  obtain ⟨before, after, rfl, supported, unclaimed⟩ := latest
  rw [List.append_cons, find?_extend_append _ after unclaimed, extend_concat]
  exact List.find?_cons_of_pos supported

theorem unclaimed_or_latest (hosts : List HostRule) (type : FieldType) :
    Unclaimed hosts type ∨ ∃ h, Latest hosts type h := by
  induction hosts using List.reverseRecOn with
  | nil => exact .inl fun h member => nomatch member
  | append_singleton hosts g ih =>
    cases supported : g.supports type with
    | true => exact .inr ⟨g, hosts, [], rfl, supported, fun f member => nomatch member⟩
    | false =>
      obtain unclaimed | ⟨h, before, after, rfl, own, rest⟩ := ih
      · exact .inl (List.forall_mem_append.2 ⟨unclaimed, List.forall_mem_singleton.2 supported⟩)
      · refine .inr ⟨h, before, after ++ [g], by simp, own, ?_⟩
        exact List.forall_mem_append.2 ⟨rest, List.forall_mem_singleton.2 supported⟩

theorem select_congr {rules others : List Rule} {convert : Operand → Outcome}
    (same : rules.find? (·.supports type) = others.find? (·.supports type)) (operand : Operand) :
    select rules convert type operand = select others convert type operand := by
  rw [select, select, same]

theorem coerce_congr {rules others : List Rule}
    (same : ∀ layer ∈ type.layers,
      rules.find? (·.supports layer) = others.find? (·.supports layer)) :
    coerce rules type = coerce others type := by
  funext operand
  induction type generalizing operand with
  | optional inner ih =>
    have inside := funext (ih fun layer member => same layer (.tail _ member))
    rw [coerce, coerce, inside]
    exact select_congr (same _ (.head _)) operand
  | list element ih =>
    have inside := funext (ih fun layer member => same layer (.tail _ member))
    rw [coerce, coerce, inside]
    exact select_congr (same _ (.head _)) operand
  | _ => exact select_congr (same _ (.head _)) operand

theorem coerce_add {rules : List Rule} {rule : Rule}
    (unsupported : ∀ layer ∈ type.layers, rule.supports layer = false) :
    coerce (add rules rule) type = coerce rules type := by
  refine coerce_congr fun layer member => ?_
  exact List.find?_cons_of_neg (by rw [unsupported layer member]; decide)

theorem select_of_find? {rules : List Rule} {rule : Rule}
    (found : rules.find? (·.supports type) = some rule) (convert : Operand → Outcome)
    (operand : Operand) :
    select rules convert type operand = rule.convert convert type operand := by
  rw [select, found]

theorem coerce_of_latest {h : HostRule} (latest : Latest hosts type h) (operand : Operand) :
    coerce (extend hosts) type operand = h.convert type operand := by
  have found := find?_of_latest latest
  cases type <;> exact select_of_find? found _ operand

theorem coerce_extend_optional (h : Unclaimed hosts (.optional inner)) (operand : Operand) :
    coerce (extend hosts) (.optional inner) operand =
      Rule.nullable.convert (coerce (extend hosts) inner) (.optional inner) operand :=
  select_of_find? (find?_of_unclaimed h) _ operand

theorem coerce_extend_list (h : Unclaimed hosts (.list element)) (operand : Operand) :
    coerce (extend hosts) (.list element) operand =
      Rule.collection.convert (coerce (extend hosts) element) (.list element) operand :=
  select_of_find? (find?_of_unclaimed h) _ operand

theorem coerce_extend_scalar (h : Unclaimed hosts type) (scalar : type.isLayer = false)
    (operand : Operand) : coerce (extend hosts) type operand = coerce builtin type operand := by
  have same := find?_of_unclaimed h
  cases type with
  | optional inner => cases scalar
  | list element => cases scalar
  | _ => exact select_congr same operand

theorem Converts.coerce_eq {out : Outcome} (h : Converts hosts type operand out) :
    coerce (extend hosts) type operand = out := by
  induction h with
  | host latest => exact coerce_of_latest latest _
  | null unclaimed => rw [coerce_extend_optional unclaimed]; rfl
  | @present inner operand out unclaimed some _ ih =>
    rw [coerce_extend_optional unclaimed, ← ih]
    cases operand with
    | null => cases some
    | _ => rfl
  | nullList unclaimed => rw [coerce_extend_list unclaimed]; rfl
  | array unclaimed _ ih =>
    rw [coerce_extend_list unclaimed, ← mapM_congr ih]
    rfl
  | @single element operand out unclaimed some single _ ih =>
    rw [coerce_extend_list unclaimed, ← ih]
    cases operand with
    | null => cases some
    | array items => exact absurd rfl (single items)
    | _ => rfl
  | scalar unclaimed scalar => exact coerce_extend_scalar unclaimed scalar _

theorem converts_of_unclaimed
    (h : Unclaimed hosts type → Converts hosts type operand (coerce (extend hosts) type operand)) :
    Converts hosts type operand (coerce (extend hosts) type operand) := by
  obtain unclaimed | ⟨g, latest⟩ := unclaimed_or_latest hosts type
  · exact h unclaimed
  · rw [coerce_of_latest latest]
    exact .host latest

theorem converts_coerce (hosts : List HostRule) (type : FieldType) (operand : Operand) :
    Converts hosts type operand (coerce (extend hosts) type operand) := by
  induction type generalizing operand with
  | optional inner ih =>
    refine converts_of_unclaimed fun unclaimed => ?_
    rw [coerce_extend_optional unclaimed]
    cases operand with
    | null => exact .null unclaimed
    | _ => exact .present unclaimed rfl (ih _)
  | list element ih =>
    refine converts_of_unclaimed fun unclaimed => ?_
    rw [coerce_extend_list unclaimed]
    cases operand with
    | null => exact .nullList unclaimed
    | array items => exact .array unclaimed fun item _ => ih item
    | _ => exact .single unclaimed rfl (by simp) (ih _)
  | _ =>
    refine converts_of_unclaimed fun unclaimed => ?_
    rw [coerce_extend_scalar unclaimed rfl]
    exact .scalar unclaimed rfl

/-- At every type that a conversion comes to, the rule of the host program that was added last converts, of
those that support the type, and a built-in one if there is none. A rule for no type under the target
changes nothing. -/
theorem coerce_latest (hosts : List HostRule) :
    (∀ type operand out, coerce (extend hosts) type operand = out ↔ Converts hosts type operand out) ∧
    ∀ (h : HostRule) (type : FieldType), (∀ layer ∈ type.layers, h.supports layer = false) →
      ∀ operand, coerce (extend (hosts ++ [h])) type operand = coerce (extend hosts) type operand := by
  refine ⟨fun type operand out => ⟨?_, Converts.coerce_eq⟩, fun h type unsupported operand => ?_⟩
  · rintro rfl
    exact converts_coerce hosts type operand
  · rw [extend_concat]
    exact congrFun (coerce_add unsupported) operand

theorem coerce_latest_overruled :
    let first : HostRule := ⟨fun type => type = .int || type = .text, fun _ _ => .ok (.int 1)⟩
    let second : HostRule := ⟨fun type => type = .int, fun _ _ => .ok (.int 2)⟩
    let other : HostRule := ⟨fun type => type = .uuid, fun _ _ => .ok (.int 3)⟩
    let target : FieldType := .list (.optional .int)
    let operand : Operand := .array [.int 7, .null]
    (∀ layer ∈ target.layers, other.supports layer = false) ∧
      Converts [first, second] target operand (.ok (.list [.int 2, .null])) ∧
      coerce (extend ([first, second] ++ [other])) target operand = .ok (.list [.int 2, .null]) := by
  intro first second other target operand
  have unsupported : ∀ layer ∈ target.layers, other.supports layer = false := by decide
  have out : coerce (extend [first, second]) target operand = .ok (.list [.int 2, .null]) := rfl
  refine ⟨unsupported, ((coerce_latest _).1 target operand _).1 out, ?_⟩
  rw [(coerce_latest _).2 other target unsupported operand]
  exact out

end Coercion

end Listing
