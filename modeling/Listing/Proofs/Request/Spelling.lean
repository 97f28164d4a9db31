import Listing.Proofs.Request.Wire

namespace Listing.Json

inductive Part where
  | filter
  | sort
  | request
  deriving DecidableEq

namespace Part

def fields : Part → Fields
  | .filter => filterFields
  | .sort => sortFields
  | .request => requestFields

def items? : Part → Nat → Option Part
  | .request, 0 => some .filter
  | .request, 1 => some .sort
  | _, _ => none

abbrev Result : Part → Type
  | .filter => FilterTerm
  | .sort => SortTerm
  | .request => Request

def read (format : NumberFormat) : (p : Part) → Reader p.Result
  | .filter => readFilter format
  | .sort => readSort
  | .request => readRequest format

end Part

abbrev Members := List (List Char × Json)

def named : Fields → List Json → Members
  | names :: fields, value :: values => (escape (names.headD ""), value) :: named fields values
  | _, _ => []

/-- Two documents that differ in their spelling only. -/
inductive Respelled : Part → Json → Json → Prop
  | reorder {p : Part} {members members' : Members} : members.Perm members' →
      Respelled p (.object members) (.object members')
  | unknown {p : Part} {front back : Members} {key : List Char} {name : String} (value : Json) :
      decode? key = some name → (∀ names ∈ p.fields, name ∉ names) →
      Respelled p (.object (front ++ back)) (.object (front ++ (key, value) :: back))
  | rename {p : Part} {front back : Members} {names : List String} {key key' : List Char} {value : Json} :
      names ∈ p.fields → isNamed names key = true → isNamed names key' = true →
      Respelled p (.object (front ++ (key, value) :: back)) (.object (front ++ (key', value) :: back))
  | listed {p : Part} {values : List Json} : values.length ≤ p.fields.length →
      Respelled p (.array values) (.object (named p.fields values))
  | inMember {p inner : Part} {front back : Members} {place : Nat} {names : List String}
      {key : List Char} {before behind : List Json} {item item' : Json} :
      p.fields[place]? = some names → isNamed names key = true → p.items? place = some inner →
      Respelled inner item item' →
      Respelled p (.object (front ++ (key, .array (before ++ item :: behind)) :: back))
        (.object (front ++ (key, .array (before ++ item' :: behind)) :: back))
  | inPlace {p inner : Part} {front back before behind : List Json} {item item' : Json} :
      p.items? front.length = some inner → Respelled inner item item' →
      Respelled p (.array (front ++ .array (before ++ item :: behind) :: back))
        (.array (front ++ .array (before ++ item' :: behind) :: back))
  | refl {p : Part} (j : Json) : Respelled p j j
  | symm {p : Part} {j j' : Json} : Respelled p j j' → Respelled p j' j
  | trans {p : Part} {j j' j'' : Json} : Respelled p j j' → Respelled p j' j'' → Respelled p j j''

/-- A field is given twice, or one of a term inside. -/
inductive Doubled : Part → Json → Prop
  | twice {p : Part} {front middle back : Members} {names : List String} {key key' : List Char}
      {value value' : Json} :
      names ∈ p.fields → isNamed names key = true → isNamed names key' = true →
      Doubled p (.object (front ++ (key, value) :: (middle ++ (key', value') :: back)))
  | inMember {p inner : Part} {front back : Members} {place : Nat} {names : List String}
      {key : List Char} {before behind : List Json} {item : Json} :
      p.fields[place]? = some names → isNamed names key = true → p.items? place = some inner →
      Doubled inner item →
      Doubled p (.object (front ++ (key, .array (before ++ item :: behind)) :: back))
  | inPlace {p inner : Part} {front back before behind : List Json} {item : Json} :
      p.items? front.length = some inner → Doubled inner item →
      Doubled p (.array (front ++ .array (before ++ item :: behind) :: back))

/-! ## The values that a field is given -/

def given (names : List String) (members : Members) : List Json :=
  (members.filter fun m => isNamed names m.1).map (·.2)

def atMostOne : List Json → Option (Option Json)
  | [] => some none
  | [value] => some (some value)
  | _ => none

variable {format : NumberFormat} {p inner : Part} {fields : Fields} {names : List String}
  {front back members members' : Members} {key key' : List Char}
  {value value' j j' : Json} {place depth : Nat}

theorem field?_object (at_place : fields[place]? = some names) (members : Members) :
    field? fields place (.object members) = atMostOne (given names members) := by
  rw [field?, given, List.getD_eq_getElem?_getD, at_place, Option.getD_some]
  generalize members.filter (fun m => isNamed names m.1) = kept
  obtain _ | ⟨_, _ | ⟨_, _⟩⟩ := kept <;> rfl

theorem given_append (names : List String) (front back : Members) :
    given names (front ++ back) = given names front ++ given names back := by
  rw [given, List.filter_append, List.map_append, ← given, ← given]

theorem given_cons_of_isNamed (h : isNamed names key = true) (value : Json) (back : Members) :
    given names ((key, value) :: back) = value :: given names back := by
  simp [given, h]

theorem given_cons_of_not (h : isNamed names key = false) (value : Json) (back : Members) :
    given names ((key, value) :: back) = given names back := by
  simp [given, h]

theorem atMostOne_perm {values values' : List Json} (h : values.Perm values') :
    atMostOne values = atMostOne values' := by
  match values, values' with
  | [], _ => rw [h.nil_eq]
  | [_], _ => rw [List.singleton_perm.1 h]
  | _ :: _ :: _, [] => cases h.length_eq
  | _ :: _ :: _, [_] => cases h.length_eq
  | _ :: _ :: _, _ :: _ :: _ => rfl

theorem atMostOne_twice (before middle behind : List Json) (value value' : Json) :
    atMostOne (before ++ value :: (middle ++ value' :: behind)) = none := by
  match before, middle with
  | [], [] => rfl
  | [], _ :: _ => rfl
  | [_], _ => rfl
  | _ :: _ :: _, _ => rfl

theorem atMostOne_cases (before behind : List Json) :
    (∀ value, atMostOne (before ++ value :: behind) = none) ∨
      ∀ value, atMostOne (before ++ value :: behind) = some (some value) := by
  match before, behind with
  | [], [] => exact .inr fun _ => rfl
  | [], _ :: _ => exact .inl fun _ => rfl
  | [_], _ => exact .inl fun _ => rfl
  | _ :: _ :: _, _ => exact .inl fun _ => rfl

theorem atMostOne_toList (value : Option Json) : atMostOne value.toList = some value := by
  cases value <;> rfl

theorem isNamed_iff : isNamed names key = true ↔ ∃ name ∈ names, decode? key = some name := by
  cases decoded : decode? key <;> simp [isNamed, decoded]

/-! ## Names tell the fields apart -/

theorem Part.disjoint_fields (p : Part) : p.fields.Pairwise List.Disjoint := by
  cases p <;> simp [Part.fields, filterFields, sortFields, requestFields, List.Disjoint]

theorem Part.fields_ne_nil (p : Part) : ∀ names ∈ p.fields, names ≠ [] := by
  cases p <;> simp [Part.fields, filterFields, sortFields, requestFields]

theorem Part.exists_field (h : p.items? place = some inner) : ∃ names, p.fields[place]? = some names := by
  unfold items? at h
  split at h
  · exact ⟨_, rfl⟩
  · exact ⟨_, rfl⟩
  · cases h

theorem Part.place_unique {place' : Nat} {names' : List String} (at_place : p.fields[place]? = some names)
    (at_place' : p.fields[place']? = some names') (h : isNamed names key = true)
    (h' : isNamed names' key = true) : place = place' := by
  obtain ⟨name, listed, decoded⟩ := isNamed_iff.1 h
  obtain ⟨name', listed', decoded'⟩ := isNamed_iff.1 h'
  obtain rfl : name = name' := Option.some.inj (decoded.symm.trans decoded')
  obtain ⟨bound, rfl⟩ := List.getElem?_eq_some_iff.1 at_place
  obtain ⟨bound', rfl⟩ := List.getElem?_eq_some_iff.1 at_place'
  have apart := List.pairwise_iff_getElem.1 p.disjoint_fields
  by_contra other
  obtain less | less := Nat.lt_or_gt_of_ne other
  · exact apart _ _ bound bound' less listed listed'
  · exact apart _ _ bound' bound less listed' listed

theorem given_named_of_disjoint (some : ∀ others ∈ fields, others ≠ [])
    (disjoint : ∀ others ∈ fields, List.Disjoint names others) (values : List Json) :
    given names (named fields values) = [] := by
  induction fields generalizing values with
  | nil => rfl
  | cons others fields ih =>
    cases values with
    | nil => rfl
    | cons value values =>
      obtain ⟨name, rest, rfl⟩ := List.exists_cons_of_ne_nil (some others (.head _))
      have apart : isNamed names (escape name) = false := by
        rw [isNamed_escape, List.contains_eq_mem, decide_eq_false_iff_not]
        exact fun listed => disjoint _ (.head _) listed (.head _)
      rw [named, List.headD_cons, given_cons_of_not apart]
      exact ih (fun f member => some f (.tail _ member)) (fun f member => disjoint f (.tail _ member)) _

theorem given_named (some : ∀ names ∈ fields, names ≠ [])
    (disjoint : fields.Pairwise List.Disjoint) (at_place : fields[place]? = .some names)
    (values : List Json) : given names (named fields values) = values[place]?.toList := by
  induction fields generalizing place values with
  | nil => cases at_place
  | cons first fields ih =>
    obtain ⟨apart, rest⟩ := List.pairwise_cons.1 disjoint
    have others : ∀ names ∈ fields, names ≠ [] := fun f member => some f (.tail _ member)
    cases values with
    | nil => rfl
    | cons value values =>
      obtain ⟨name, aliases, rfl⟩ := List.exists_cons_of_ne_nil (some first (.head _))
      rw [named, List.headD_cons]
      cases place with
      | zero =>
        obtain rfl := Option.some.inj at_place
        have own : isNamed (name :: aliases) (escape name) = true := by
          rw [isNamed_escape]
          exact List.elem_cons_self
        rw [given_cons_of_isNamed own, given_named_of_disjoint others apart]
        rfl
      | succ place =>
        have other : isNamed names (escape name) = false := by
          rw [isNamed_escape, List.contains_eq_mem, decide_eq_false_iff_not]
          exact fun listed => apart names (List.mem_of_getElem? at_place) (.head _) listed
        rw [given_cons_of_not other]
        exact ih others rest at_place values

theorem isStructure_named (fields fields' : Fields) (values : List Json) :
    isStructure fields (.object (named fields' values)) = true := by
  rw [isStructure, List.all_eq_true]
  induction fields' generalizing values with
  | nil => exact List.forall_mem_nil _
  | cons names fields ih =>
    cases values with
    | nil => exact List.forall_mem_nil _
    | cons value values =>
      rintro m (_ | ⟨_, member⟩)
      · rw [decode?_escape]
        rfl
      · exact ih values m member

/-! ## Documents with the same fields -/

def SameField (format : NumberFormat) (p : Part) (place : Nat) (x y : Option (Option Json)) : Prop :=
  x = y ∨ ∃ inner v w, p.items? place = some inner ∧ x = some (some v) ∧ y = some (some w) ∧
    ∀ depth, readArray (inner.read format) depth v = readArray (inner.read format) depth w

structure SameFields (format : NumberFormat) (p : Part) (j j' : Json) : Prop where
  form : isStructure p.fields j = isStructure p.fields j'
  fields : ∀ place < p.fields.length,
    SameField format p place (field? p.fields place j) (field? p.fields place j')

theorem required_congr {α : Type} {read : Json → Option α}
    (h : field? fields place j = field? fields place j') :
    required fields place read j = required fields place read j' := by
  rw [required, required, h]

theorem defaulted_congr {α : Type} {default : α} {read : Json → Option α}
    (h : field? fields place j = field? fields place j') :
    defaulted default fields place read j = defaulted default fields place read j' := by
  rw [defaulted, defaulted, h]

theorem readArray_congr {α : Type} {read : Reader α} {before behind : List Json}
    (same : ∀ depth, read depth j = read depth j') (depth : Nat) :
    readArray read depth (.array (before ++ j :: behind)) =
      readArray read depth (.array (before ++ j' :: behind)) := by
  cases depth with
  | zero => rfl
  | succ depth =>
    rw [readArray, readArray, List.mapM_append, List.mapM_append, List.mapM_cons, List.mapM_cons,
      same depth]

namespace SameFields

theorem field_eq (h : SameFields format p j j') (place : Nat) (bound : place < p.fields.length)
    (flat : p.items? place = none) : field? p.fields place j = field? p.fields place j' := by
  obtain same | ⟨inner, v, w, nested, -⟩ := h.fields place bound
  · exact same
  · rw [flat] at nested
    cases nested

theorem defaulted_eq (h : SameFields format p j j') (place : Nat) (bound : place < p.fields.length)
    (nested : p.items? place = some inner) (default : List inner.Result) (depth : Nat) :
    defaulted default p.fields place (readArray (inner.read format) depth) j =
      defaulted default p.fields place (readArray (inner.read format) depth) j' := by
  obtain same | ⟨inner', v, w, nested', left, right, read⟩ := h.fields place bound
  · exact defaulted_congr same
  · obtain rfl := Option.some.inj (nested.symm.trans nested')
    rw [defaulted, defaulted, left, right]
    exact read depth

theorem read_eq (h : SameFields format p j j') (depth : Nat) :
    p.read format depth j = p.read format depth j' := by
  cases depth with
  | zero => cases p <;> rfl
  | succ depth =>
    have form := h.form
    cases p with
    | filter =>
      have property := h.field_eq 0 (by decide) rfl
      have nested := h.field_eq 1 (by decide) rfl
      have operator := h.field_eq 2 (by decide) rfl
      have operand := h.field_eq 3 (by decide) rfl
      simp only [Part.fields] at form property nested operator operand
      simp only [Part.read, readFilter, structure?, form, required_congr property, defaulted_congr nested,
        required_congr operator, defaulted_congr operand]
    | sort =>
      have property := h.field_eq 0 (by decide) rfl
      have nested := h.field_eq 1 (by decide) rfl
      have direction := h.field_eq 2 (by decide) rfl
      simp only [Part.fields] at form property nested direction
      simp only [Part.read, readSort, structure?, form, required_congr property, defaulted_congr nested,
        defaulted_congr direction]
    | request =>
      have filters := h.defaulted_eq 0 (by decide) rfl [] depth
      have sorters := h.defaulted_eq 1 (by decide) rfl [] depth
      have page := h.field_eq 2 (by decide) rfl
      have size := h.field_eq 3 (by decide) rfl
      simp only [Part.fields, Part.read] at form filters sorters page size
      simp only [Part.read, readRequest, structure?, form, filters, sorters, defaulted_congr page,
        defaulted_congr size]

theorem of_object (form : isStructure p.fields (.object members) = isStructure p.fields (.object members'))
    (values : ∀ place names, p.fields[place]? = some names →
      SameField format p place (atMostOne (given names members)) (atMostOne (given names members'))) :
    SameFields format p (.object members) (.object members') := by
  refine ⟨form, fun place bound => ?_⟩
  have at_place := List.getElem?_eq_getElem bound
  rw [field?_object at_place, field?_object at_place]
  exact values place _ at_place

theorem reorder (h : members.Perm members') : SameFields format p (.object members) (.object members') := by
  refine of_object (h.all_eq) fun place names _ => .inl ?_
  exact atMostOne_perm ((h.filter _).map _)

theorem unknown {name : String} (decoded : decode? key = some name)
    (other : ∀ names ∈ p.fields, name ∉ names) :
    SameFields format p (.object (front ++ back)) (.object (front ++ (key, value) :: back)) := by
  refine of_object (by simp [isStructure, decoded]) fun place names at_place => .inl ?_
  have passed : isNamed names key = false := by
    rw [isNamed, decoded, Option.any_some, List.contains_eq_mem, decide_eq_false_iff_not]
    exact other names (List.mem_of_getElem? at_place)
  rw [given_append, given_append, given_cons_of_not passed]

theorem rename (listed : names ∈ p.fields) (h : isNamed names key = true) (h' : isNamed names key' = true) :
    SameFields format p (.object (front ++ (key, value) :: back))
      (.object (front ++ (key', value) :: back)) := by
  obtain ⟨own, at_own⟩ := List.mem_iff_getElem?.1 listed
  obtain ⟨name, -, decoded⟩ := isNamed_iff.1 h
  obtain ⟨name', -, decoded'⟩ := isNamed_iff.1 h'
  refine of_object (by simp [isStructure, decoded, decoded']) fun place names' at_place => .inl ?_
  rw [given_append, given_append]
  cases match_key : isNamed names' key with
  | true =>
    obtain rfl := Part.place_unique at_own at_place h match_key
    obtain rfl := Option.some.inj (at_own.symm.trans at_place)
    rw [given_cons_of_isNamed h, given_cons_of_isNamed h']
  | false =>
    cases match_key' : isNamed names' key' with
    | true =>
      obtain rfl := Part.place_unique at_own at_place h' match_key'
      obtain rfl := Option.some.inj (at_own.symm.trans at_place)
      rw [h] at match_key
      cases match_key
    | false => rw [given_cons_of_not match_key, given_cons_of_not match_key']

theorem listed {values : List Json} (h : values.length ≤ p.fields.length) :
    SameFields format p (.array values) (.object (named p.fields values)) := by
  refine ⟨?_, fun place bound => .inl ?_⟩
  · rw [isStructure_named, isStructure, decide_eq_true h]
  · have at_place := List.getElem?_eq_getElem bound
    rw [field?_object at_place, given_named p.fields_ne_nil p.disjoint_fields at_place, atMostOne_toList]
    rfl

theorem inMember {item item' : Json} {before behind : List Json} {own : Nat}
    (at_own : p.fields[own]? = some names) (h : isNamed names key = true) (nested : p.items? own = some inner)
    (same : ∀ depth, inner.read format depth item = inner.read format depth item') :
    SameFields format p (.object (front ++ (key, .array (before ++ item :: behind)) :: back))
      (.object (front ++ (key, .array (before ++ item' :: behind)) :: back)) := by
  refine of_object (by simp [isStructure]) fun place names' at_place => ?_
  rw [given_append, given_append]
  cases match_key : isNamed names' key with
  | true =>
    obtain rfl := Part.place_unique at_own at_place h match_key
    rw [given_cons_of_isNamed match_key, given_cons_of_isNamed match_key]
    obtain none | one := atMostOne_cases (given names' front) (given names' back)
    · exact .inl ((none _).trans (none _).symm)
    · exact .inr ⟨inner, _, _, nested, one _, one _, readArray_congr same⟩
  | false =>
    left
    rw [given_cons_of_not match_key, given_cons_of_not match_key]

theorem inPlace {front back before behind : List Json} {item item' : Json}
    (nested : p.items? front.length = some inner)
    (same : ∀ depth, inner.read format depth item = inner.read format depth item') :
    SameFields format p (.array (front ++ .array (before ++ item :: behind) :: back))
      (.array (front ++ .array (before ++ item' :: behind) :: back)) := by
  refine ⟨by simp [isStructure], fun place _ => ?_⟩
  by_cases own : place = front.length
  · subst own
    have here (v : Json) : field? p.fields front.length (.array (front ++ v :: back)) = some (some v) := by
      simp [field?]
    exact .inr ⟨inner, _, _, nested, here _, here _, readArray_congr same⟩
  · refine .inl (congrArg some ?_)
    obtain less | more := Nat.lt_or_gt_of_ne own
    · rw [List.getElem?_append_left less, List.getElem?_append_left less]
    · obtain ⟨gap, rfl⟩ := Nat.exists_eq_add_of_lt more
      have behind_own : front.length + gap + 1 - front.length = gap + 1 := by omega
      rw [List.getElem?_append_right (by omega), List.getElem?_append_right (by omega), behind_own]
      rfl

end SameFields

theorem Respelled.read_eq (h : Respelled p j j') (depth : Nat) :
    p.read format depth j = p.read format depth j' := by
  induction h generalizing depth with
  | reorder perm => exact (SameFields.reorder perm).read_eq depth
  | unknown value decoded other => exact (SameFields.unknown decoded other).read_eq depth
  | rename listed h h' => exact (SameFields.rename listed h h').read_eq depth
  | listed bound => exact (SameFields.listed bound).read_eq depth
  | inMember at_own h nested _ ih => exact (SameFields.inMember at_own h nested ih).read_eq depth
  | inPlace nested _ ih => exact (SameFields.inPlace nested ih).read_eq depth
  | refl => rfl
  | symm _ ih => exact (ih depth).symm
  | trans _ _ ih ih' => exact (ih depth).trans (ih' depth)

/-! ## Fields that are given twice -/

theorem readArray_item {α : Type} {read : Reader α} {documents : List Json} {items : List α}
    (h : readArray read depth (.array documents) = some items) (member : j ∈ documents) :
    ∃ d a, read d j = some a := by
  cases depth with
  | zero => cases h
  | succ depth =>
    rw [readArray] at h
    induction documents generalizing items with
    | nil => cases member
    | cons first documents ih =>
      rw [List.mapM_cons] at h
      obtain ⟨a, head, h⟩ := Option.bind_eq_some_iff.1 h
      obtain ⟨others, tail, -⟩ := Option.bind_eq_some_iff.1 h
      obtain _ | ⟨_, member⟩ := member
      · exact ⟨depth, a, head⟩
      · exact ih member tail

def Passes (format : NumberFormat) (p : Part) (place : Nat) (x : Option (Option Json)) : Prop :=
  x ≠ none ∧ ∀ inner v, p.items? place = some inner → x = some (some v) →
    ∃ depth items, readArray (inner.read format) depth v = some items

theorem passes_flat {x : Option (Option Json)} (flat : p.items? place = none) (some : x ≠ none) :
    Passes format p place x := by
  refine ⟨some, fun inner v nested => ?_⟩
  rw [flat] at nested
  cases nested

theorem required_passes {α : Type} {read : Json → Option α} {a : α} (flat : p.items? place = none)
    (h : required fields place read j = some a) :
    Passes format p place (field? fields place j) := by
  obtain ⟨value, found, -⟩ := Option.bind_eq_some_iff.1 h
  exact passes_flat flat (by rw [found]; simp)

theorem defaulted_passes {α : Type} {default : α} {read : Json → Option α} {a : α}
    (flat : p.items? place = none) (h : defaulted default fields place read j = some a) :
    Passes format p place (field? fields place j) := by
  obtain ⟨value, found, -⟩ := Option.bind_eq_some_iff.1 h
  exact passes_flat flat (by rw [found]; simp)

theorem array_passes {default items : List inner.Result} (nested : p.items? place = some inner)
    (h : defaulted default fields place (readArray (inner.read format) depth) j = some items) :
    Passes format p place (field? fields place j) := by
  obtain ⟨value, found, read⟩ := Option.bind_eq_some_iff.1 h
  rw [found]
  refine ⟨by simp, ?_⟩
  rintro inner' v nested' ⟨⟩
  obtain rfl := Option.some.inj (nested.symm.trans nested')
  exact ⟨depth, items, read⟩

theorem read_passes {r : p.Result} (h : p.read format depth j = some r) {place : Nat}
    {names : List String} (at_place : p.fields[place]? = some names) :
    Passes format p place (field? p.fields place j) := by
  cases p with
  | filter =>
    obtain ⟨depth, rfl, fields⟩ := structure?_some h
    obtain ⟨_, property, fields⟩ := Option.bind_eq_some_iff.1 fields
    obtain ⟨_, nested, fields⟩ := Option.bind_eq_some_iff.1 fields
    obtain ⟨_, operator, fields⟩ := Option.bind_eq_some_iff.1 fields
    obtain ⟨_, operand, fields⟩ := Option.bind_eq_some_iff.1 fields
    match place, at_place with
    | 0, rfl => exact required_passes rfl property
    | 1, rfl => exact defaulted_passes rfl nested
    | 2, rfl => exact required_passes rfl operator
    | 3, rfl => exact defaulted_passes rfl operand
  | sort =>
    obtain ⟨depth, rfl, fields⟩ := structure?_some h
    obtain ⟨_, property, fields⟩ := Option.bind_eq_some_iff.1 fields
    obtain ⟨_, nested, fields⟩ := Option.bind_eq_some_iff.1 fields
    obtain ⟨_, direction, fields⟩ := Option.bind_eq_some_iff.1 fields
    match place, at_place with
    | 0, rfl => exact required_passes rfl property
    | 1, rfl => exact defaulted_passes rfl nested
    | 2, rfl => exact defaulted_passes rfl direction
  | request =>
    obtain ⟨depth, rfl, fields⟩ := structure?_some h
    obtain ⟨_, filters, fields⟩ := Option.bind_eq_some_iff.1 fields
    obtain ⟨_, sorters, fields⟩ := Option.bind_eq_some_iff.1 fields
    obtain ⟨_, page, fields⟩ := Option.bind_eq_some_iff.1 fields
    obtain ⟨_, size, fields⟩ := Option.bind_eq_some_iff.1 fields
    match place, at_place with
    | 0, rfl => exact array_passes (rfl : Part.request.items? 0 = some .filter) filters
    | 1, rfl => exact array_passes (rfl : Part.request.items? 1 = some .sort) sorters
    | 2, rfl => exact defaulted_passes rfl page
    | 3, rfl => exact defaulted_passes rfl size

theorem Passes.not_refused {before behind : List Json} {item : Json}
    (h : Passes format p place (some (some (.array (before ++ item :: behind)))))
    (nested : p.items? place = some inner) (refused : ∀ depth, inner.read format depth item = none) :
    False := by
  obtain ⟨depth, items, array⟩ := h.2 inner _ nested rfl
  obtain ⟨d, a, read⟩ := readArray_item array (List.mem_append_right _ (.head _))
  rw [refused] at read
  cases read

theorem Doubled.read_eq_none {depth : Nat} (h : Doubled p j) : p.read format depth j = none := by
  induction h generalizing depth with
  | twice listed own own' =>
    refine Option.eq_none_iff_forall_ne_some.2 fun r read => ?_
    obtain ⟨place, at_place⟩ := List.mem_iff_getElem?.1 listed
    refine (read_passes read at_place).1 ?_
    rw [field?_object at_place, given_append, given_cons_of_isNamed own, given_append,
      given_cons_of_isNamed own']
    exact atMostOne_twice _ _ _ _ _
  | @inMember p inner front back place names key before behind item at_place own nested _ ih =>
    refine Option.eq_none_iff_forall_ne_some.2 fun r read => ?_
    have passes := read_passes read at_place
    rw [field?_object at_place, given_append, given_cons_of_isNamed own] at passes
    obtain none | one := atMostOne_cases (given names front) (given names back)
    · exact passes.1 (none _)
    · rw [one] at passes
      exact passes.not_refused nested fun _ => ih
  | @inPlace p inner front back before behind item nested _ ih =>
    refine Option.eq_none_iff_forall_ne_some.2 fun r read => ?_
    obtain ⟨names, at_place⟩ := Part.exists_field nested
    have passes := read_passes read at_place
    rw [field?, List.getElem?_append_right (Nat.le_refl _), Nat.sub_self] at passes
    exact passes.not_refused nested fun _ => ih

theorem read_respelled (format : NumberFormat) (p : Part) :
    (∀ j j', Respelled p j j' → (∀ depth, p.read format depth j = p.read format depth j') ∧
      ∀ text text', read? text = some j → read? text' = some j' →
        ofText? (p.read format) text = ofText? (p.read format) text') ∧
    ∀ j, Doubled p j → (∀ depth, p.read format depth j = none) ∧
      ∀ text, read? text = some j → ofText? (p.read format) text = none := by
  refine ⟨fun j j' respelled => ⟨respelled.read_eq, fun text text' document document' => ?_⟩,
    fun j doubled => ⟨fun depth => doubled.read_eq_none, fun text document => ?_⟩⟩
  · rw [ofText?, ofText?, document, document']
    exact respelled.read_eq nestingLimit
  · rw [ofText?, document]
    exact doubled.read_eq_none

theorem read_respelled_request :
    let sorter : Json := .array [ofString "a", .array [], ofString "desc"]
    let sorter' : Json := .object [field "property" (ofString "a"), field "nestedPath" (.array []),
      field "direction" (ofString "desc")]
    let filter : Json := .object [field "value" (ofInt 1), field "property" (ofString "p"),
      field "nested" (.array [ofString "b"]), field "operation" (ofString "=")]
    let filter' : Json := .object [field "property" (ofString "p"),
      field "nestedPath" (.array [ofString "b"]), field "operation" (ofString "="), field "value" (ofInt 1)]
    let spelled : Json := .object [field "sorts" (.array [sorter]), field "x" .null,
      field "filters" (.array [filter])]
    let respelled : Json := .object [field "filters" (.array [filter']), field "sorters" (.array [sorter'])]
    let doubled : Json := .object [field "sort" (.array []), field "page" .null,
      field "sorters" (.array [])]
    Respelled .request spelled respelled ∧ Doubled .request doubled ∧
      (as? (readRequest .scaled) spelled).isSome = true ∧
      as? (readRequest .scaled) spelled = as? (readRequest .scaled) respelled ∧
      as? (readRequest .scaled) doubled = none := by
  intro sorter sorter' filter filter' spelled respelled doubled
  have term : Respelled .filter filter filter' :=
    .trans (.reorder (List.perm_append_singleton _ _).symm)
      (@Respelled.rename .filter [_] [_, _] ["nestedPath", "nested"] (escape "nested")
        (escape "nestedPath") _ (by decide) (by decide) (by decide))
  have key : Respelled .sort sorter sorter' := .listed (by decide)
  have same : Respelled .request spelled respelled := by
    refine .trans (.symm (@Respelled.unknown .request [_] [_] (escape "x") "x" .null (by decide)
      (by decide))) ?_
    refine .trans (.reorder (List.Perm.swap _ _ [])) ?_
    refine .trans (@Respelled.rename .request [_] [] ["sorters", "sorts", "sort"] (escape "sorts")
      (escape "sorters") _ (by decide) (by decide) (by decide)) ?_
    refine .trans (@Respelled.inMember .request .filter [] [_] 0 _ (escape "filters") [] [] _ _
      rfl (by decide) rfl term) ?_
    exact @Respelled.inMember .request .sort [_] [] 1 _ (escape "sorters") [] [] _ _
      rfl (by decide) rfl key
  have twice : Doubled .request doubled :=
    @Doubled.twice .request [] [_] [] ["sorters", "sorts", "sort"] (escape "sort") (escape "sorters") _ _
      (by decide) (by decide) (by decide)
  refine ⟨same, twice, by decide +kernel, ?_, ?_⟩
  · exact ((read_respelled .scaled .request).1 _ _ same).1 nestingLimit
  · exact ((read_respelled .scaled .request).2 _ twice).1 nestingLimit

end Listing.Json
