import Listing.Predicate
import Listing.SortKey
import Listing.Proofs.Path.Resolution

namespace Listing

namespace Path

inductive Holds (leaf : Step) : Record → List Step → Value → Prop
  | here {record : Record} {v : Value} :
      record.lookup leaf.member = some (.value v) → Holds leaf record [] v
  | on {record members : Record} {step : Step} {steps : List Step} {v : Value} :
      record.lookup step.member = some (.record members) → Holds leaf members steps v →
      Holds leaf record (step :: steps) v

inductive Strays (leaf : Step) : Record → List Step → Prop
  | noLeaf {record : Record} : record.lookup leaf.member = none → Strays leaf record []
  | nestedLeaf {record members : Record} :
      record.lookup leaf.member = some (.record members) → Strays leaf record []
  | missing {record : Record} {step : Step} {steps : List Step} :
      record.lookup step.member = none → Strays leaf record (step :: steps)
  | value {record : Record} {step : Step} {steps : List Step} {v : Value} :
      record.lookup step.member = some (.value v) → Strays leaf record (step :: steps)
  | on {record members : Record} {step : Step} {steps : List Step} :
      record.lookup step.member = some (.record members) → Strays leaf members steps →
      Strays leaf record (step :: steps)

/-- The records hold the same at each of the steps; of nested records, only what the steps go on to counts. -/
inductive Agree : List Step → Record → Record → Prop
  | done (a b : Record) : Agree [] a b
  | same {a b : Record} {step : Step} {steps : List Step} :
      a.lookup step.member = b.lookup step.member → Agree (step :: steps) a b
  | nested {a b insideA insideB : Record} {step : Step} {steps : List Step} :
      a.lookup step.member = some (.record insideA) →
      b.lookup step.member = some (.record insideB) → Agree steps insideA insideB →
      Agree (step :: steps) a b

variable {record a b : Record} {leaf : Step} {parents : List Step} {p : Path} {v : Value}

theorem Holds.readFrom_eq (h : Holds leaf record parents v) : readFrom record leaf parents = v := by
  induction h with
  | here found => simp only [readFrom, found]
  | on found _ ih => simp only [readFrom, found, ih]

theorem Strays.readFrom_eq (h : Strays leaf record parents) : readFrom record leaf parents = .null := by
  induction h with
  | on found _ ih => simp only [readFrom, found, ih]
  | _ found => simp only [readFrom, found]

theorem holds_or_strays (leaf : Step) (record : Record) (parents : List Step) :
    (∃ v, Holds leaf record parents v) ∨ Strays leaf record parents := by
  induction parents generalizing record with
  | nil =>
    cases found : record.lookup leaf.member with
    | none => exact .inr (.noLeaf found)
    | some node =>
      cases node with
      | value v => exact .inl ⟨v, .here found⟩
      | record members => exact .inr (.nestedLeaf found)
  | cons parent parents ih =>
    cases found : record.lookup parent.member with
    | none => exact .inr (.missing found)
    | some node =>
      cases node with
      | value v => exact .inr (.value found)
      | record members =>
        rcases ih members with ⟨v, holds⟩ | strays
        · exact .inl ⟨v, .on found holds⟩
        · exact .inr (.on found strays)

theorem Holds.not_strays (h : Holds leaf record parents v) : ¬ Strays leaf record parents := by
  intro strays
  induction h with
  | here found =>
    cases strays with
    | noLeaf other => cases found.symm.trans other
    | nestedLeaf other => cases found.symm.trans other
  | on found _ ih =>
    cases strays with
    | missing other => cases found.symm.trans other
    | value other => cases found.symm.trans other
    | on other strays =>
      cases found.symm.trans other
      exact ih strays

theorem exists_holds_iff :
    (∃ v, Holds p.leaf record p.parents v) ↔ ¬ Strays p.leaf record p.parents := by
  constructor
  · rintro ⟨v, holds⟩
    exact holds.not_strays
  · intro follows
    exact (holds_or_strays p.leaf record p.parents).resolve_right follows

theorem read_eq_iff : p.read record = v ↔
    Holds p.leaf record p.parents v ∨ Strays p.leaf record p.parents ∧ v = .null := by
  constructor
  · rintro rfl
    rcases holds_or_strays p.leaf record p.parents with ⟨v, holds⟩ | strays
    · left
      rwa [read, holds.readFrom_eq]
    · exact .inr ⟨strays, strays.readFrom_eq⟩
  · rintro (holds | ⟨strays, rfl⟩)
    · exact holds.readFrom_eq
    · exact strays.readFrom_eq

theorem Agree.readFrom_eq (h : Agree (parents ++ [leaf]) a b) :
    readFrom a leaf parents = readFrom b leaf parents := by
  induction parents generalizing a b with
  | nil =>
    cases h with
    | same found => simp only [readFrom, found]
    | nested foundA foundB => simp only [readFrom, foundA, foundB]
  | cons parent parents ih =>
    cases h with
    | same found => simp only [readFrom, found]
    | nested foundA foundB inside => simp only [readFrom, foundA, foundB, ih inside]

theorem Agree.read_eq (h : Agree p.steps a b) : p.read a = p.read b := h.readFrom_eq

end Path

theorem Predicate.eval_congr {test : Predicate} {a b : Record}
    (h : test.path.read a = test.path.read b) : test.eval a = test.eval b := by
  cases test with
  | compare path comparison value => exact congrArg (comparison.holds · value) h
  | contains path inside needle =>
    cases inside with
    | element => exact congrArg (·.listContains needle) h
    | substring => exact congrArg (·.textContains needle) h
  | oneOf path candidates => exact congrArg (fun actual => candidates.any actual.looseEqual) h

theorem SortKey.compare_congr {key : SortKey} {a a' b b' : Record}
    (left : key.path.read a = key.path.read a') (right : key.path.read b = key.path.read b') :
    key.compare a b = key.compare a' b' := by
  simp only [compare, SortKey.key, left, right]

namespace Path

theorem read_exact (p : Path) (record : Record) :
    (∀ v, p.read record = v ↔
      Holds p.leaf record p.parents v ∨ Strays p.leaf record p.parents ∧ v = .null) ∧
    ((∃ v, Holds p.leaf record p.parents v) ↔ ¬ Strays p.leaf record p.parents) ∧
    -- positions among the steps come to the same
    readAt? p.steps record 0 = some (p.read record) ∧
    ∀ other, Agree p.steps record other →
      p.read record = p.read other ∧
      (∀ test : Predicate, test.path = p → test.eval record = test.eval other) ∧
      ∀ key : SortKey, key.path = p → ∀ a b, Agree p.steps a b →
        key.compare record a = key.compare other b := by
  refine ⟨fun _ => read_eq_iff, exists_holds_iff, readAt?_steps p record, ?_⟩
  intro other agree
  refine ⟨agree.read_eq, ?_, ?_⟩
  · rintro test rfl
    exact Predicate.eval_congr agree.read_eq
  · rintro key rfl a b agree'
    exact SortKey.compare_congr agree.read_eq agree'.read_eq

theorem read_exact_elsewhere :
    let p : Path := ⟨"Row", [⟨"a", .record ⟨1, "A"⟩⟩, ⟨"b", .record ⟨2, "B"⟩⟩], ⟨"c", .int⟩⟩
    let record : Record := [("a", .record [("b", .record [("c", .value (.int 7))])])]
    let other : Record := [("x", .value .null), ("a", .record [("c", .value (.int 1)),
      ("b", .record [("x", .record []), ("c", .value (.int 7))])])]
    let short : Record := [("a", .record [("b", .value .null)])]
    let deep : Record := [("a", .record [("b", .record [("c", .record [("c", .value (.int 7))])])])]
    Agree p.steps record other ∧ p.read record = .int 7 ∧ p.read short = .null ∧ p.read deep = .null ∧
    (Predicate.compare p .greater (.int 6)).eval other = true ∧
    SortKey.compare ⟨p, .descending⟩ other short = .lt := by
  intro p record other short deep
  have agree : Agree p.steps record other := .nested rfl rfl (.nested rfl rfl (.same rfl))
  have self : Agree p.steps short short := .same rfl
  obtain ⟨reads, -, -, same⟩ := read_exact p record
  obtain ⟨-, tests, keys⟩ := same other agree
  refine ⟨agree, (reads (.int 7)).2 (.inl (.on rfl (.on rfl (.here rfl)))), ?_, ?_, ?_, ?_⟩
  · exact ((read_exact p short).1 .null).2 (.inr ⟨.on rfl (.value rfl), rfl⟩)
  · exact ((read_exact p deep).1 .null).2 (.inr ⟨.on rfl (.on rfl (.nestedLeaf rfl)), rfl⟩)
  · rw [← tests (.compare p .greater (.int 6)) rfl]
    decide
  · rw [← keys ⟨p, .descending⟩ rfl short short self]
    decide

end Path

end Listing
