import Listing.Compile.Term
import Listing.Proofs.Coercion.Alike

namespace Listing

theorem FilterTerm.beq_iff {t u : FilterTerm} : (t == u) = true ↔
    t.property = u.property ∧ t.nested = u.nested ∧ t.operator = u.operator ∧
      t.operand.alike u.operand = true := by
  change t.alike u = true ↔ _
  simp only [alike, Bool.and_eq_true, beq_iff_eq, and_assoc]
  exact Iff.rfl

instance : EquivBEq FilterTerm where
  rfl {t} := FilterTerm.beq_iff.2 ⟨rfl, rfl, rfl, t.operand.alike_refl⟩
  symm h := by
    obtain ⟨property, nested, operator, operand⟩ := FilterTerm.beq_iff.1 h
    exact FilterTerm.beq_iff.2
      ⟨property.symm, nested.symm, operator.symm, Operand.alike_symm _ _ operand⟩
  trans h h' := by
    obtain ⟨property, nested, operator, operand⟩ := FilterTerm.beq_iff.1 h
    obtain ⟨property', nested', operator', operand'⟩ := FilterTerm.beq_iff.1 h'
    exact FilterTerm.beq_iff.2 ⟨property.trans property', nested.trans nested',
      operator.trans operator', Operand.alike_trans _ _ _ operand operand'⟩

namespace Predicate

abbrev Interchangeable : Except CompileError Predicate → Except CompileError Predicate → Prop :=
  Corresponds CompileError.SameKind Equivalent

theorem interchangeable_refl (x : Except CompileError Predicate) : Interchangeable x x := by
  cases x with
  | ok p => exact .ok fun _ => rfl
  | error e => exact .error rfl

theorem build_alike {v w : Value} (h : v.Alike w) (operator : Operator) (path : Path)
    (target declared : FieldType) :
    Interchangeable (build operator path ⟨v, target⟩ declared)
      (build operator path ⟨w, target⟩ declared) := by
  unfold build
  cases operandType operator declared with
  | error e => exact .error rfl
  | ok expected =>
    simp only [bind, Except.bind]
    split
    · cases operator with
      | unknown token => exact .error rfl
      | compare c => exact .ok (compare_alike h path c)
      | contains => exact .ok (contains_alike h path _)
      | oneOf =>
        obtain rfl | ⟨x, y, rfl, rfl, -⟩ | ⟨vs, ws, rfl, rfl, items⟩ := Value.alike_inversion h
        · exact interchangeable_refl _
        · exact .error rfl
        · exact .ok (oneOf_alike items path)
    · exact .error rfl

end Predicate

namespace Scope

theorem compileFilter_alike {s : Scope} (rules : s.rules = Coercion.builtin) {t u : FilterTerm}
    (h : (t == u) = true) :
    Predicate.Interchangeable (s.compileFilter t) (s.compileFilter u) := by
  obtain ⟨property, nested, operator, operand⟩ := FilterTerm.beq_iff.1 h
  unfold compileFilter
  rw [property, nested, operator, rules]
  cases Path.resolve s.catalog s.schema u.property u.nested with
  | error e => exact .error rfl
  | ok path =>
    cases target : Predicate.operandType u.operator path.leaf.type with
    | error e => simp only [bind, Except.bind, target]; exact .error rfl
    | ok target' =>
      simp only [bind, Except.bind, target]
      exact (Coercion.coerce_alike operand target').bind fun _ _ same =>
        Predicate.build_alike same u.operator path target' path.leaf.type

theorem compileFilter_congr_key {s : Scope} (rules : s.rules = Coercion.builtin) {t u : FilterTerm}
    (h : (t == u) = true) :
    ((∃ p, s.compileFilter t = .ok p) ↔ ∃ q, s.compileFilter u = .ok q) ∧
    (∀ e e', s.compileFilter t = .error e → s.compileFilter u = .error e' → e.kind = e'.kind) ∧
    ∀ p q, s.compileFilter t = .ok p → s.compileFilter u = .ok q →
      ∀ record, p.eval record = q.eval record :=
  Corresponds.iff.1 (s.compileFilter_alike rules h)

theorem compileFilter_congr_key_arrays :
    let catalog : Catalog := ⟨[[⟨"x", [], .optional .float⟩, ⟨"n", [], .int⟩]]⟩
    let s : Scope := ⟨catalog, catalog.schema ⟨0, "Samples"⟩, Coercion.builtin⟩
    let term (property : String) (zero nan : UInt64) : FilterTerm :=
      ⟨property, [], .oneOf, .array [.float ⟨zero⟩, .float ⟨nan⟩]⟩
    let given (property : String) := term property 0 0x7ff8000000000000
    let other (property : String) := term property 0x8000000000000000 0xfff0000000000001
    let record : Record := [("x", .value (.int 0))]
    (∀ property, (given property == other property) = true) ∧
    (∃ p q, s.compileFilter (given "x") = .ok p ∧ s.compileFilter (other "x") = .ok q ∧
      p.eval record = true ∧ q.eval record = true) ∧
    ∃ e e', s.compileFilter (given "n") = .error e ∧ s.compileFilter (other "n") = .error e' ∧
      e.kind = e'.kind := by
  intro catalog s term given other record
  have same (property : String) : (given property == other property) = true :=
    FilterTerm.beq_iff.2 ⟨rfl, rfl, rfl, rfl⟩
  have congr (property : String) := compileFilter_congr_key (s := s) rfl (same property)
  refine ⟨same, ⟨_, _, rfl, rfl, rfl, ?_⟩, _, _, rfl, rfl, (congr "n").2.1 _ _ rfl rfl⟩
  exact ((congr "x").2.2 _ _ rfl rfl record).symm

end Scope

end Listing
