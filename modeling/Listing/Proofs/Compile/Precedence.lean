import Listing.Compile.Term
import Listing.Proofs.Path.Resolution
import Listing.Proofs.Predicate.Operand

namespace Listing.Scope

open Coercion (coerce builtin)

def Fails (compiled : Except CompileError Predicate) (kind : CompileErrorKind) : Prop :=
  ∃ e, compiled = .error e ∧ e.kind = kind

inductive Verdict (s : Scope) (t : FilterTerm) : Except CompileError Predicate → Prop
  | lost {e : CompileError} : Path.resolve s.catalog s.schema t.property t.nested = .error e →
      e.kind = .unknownProperty → Verdict s t (.error e)
  | unsupported {p : Path} {token : String} :
      Path.resolve s.catalog s.schema t.property t.nested = .ok p → t.operator = .unknown token →
      Verdict s t (.error (.unsupported token))
  | incompatible {p : Path} : Path.resolve s.catalog s.schema t.property t.nested = .ok p →
      (∀ token, t.operator ≠ .unknown token) → (∀ target, ¬t.operator.Takes p.leaf.type target) →
      Verdict s t (.error (.incompatible (.filter t.operator) p.leaf.type))
  | unread {p : Path} {target : FieldType} {e : CompileError} :
      Path.resolve s.catalog s.schema t.property t.nested = .ok p →
      t.operator.Takes p.leaf.type target → coerce builtin target t.operand = .error e →
      e.kind = .unparsable → Verdict s t (.error e)
  | built {p : Path} {target : FieldType} {v : Value} {q : Predicate} :
      Path.resolve s.catalog s.schema t.property t.nested = .ok p →
      t.operator.Takes p.leaf.type target → coerce builtin target t.operand = .ok v → Verdict s t (.ok q)

variable {s : Scope}

theorem verdict_compileFilter (rules : s.rules = builtin) (t : FilterTerm) :
    Verdict s t (s.compileFilter t) := by
  simp only [compileFilter, rules, bind, Except.bind]
  cases resolved : Path.resolve s.catalog s.schema t.property t.nested with
  | error e => exact .lost resolved (Path.kind_of_resolve resolved)
  | ok p =>
    cases typed : Predicate.operandType t.operator p.leaf.type with
    | error e =>
      obtain ⟨token, unknown, rfl⟩ | ⟨known, rfl⟩ := Predicate.operandType_error typed
      · simp only [typed]
        exact .unsupported resolved unknown
      · simp only [typed]
        refine .incompatible resolved known fun target takes => ?_
        rw [Predicate.operandType_ok_iff.2 takes] at typed
        cases typed
    | ok target =>
      have takes := Predicate.operandType_ok_iff.1 typed
      simp only [typed]
      cases read : coerce builtin target t.operand with
      | error e => exact .unread resolved takes read (Coercion.coerce_kind read)
      | ok v =>
        obtain ⟨q, built⟩ := Predicate.build_of_takes p takes read
        simp only [built]
        exact .built resolved takes read

namespace Verdict

variable {t : FilterTerm} {compiled : Except CompileError Predicate}

theorem lost_iff (h : Verdict s t compiled) : Fails compiled .unknownProperty ↔
    ¬∃ p, Path.resolve s.catalog s.schema t.property t.nested = .ok p := by
  cases h with
  | lost lost kind => simp [Fails, lost, kind]
  | unsupported found | incompatible found => simp [Fails, found, CompileError.kind]
  | unread found _ _ kind => simp [Fails, found, kind]
  | built found => simp [Fails, found]

theorem reasons (h : Verdict s t compiled) {p : Path}
    (resolved : Path.resolve s.catalog s.schema t.property t.nested = .ok p) :
    (Fails compiled .unsupported ↔ ∃ token, t.operator = .unknown token) ∧
    (Fails compiled .incompatible ↔
      (∀ token, t.operator ≠ .unknown token) ∧ ∀ target, ¬t.operator.Takes p.leaf.type target) ∧
    (Fails compiled .unparsable ↔ ∃ target, t.operator.Takes p.leaf.type target ∧
      ∃ e, coerce builtin target t.operand = .error e) ∧
    ((∃ q, compiled = .ok q) ↔ ∃ target, t.operator.Takes p.leaf.type target ∧
      ∃ v, coerce builtin target t.operand = .ok v) := by
  have taken {target : FieldType} (takes : t.operator.Takes p.leaf.type target) (P : FieldType → Prop) :
      (∃ other, t.operator.Takes p.leaf.type other ∧ P other) ↔ P target :=
    ⟨fun ⟨other, takes', h⟩ => takes.unique takes' ▸ h, fun h => ⟨target, takes, h⟩⟩
  cases h with
  | lost lost => simp [resolved] at lost
  | @unsupported _ token _ unknown =>
    have never (target : FieldType) : ¬(Operator.unknown token).Takes p.leaf.type target := nofun
    simp [Fails, CompileError.kind, unknown, never]
  | incompatible found known undefined =>
    obtain rfl := Except.ok.inj (resolved.symm.trans found)
    simp [Fails, CompileError.kind, known, undefined]
  | unread found takes read kind =>
    obtain rfl := Except.ok.inj (resolved.symm.trans found)
    have some : ∃ target, t.operator.Takes p.leaf.type target := ⟨_, takes⟩
    simp [Fails, kind, takes.known, some, taken takes, read]
  | built found takes read =>
    obtain rfl := Except.ok.inj (resolved.symm.trans found)
    have some : ∃ target, t.operator.Takes p.leaf.type target := ⟨_, takes⟩
    simp [Fails, takes.known, some, taken takes, read]

end Verdict

/-- Each reason is given exactly if none before it holds. -/
theorem compileFilter_precedence (rules : s.rules = builtin) (t : FilterTerm) :
    let compiled := s.compileFilter t
    (Fails compiled .unknownProperty ↔
      ¬∃ steps scope, Path.Leads s.catalog (some s.schema) (t.property :: t.nested) steps scope) ∧
    (∀ p, Path.resolve s.catalog s.schema t.property t.nested = .ok p →
      (Fails compiled .unsupported ↔ ∃ token, t.operator = .unknown token) ∧
      (Fails compiled .incompatible ↔
        (∀ token, t.operator ≠ .unknown token) ∧ ∀ target, ¬t.operator.Takes p.leaf.type target) ∧
      (Fails compiled .unparsable ↔ ∃ target, t.operator.Takes p.leaf.type target ∧
        ∃ e, coerce builtin target t.operand = .error e) ∧
      ((∃ q, compiled = .ok q) ↔ ∃ target, t.operator.Takes p.leaf.type target ∧
        ∃ v, coerce builtin target t.operand = .ok v)) ∧
    ∀ operator path declared target operand v, Predicate.operandType operator declared = .ok target →
      coerce builtin target operand = .ok v →
        ∃ q, Predicate.build operator path ⟨v, target⟩ declared = .ok q := by
  have verdict := verdict_compileFilter rules t
  refine ⟨?_, ?_, ?_⟩
  · rw [← Path.exists_resolve_iff]
    exact verdict.lost_iff
  · intro p resolved
    exact verdict.reasons resolved
  · intro operator path declared target operand v typed read
    exact Predicate.build_of_takes path (Predicate.operandType_ok_iff.1 typed) read

theorem compileFilter_precedence_two_faults :
    let catalog : Catalog := ⟨[[⟨"Tags", ["labels"], .optional (.list (.optional .text))⟩]]⟩
    let s : Scope := ⟨catalog, catalog.schema ⟨0, "Item"⟩, builtin⟩
    let p : Path := ⟨"Item", [], ⟨"Tags", .optional (.list (.optional .text))⟩⟩
    Path.resolve s.catalog s.schema "labels" [] = .ok p ∧
    Fails (s.compileFilter ⟨"labels", [], .compare .less, .array [.int 1]⟩) .incompatible ∧
    ∃ q, s.compileFilter ⟨"labels", [], .contains, .string "new"⟩ = .ok q := by
  intro catalog s p
  have resolved : Path.resolve s.catalog s.schema "labels" [] = .ok p := by
    dsimp only [s, catalog, p]
    rfl
  have faulty := compileFilter_precedence (s := s) rfl ⟨"labels", [], .compare .less, .array [.int 1]⟩
  have sound := compileFilter_precedence (s := s) rfl ⟨"labels", [], .contains, .string "new"⟩
  obtain ⟨-, undefined, -⟩ := faulty.2.1 p resolved
  obtain ⟨-, -, -, compiles⟩ := sound.2.1 p resolved
  refine ⟨resolved, undefined.2 ⟨nofun, ?_⟩, compiles.2 ⟨.optional .text, ?_, .text "new", rfl⟩⟩
  · intro target takes
    cases takes with
    | compare order =>
      cases order with
      | optional list => cases list
  · exact .contains (.optional (.list (.optional .text)))

end Listing.Scope
