import Listing.Path

namespace Listing

inductive Inside where
  | element
  | substring
  deriving DecidableEq

inductive Predicate where
  | compare (path : Path) (comparison : Comparison) (value : Value)
  | contains (path : Path) (inside : Inside) (needle : Value)
  | oneOf (path : Path) (candidates : List Value)

structure Constant where
  value : Value
  type : FieldType

/-- Whether a member with the given value passes. An order that is undefined passes nothing. -/
def Comparison.holds (comparison : Comparison) (actual value : Value) : Bool :=
  match comparison with
  | .equal => actual.looseEqual value
  | .notEqual => !actual.looseEqual value
  | .greater => (actual.compare? value).any (· == .gt)
  | .greaterOrEqual => (actual.compare? value).any (· != .lt)
  | .less => (actual.compare? value).any (· == .lt)
  | .lessOrEqual => (actual.compare? value).any (· != .gt)

namespace Predicate

def path : Predicate → Path
  | .compare path .. => path
  | .contains path .. => path
  | .oneOf path _ => path

def eval (p : Predicate) (record : Record) : Bool :=
  match p with
  | .compare path comparison value => comparison.holds (path.read record) value
  | .contains path .element needle => (path.read record).listContains needle
  | .contains path .substring needle => (path.read record).textContains needle
  | .oneOf path candidates => candidates.any fun v => (path.read record).looseEqual v

def incompatible {α : Type} (operator : Operator) (declared : FieldType) : Except CompileError α :=
  .error (.incompatible (.filter operator) declared)

def operandType (operator : Operator) (declared : FieldType) : Except CompileError FieldType :=
  match operator with
  | .unknown token => .error (.unsupported token)
  | .compare .equal | .compare .notEqual =>
    if declared.isScalar then .ok declared else incompatible operator declared
  | .compare _ => if declared.isOrderable then .ok declared else incompatible operator declared
  | .contains =>
    match declared.strip with
    | .list element => if element.isScalar then .ok element else incompatible operator declared
    | .text => .ok .text
    | _ => incompatible operator declared
  | .oneOf => if declared.isScalar then .ok (.list declared) else incompatible operator declared

def fits (expected actual : FieldType) : Bool :=
  match expected.strip, actual.strip with
  | .list a, .list b => a.compatible b
  | a, b => a.compatible b

def build (operator : Operator) (path : Path) (constant : Constant) (declared : FieldType) :
    Except CompileError Predicate := do
  let expected ← operandType operator declared
  if fits expected constant.type then
    match operator with
    | .unknown token => .error (.unsupported token)
    | .compare comparison => .ok (.compare path comparison constant.value)
    | .contains =>
      let inside := if declared.element?.isSome then Inside.element else Inside.substring
      .ok (.contains path inside constant.value)
    | .oneOf =>
      match constant.value with
      | .list candidates => .ok (.oneOf path candidates)
      | _ => incompatible operator declared
  else incompatible operator declared

end Predicate

end Listing
