import Listing.Binary64.Reader
import Listing.CompileError
import Listing.Instant.Reader

namespace Listing.Coercion

abbrev Outcome := Except CompileError Value

inductive Rule where
  | nullable
  | collection
  | enumeration
  | instant
  | uuid
  | primitive
  | custom (supports : FieldType → Bool) (convert : FieldType → Operand → Outcome)

def builtin : List Rule := [.nullable, .collection, .enumeration, .instant, .uuid, .primitive]

def add (rules : List Rule) (rule : Rule) : List Rule := rule :: rules

def Rule.supports : Rule → FieldType → Bool
  | .nullable, .optional _ => true
  | .collection, .list _ => true
  | .enumeration, .enum _ => true
  | .instant, .instant => true
  | .uuid, .uuid => true
  | .primitive, .bool => true
  | .primitive, .int => true
  | .primitive, .float => true
  | .primitive, .text => true
  | .custom supports _, target => supports target
  | _, _ => false

/-- The integer of a float without a fractional part. The float just above all integers is taken for
the greatest of them. -/
def integral? (x : Binary64) : Option Int64 :=
  x.whole?.bind fun n =>
    if -Integer.bound ≤ n ∧ n ≤ Integer.bound then some (Int64.ofInt (min n (Integer.bound - 1)))
    else none

def member? (e : EnumType) : Operand → Option EnumMember
  | .string s =>
    let name := Text.trim s.toList
    e.byName? name <|> (Integer.read? name).bind e.byOrdinal?
  | .int n => e.byOrdinal? n
  | .float x => (integral? x).bind e.byOrdinal?
  | _ => none

def instant? : Operand → Option Instant
  | .string s => Instant.read? (Text.trim s.toList)
  | .int millis => Instant.ofMillis? millis.toInt
  | _ => none

def truth? (cs : List Char) : Option Bool :=
  if Text.lowerAscii cs = ['t', 'r', 'u', 'e'] then some true
  else if Text.lowerAscii cs = ['f', 'a', 'l', 's', 'e'] then some false
  else none

def primitive? : FieldType → Operand → Option Value
  | .bool, .bool b => some (.bool b)
  | .bool, .string s => (truth? (Text.trim s.toList)).map .bool
  | .int, .int n => some (.int n)
  | .int, .float x => (integral? x).map .int
  | .int, .string s => (Integer.read? (Text.trim s.toList)).map .int
  | .float, .int n => some (.float (Value.widen n))
  | .float, .float x => some (.float x)
  | .float, .string s =>
    ((Binary64.read? (Text.trim s.toList)).filter (·.isFinite)).map .float
  | .text, .string s => some (.text s)
  | _, _ => none

def settle (operand : Operand) (target : FieldType) (refusal : Refusal) : Option Value → Outcome
  | some v => .ok v
  | none => .error (.unparsable operand target refusal)

def Rule.convert (rule : Rule) (inner : Operand → Outcome) (target : FieldType)
    (operand : Operand) : Outcome :=
  let refuse (refusal : Refusal) : Outcome := .error (.unparsable operand target refusal)
  match rule with
  | .nullable =>
    match operand, target with
    | .null, _ => .ok .null
    | _, .optional _ => inner operand
    | _, _ => refuse .notOptional
  | .collection =>
    match target with
    | .list _ =>
      match operand with
      | .array items => (items.mapM inner).map .list
      | .null => refuse .nullCollection
      | single => (inner single).map fun v => .list [v]
    | _ => refuse .notCollection
  | .enumeration =>
    match target with
    | .enum e => settle operand target (.notMember e.name) ((member? e operand).map .member)
    | _ => refuse .notEnumeration
  | .instant => settle operand target .notInstant ((instant? operand).map .instant)
  | .uuid =>
    match operand with
    | .string s =>
      let name := Text.trim s.toList
      settle operand target (.malformedUuid (Uuid.fault name)) ((Uuid.read? name).map .uuid)
    | _ => refuse .notString
  | .primitive =>
    settle operand target (.noConversion operand.kindName) (primitive? target operand)
  | .custom _ convert => convert target operand

def select (rules : List Rule) (inner : Operand → Outcome) (target : FieldType)
    (operand : Operand) : Outcome :=
  match rules.find? (·.supports target) with
  | some rule => rule.convert inner target operand
  | none => .error (.unparsable operand target .noRule)

def coerce (rules : List Rule) : FieldType → Operand → Outcome
  | .optional inner => select rules (coerce rules inner) (.optional inner)
  | .list element => select rules (coerce rules element) (.list element)
  | target => select rules (fun operand => .error (.unparsable operand target .noRule)) target

def applyRule (rules : List Rule) (rule : Rule) : FieldType → Operand → Outcome
  | .optional inner => rule.convert (coerce rules inner) (.optional inner)
  | .list element => rule.convert (coerce rules element) (.list element)
  | target => rule.convert (fun operand => .error (.unparsable operand target .noRule)) target

end Listing.Coercion
