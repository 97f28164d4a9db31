import Listing.Json.Reader
import Listing.Query.Pagination
import Listing.Request.Basic

/-!
# Requests from JSON

A structure is an object, whose other members are passed over, or an array of its fields in order, of
which the last may be left off. Some fields have several names; a field that is given twice, under
whatever names, is refused. A structure or array takes one level of the nesting that is allowed.
-/

namespace Listing.Json

def nestingLimit : Nat := 127

abbrev Reader (α : Type) := Nat → Json → Option α

/-! ## Fields of a structure -/

/-- The names of the fields of a structure, in the order in which they are declared. -/
abbrev Fields := List (List String)

def filterFields : Fields := [["property"], ["nestedPath", "nested"], ["operation"], ["value"]]

def sortFields : Fields := [["property"], ["nestedPath", "nested"], ["direction"]]

def requestFields : Fields := [["filters"], ["sorters", "sorts", "sort"], ["page"], ["size"]]

def configFields : Fields := [["defaultPage"], ["defaultSize"], ["maxPageSize"], ["cacheCapacity"]]

def pageFields : Fields := [["data"], ["page"], ["size"], ["total"], ["totalPages"]]

def isStructure (fields : Fields) : Json → Bool
  | .array items => items.length ≤ fields.length
  | .object members => members.all fun m => (decode? m.1).isSome
  | _ => false

def isNamed (names : List String) (literal : List Char) : Bool :=
  (decode? literal).any names.contains

/-- The field at a place of the array form, or under one of its names in the object form; `none` if
there are several. -/
def field? (fields : Fields) (place : Nat) : Json → Option (Option Json)
  | .array items => some items[place]?
  | .object members =>
    match members.filter fun m => isNamed (fields.getD place []) m.1 with
    | [] => some none
    | [m] => some (some m.2)
    | _ => none
  | _ => none

def required {α : Type} (fields : Fields) (place : Nat) (read : Json → Option α) (j : Json) : Option α :=
  (field? fields place j).bind fun value => value.bind read

def defaulted {α : Type} (default : α) (fields : Fields) (place : Nat) (read : Json → Option α)
    (j : Json) : Option α :=
  (field? fields place j).bind fun value =>
    match value with
    | none => some default
    | some value => read value

def structure? {α : Type} (fields : Fields) (read : Reader α) : Reader α
  | 0, _ => none
  | depth + 1, j => if isStructure fields j then read depth j else none

/-! ## Parts -/

def readText : Json → Option String
  | .text literal => decode? literal
  | _ => none

def readArray {α : Type} (read : Reader α) : Reader (List α)
  | depth + 1, .array items => items.mapM (read depth)
  | _, _ => none

def readOptional {α : Type} (read : Json → Option α) : Json → Option (Option α)
  | .null => some none
  | j => (read j).map some

def readInteger : Json → Option Int64
  | .number literal => (integer? literal).bind Integer.fit?
  | _ => none

def readCount : Json → Option Nat
  | .number literal =>
    (integer? literal).bind fun n => if 0 ≤ n ∧ n ≤ maxCount then some n.toNat else none
  | _ => none

mutual

/-- An operand: an integer where the number is one that fits, and a float otherwise. -/
def readOperand (format : NumberFormat) : Nat → Json → Option Operand
  | _, .null => some .null
  | _, .bool b => some (.bool b)
  | _, .number literal =>
    match (integer? literal).bind Integer.fit? with
    | some n => some (.int n)
    | none => (format.read? literal).map .float
  | _, .text literal => (decode? literal).map .string
  | 0, .array _ => none
  | depth + 1, .array items => (readOperands format depth items).map .array
  | _, .object _ => none

def readOperands (format : NumberFormat) : Nat → List Json → Option (List Operand)
  | _, [] => some []
  | depth, j :: js => do
    let operand ← readOperand format depth j
    let operands ← readOperands format depth js
    some (operand :: operands)

end

def directionNames : List (String × Direction) := [
  ("asc", .ascending), ("ascending", .ascending), ("ASC", .ascending), ("Asc", .ascending),
  ("Ascending", .ascending), ("desc", .descending), ("descending", .descending),
  ("DESC", .descending), ("Desc", .descending), ("Descending", .descending)]

def directionNamed? (name : String) : Option Direction := directionNames.lookup name

def readDirection : Nat → Json → Option Direction
  | _, .text literal => (decode? literal).bind directionNamed?
  | _ + 1, .object [(name, .null)] => (decode? name).bind directionNamed?
  | _, _ => none

def readOperator (j : Json) : Option Operator := (readText j).map Operator.ofToken

/-! ## Structures -/

def readFilter (format : NumberFormat) : Reader FilterTerm := structure? filterFields fun depth j => do
  let property ← required filterFields 0 readText j
  let nested ← defaulted [] filterFields 1 (readArray (fun _ => readText) depth) j
  let operator ← required filterFields 2 readOperator j
  let operand ← defaulted .null filterFields 3 (readOperand format depth) j
  some ⟨property, nested, operator, operand⟩

def readSort : Reader SortTerm := structure? sortFields fun depth j => do
  let property ← required sortFields 0 readText j
  let nested ← defaulted [] sortFields 1 (readArray (fun _ => readText) depth) j
  let direction ← defaulted .ascending sortFields 2 (readDirection depth) j
  some ⟨property, nested, direction⟩

def readRequest (format : NumberFormat) : Reader Request := structure? requestFields fun depth j => do
  let filters ← defaulted [] requestFields 0 (readArray (readFilter format) depth) j
  let sorters ← defaulted [] requestFields 1 (readArray readSort depth) j
  let page ← defaulted none requestFields 2 (readOptional readInteger) j
  let size ← defaulted none requestFields 3 (readOptional readInteger) j
  some ⟨filters, sorters, page, size⟩

def readConfig : Reader Config := structure? configFields fun _ j => do
  let page ← defaulted Config.default.defaultPage configFields 0 readCount j
  let size ← defaulted Config.default.defaultSize configFields 1 readCount j
  let maxSize ← defaulted Config.default.maxPageSize configFields 2 (readOptional readCount) j
  let capacity ← defaulted Config.default.cacheCapacity configFields 3 (readOptional readCount) j
  some ⟨page, size, maxSize, capacity⟩

def readPage {α : Type} (read : Reader α) : Reader (Page α) := structure? pageFields fun depth j => do
  let data ← required pageFields 0 (readArray read depth) j
  let page ← required pageFields 1 readCount j
  let size ← required pageFields 2 readCount j
  let total ← required pageFields 3 readCount j
  let totalPages ← required pageFields 4 readCount j
  some ⟨data, page, size, total, totalPages⟩

/-! ## Documents -/

def as? {α : Type} (read : Reader α) (document : Json) : Option α := read nestingLimit document

def ofText? {α : Type} (read : Reader α) (text : String) : Option α :=
  (read? text).bind (as? read)

end Listing.Json
