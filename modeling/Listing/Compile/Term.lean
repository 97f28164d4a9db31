import Listing.Coercion
import Listing.Predicate
import Listing.SortKey

namespace Listing

structure Scope where
  catalog : Catalog
  schema : Schema
  rules : List Coercion.Rule

namespace Scope

def compileFilter (s : Scope) (t : FilterTerm) : Except CompileError Predicate := do
  let path ← Path.resolve s.catalog s.schema t.property t.nested
  let declared := path.leaf.type
  let target ← Predicate.operandType t.operator declared
  let value ← Coercion.coerce s.rules target t.operand
  Predicate.build t.operator path ⟨value, target⟩ declared

def compileSort (s : Scope) (t : SortTerm) : Except CompileError SortKey := do
  let path ← Path.resolve s.catalog s.schema t.property t.nested
  if path.leaf.type.isScalar then .ok ⟨path, t.direction⟩
  else .error (.incompatible .sort path.leaf.type)

end Scope

end Listing
