import Listing.Text.Case

namespace Listing

inductive Comparison where
  | equal
  | notEqual
  | greater
  | greaterOrEqual
  | less
  | lessOrEqual
  deriving DecidableEq

inductive Operator where
  | compare (comparison : Comparison)
  | contains
  | oneOf
  | unknown (token : String)
  deriving DecidableEq

namespace Operator

def spellings : List (String × Operator) := [
  ("=", .compare .equal), ("==", .compare .equal), ("eq", .compare .equal),
  ("!=", .compare .notEqual), ("<>", .compare .notEqual), ("ne", .compare .notEqual),
  ("neq", .compare .notEqual),
  (">", .compare .greater), ("gt", .compare .greater),
  (">=", .compare .greaterOrEqual), ("gte", .compare .greaterOrEqual),
  ("<", .compare .less), ("lt", .compare .less),
  ("<=", .compare .lessOrEqual), ("lte", .compare .lessOrEqual),
  ("contains", .contains), ("in", .oneOf)]

def ofToken (token : String) : Operator :=
  (spellings.lookup (String.ofList (Text.lowerAscii (Text.trim token.toList)))).getD (.unknown token)

def token : Operator → String
  | .compare .equal => "="
  | .compare .notEqual => "!="
  | .compare .greater => ">"
  | .compare .greaterOrEqual => ">="
  | .compare .less => "<"
  | .compare .lessOrEqual => "<="
  | .contains => "contains"
  | .oneOf => "in"
  | .unknown token => token

end Operator

end Listing
