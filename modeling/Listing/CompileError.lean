import Listing.Operand
import Listing.Operator
import Listing.Schema.FieldType

namespace Listing

inductive Usage where
  | filter (operator : Operator)
  | sort
  deriving DecidableEq

inductive Refusal where
  | noRule
  | notOptional
  | notCollection
  | nullCollection
  | notEnumeration
  | notMember (enumeration : String)
  | notInstant
  | notString
  | malformedUuid (fault : Uuid.Fault)
  | noConversion (kind : String)
  | custom (reason : String)
  deriving DecidableEq

inductive CompileError where
  | unknownProperty (record property : String)
  | unparsable (operand : Operand) (target : FieldType) (refusal : Refusal)
  | incompatible (usage : Usage) (declared : FieldType)
  | unsupported (token : String)

inductive CompileErrorKind where
  | unknownProperty
  | unparsable
  | incompatible
  | unsupported
  deriving DecidableEq

def CompileError.kind : CompileError → CompileErrorKind
  | .unknownProperty .. => .unknownProperty
  | .unparsable .. => .unparsable
  | .incompatible .. => .incompatible
  | .unsupported .. => .unsupported

def Usage.text : Usage → String
  | .filter operator => operator.token
  | .sort => "sort"

def Refusal.message : Refusal → String
  | .noRule => "no parse strategy for target type"
  | .notOptional => "expected an optional target"
  | .notCollection => "expected a collection target"
  | .nullCollection => "null is not a collection"
  | .notEnumeration => "expected an enum target"
  | .notMember enumeration => "not a member of " ++ enumeration
  | .notInstant => "not a recognized date-time"
  | .notString => "expected a string"
  | .malformedUuid fault => fault.message
  | .noConversion kind => kind ++ " does not convert"
  | .custom reason => reason

def CompileError.message : CompileError → String
  | .unknownProperty record property => "unknown property '" ++ property ++ "' on " ++ record
  | .unparsable operand target refusal =>
    "cannot parse " ++ operand.print ++ " as " ++ target.print ++ ": " ++ refusal.message
  | .incompatible usage declared =>
    "operation '" ++ usage.text ++ "' is not defined for " ++ declared.print
  | .unsupported token => "unsupported operation '" ++ token ++ "'"

end Listing
