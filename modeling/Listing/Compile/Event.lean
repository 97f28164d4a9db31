import Listing.CompileError
import Listing.Json.Literal

namespace Listing

inductive Level where
  | info
  | debug
  | warning
  deriving DecidableEq

inductive Event where
  | registered (record : String) (members : Nat) (bounded : Bool)
  | filterFound (record path : String)
  | filterStored (record path operation : String)
  | filterDropped (record path operation : String) (error : CompileError)
  | sortFound (record path : String)
  | sortStored (record path : String)
  | sortDropped (record path : String) (error : CompileError)

namespace Event

def level : Event → Level
  | .registered .. => .info
  | .filterFound .. => .debug
  | .filterStored .. => .debug
  | .filterDropped .. => .warning
  | .sortFound .. => .debug
  | .sortStored .. => .debug
  | .sortDropped .. => .warning

def message : Event → String
  | .registered .. => "record type registered"
  | .filterFound .. => "filter cache hit"
  | .filterStored .. => "filter compiled and cached"
  | .filterDropped .. => "dropping filter descriptor"
  | .sortFound .. => "sort cache hit"
  | .sortStored .. => "sort compiled and cached"
  | .sortDropped .. => "dropping sort descriptor"

def fields : Event → List (String × Json)
  | .registered record members bounded =>
    [("record", .ofString record), ("fields", .ofNat members), ("bounded", .bool bounded)]
  | .filterFound record path => [("record", .ofString record), ("filter", .ofString path)]
  | .filterStored record path operation =>
    [("record", .ofString record), ("filter", .ofString path),
      ("operation", .ofString operation)]
  | .filterDropped record path operation error =>
    [("record", .ofString record), ("filter", .ofString path),
      ("operation", .ofString operation), ("error", .ofString error.message)]
  | .sortFound record path => [("record", .ofString record), ("sort", .ofString path)]
  | .sortStored record path => [("record", .ofString record), ("sort", .ofString path)]
  | .sortDropped record path error =>
    [("record", .ofString record), ("sort", .ofString path),
      ("error", .ofString error.message)]

end Event

end Listing
