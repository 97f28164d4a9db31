import Listing.Request.Basic
import Listing.Request.Page

namespace Listing

def Json.field (name : String) (value : Json) : List Char × Json := (Json.escape name, value)

def Operator.toJson (o : Operator) : Json := .ofString o.token

def Direction.toJson : Direction → Json
  | .ascending => .ofString "asc"
  | .descending => .ofString "desc"

namespace Request

def nestedToJson (nested : List String) : List (List Char × Json) :=
  if nested.isEmpty then [] else [Json.field "nestedPath" (.array (nested.map .ofString))]

def integerToJson (name : String) : Option Int64 → List (List Char × Json)
  | some n => [Json.field name (.ofInt n.toInt)]
  | none => []

end Request

def FilterTerm.toJson (format : NumberFormat) (t : FilterTerm) : Json :=
  .object (Json.field "property" (.ofString t.property) :: (Request.nestedToJson t.nested ++
    [Json.field "operation" t.operator.toJson, Json.field "value" (t.operand.toJson format)]))

def SortTerm.toJson (t : SortTerm) : Json :=
  .object (Json.field "property" (.ofString t.property) :: (Request.nestedToJson t.nested ++
    [Json.field "direction" t.direction.toJson]))

def Request.toJson (format : NumberFormat) (r : Request) : Json :=
  .object ([Json.field "filters" (.array (r.filters.map (·.toJson format))),
    Json.field "sorters" (.array (r.sorters.map (·.toJson)))]
      ++ integerToJson "page" r.page ++ integerToJson "size" r.size)

def Page.toJson {α : Type} (item : α → Json) (p : Page α) : Json :=
  .object [Json.field "data" (.array (p.data.map item)), Json.field "page" (.ofNat p.page),
    Json.field "size" (.ofNat p.size), Json.field "total" (.ofNat p.total),
    Json.field "totalPages" (.ofNat p.totalPages)]

end Listing
