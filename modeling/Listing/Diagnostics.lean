import Listing.Engine.Basic
import Listing.Value.Printer

namespace Listing.Diagnostics

def record (name : String) (fields : List (String × String)) : String :=
  name ++ " \x7b " ++ String.intercalate ", " (fields.map fun (n, text) => n ++ ": " ++ text) ++ " \x7d"

def wrapped (name content : String) : String := name ++ "(" ++ content ++ ")"

def option (text : Option String) : String :=
  match text with
  | some text => wrapped "Some" text
  | none => "None"

def count (n : Nat) : String := String.ofList (Integer.decimal n)

def countOption (n : Option Nat) : String := option (n.map count)

mutual

def value : Value → String
  | .null => "Null"
  | .bool b => wrapped "Bool" (Value.boolText b)
  | .int n => wrapped "Int" (Integer.text n)
  | .float x => wrapped "Float" (Binary64.text .diagnostic x)
  | .text s => wrapped "Text" (Text.quoted s)
  | .instant t => wrapped "DateTime" (String.ofList t.diagnosticText)
  | .uuid id => wrapped "Uuid" id.text
  | .member m =>
    wrapped "Enum"
      (record "EnumValue" [("ordinal", Integer.text m.ordinal), ("name", Text.quoted m.name)])
  | .list items => wrapped "List" (Value.bracketed (values items))

def values : List Value → List String
  | [] => []
  | v :: vs => value v :: values vs

end

def step (s : Step) : String :=
  record "Hop" [("member", Text.quoted s.member), ("ty", s.type.print)]

def path (p : Path) : String :=
  record "AccessPath"
    [("record", Text.quoted p.record), ("hops", Value.bracketed (p.steps.map step))]

def comparison : Comparison → String
  | .equal => "Eq"
  | .notEqual => "Ne"
  | .greater => "Gt"
  | .greaterOrEqual => "Gte"
  | .less => "Lt"
  | .lessOrEqual => "Lte"

def inside : Inside → String
  | .element => "Element"
  | .substring => "Substring"

def expression : Predicate → String
  | .compare p c v =>
    record "Compare" [("path", path p), ("op", comparison c), ("value", value v)]
  | .contains p i v =>
    record "Contains" [("path", path p), ("needle", value v), ("mode", inside i)]
  | .oneOf p vs => record "In" [("path", path p), ("set", Value.bracketed (values vs))]

def predicate (p : Predicate) : String := wrapped "CompiledPredicate" (expression p)

def direction : Direction → String
  | .ascending => "Asc"
  | .descending => "Desc"

def sortKey (k : SortKey) : String :=
  record "CompiledOrdering"
    [("path", Text.quoted k.path.print), ("direction", direction k.direction)]

def query {α : Type} (q : Query α) : String :=
  record "MemoryQuery"
    [("source", count q.source.length), ("predicates", count q.predicates.length),
      ("orderings", count q.keys.length), ("skip", count q.skipped),
      ("take", countOption q.limit)]

def stats (s : CacheStats) : String :=
  record "CacheStats"
    [("entries", count s.entries), ("hits", count s.hits), ("misses", count s.misses)]

def cache {K V : Type} (c : Cache K V) : String :=
  record "DescriptorCache" [("bounded", Value.boolText c.isBounded), ("stats", stats c.stats)]

def rules (rs : List Coercion.Rule) : String :=
  record "ValueParser" [("strategies", count rs.length)]

def registry (r : Registry) : String :=
  record "CacheRegistry"
    [("types", Value.bracketed (r.names.map Text.quoted)), ("capacity", countOption r.capacity)]

def config (c : Config) : String :=
  record "EngineConfig"
    [("default_page", count c.defaultPage), ("default_size", count c.defaultSize),
      ("max_page_size", countOption c.maxPageSize),
      ("cache_capacity", countOption c.cacheCapacity)]

def builder (b : Builder) : String := "QueryBuilder \x7b config: " ++ config b.config ++ ", .. \x7d"

def engine (e : Engine) : String :=
  record "QueryEngine"
    [("config", config e.config), ("registry", registry e.registry), ("parser", rules e.rules)]

end Listing.Diagnostics
