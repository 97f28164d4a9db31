import Listing.Cache
import Listing.Compile.Event
import Listing.Compile.Term

namespace Listing

/-- A compiled term with the number of the miss that it was compiled at. Of one cache, two are the
same object exactly if the numbers are equal. -/
structure Compiled (V : Type) where
  form : V
  serial : Nat

structure Compiler (K V : Type) where
  compile : K → Except CompileError V
  found : K → Event
  stored : K → Event
  dropped : K → CompileError → Event

structure Run (K V α : Type) where
  result : α
  cache : Cache K (Compiled V)
  events : List Event

namespace Compiler

variable {K V : Type} [BEq K]

def fetch (c : Compiler K V) (cache : Cache K (Compiled V)) (term : K) :
    Run K V (Except CompileError (Compiled V)) :=
  match cache.get term with
  | (some compiled, cache) => ⟨.ok compiled, cache, [c.found term]⟩
  | (none, cache) =>
    match c.compile term with
    | .ok form =>
      let compiled := ⟨form, cache.misses⟩
      ⟨.ok compiled, cache.insert term compiled, [c.stored term]⟩
    | .error error => ⟨.error error, cache, []⟩

def fetchAll (c : Compiler K V) (cache : Cache K (Compiled V)) :
    List K → Run K V (List (K × Except CompileError (Compiled V)))
  | [] => ⟨[], cache, []⟩
  | term :: terms =>
    let head := c.fetch cache term
    let tail := c.fetchAll head.cache terms
    ⟨(term, head.result) :: tail.result, tail.cache, head.events ++ tail.events⟩

def attempt (c : Compiler K V) (cache : Cache K (Compiled V)) (term : K) :
    Run K V (Except CompileError (Compiled V)) :=
  let run := c.fetch cache term
  match run.result with
  | .ok _ => run
  | .error error => { run with events := run.events ++ [c.dropped term error] }

def next (c : Compiler K V) (cache : Cache K (Compiled V)) :
    List K → Run K V (Option (Compiled V × List K))
  | [] => ⟨none, cache, []⟩
  | term :: terms =>
    let head := c.attempt cache term
    match head.result with
    | .ok compiled => ⟨some (compiled, terms), head.cache, head.events⟩
    | .error _ =>
      let tail := c.next head.cache terms
      { tail with events := head.events ++ tail.events }

def pull (c : Compiler K V) (cache : Cache K (Compiled V)) :
    Nat → List K → Run K V (List (Compiled V))
  | 0, _ => ⟨[], cache, []⟩
  | count + 1, terms =>
    let head := c.next cache terms
    match head.result with
    | none => ⟨[], head.cache, head.events⟩
    | some (compiled, terms) =>
      let tail := c.pull head.cache count terms
      ⟨compiled :: tail.result, tail.cache, head.events ++ tail.events⟩

def drain (c : Compiler K V) (cache : Cache K (Compiled V)) (terms : List K) :
    Run K V (List (Compiled V)) :=
  c.pull cache terms.length terms

end Compiler

namespace Scope

def filters (s : Scope) : Compiler FilterTerm Predicate where
  compile := s.compileFilter
  found t := .filterFound s.schema.name t.path
  stored t := .filterStored s.schema.name t.path t.operator.token
  dropped t error := .filterDropped s.schema.name t.path t.operator.token error

def sorts (s : Scope) : Compiler SortTerm SortKey where
  compile := s.compileSort
  found t := .sortFound s.schema.name t.path
  stored t := .sortStored s.schema.name t.path
  dropped t error := .sortDropped s.schema.name t.path error

end Scope

end Listing
