import Listing.Proofs.Compile.Served
import Listing.Proofs.Query.Built

namespace Listing

open Compiler (kept)

namespace DroppedTerm

variable {K V : Type} [BEq K] (c : Compiler K V) (kind : TermKind) (path : K → String)
  (cache : Cache K (Compiled V)) (terms : List K)

def numbered? (term : K × Nat) : Option DroppedTerm :=
  (c.failure? cache (terms.take term.2) term.1).map fun error => ⟨kind, term.2, path term.1, error⟩

/-- The terms of a list whose fetch fails when they are fetched in order. -/
def ofList : List DroppedTerm := terms.zipIdx.filterMap (numbered? c kind path cache terms)

end DroppedTerm

namespace Builder

section

variable {Q K V : Type} [BEq K] (c : Compiler K V) (kind : TermKind) (path : K → String)
  (apply : Nat → Q → V → Q) (index : Nat) (account : Account Q) (cache : Cache K (Compiled V))

def Account.enter (kind : TermKind) (path : K → String) (apply : Nat → Q → V → Q) (index : Nat)
    (account : Account Q) (term : K) : Except CompileError (Compiled V) → Account Q
  | .ok compiled =>
    ⟨apply account.applied account.handle compiled.form, account.applied + 1, account.dropped⟩
  | .error error => { account with dropped := account.dropped ++ [⟨kind, index, path term, error⟩] }

theorem applyAll_cons (term : K) (terms : List K) :
    (applyAll c kind path apply index account cache (term :: terms)).result =
        (applyAll c kind path apply (index + 1)
          (account.enter kind path apply index term (c.fetch cache term).result)
          (c.fetch cache term).cache terms).result ∧
      (applyAll c kind path apply index account cache (term :: terms)).cache =
        (applyAll c kind path apply (index + 1)
          (account.enter kind path apply index term (c.fetch cache term).result)
          (c.fetch cache term).cache terms).cache := by
  rw [← Compiler.attempt_result, ← Compiler.attempt_cache, applyAll]
  cases (c.attempt cache term).result with
  | ok compiled => exact ⟨rfl, rfl⟩
  | error e => exact ⟨rfl, rfl⟩

theorem applyAll_cache (terms : List K) :
    (applyAll c kind path apply index account cache terms).cache = (c.fetchAll cache terms).cache := by
  induction terms generalizing index account cache with
  | nil => rfl
  | cons term terms ih => rw [(applyAll_cons ..).2, ih]; rfl

theorem applyAll_handle (terms : List K) :
    (applyAll c kind path apply index account cache terms).result.handle =
      (((kept (c.fetchAll cache terms).result).map (·.form)).zipIdx account.applied).foldl
        (fun handle (form, before) => apply before handle form) account.handle := by
  induction terms generalizing index account cache with
  | nil => rfl
  | cons term terms ih =>
    rw [(applyAll_cons ..).1, ih]
    cases fetched : (c.fetch cache term).result with
    | ok compiled => rw [Compiler.kept_of_ok fetched]; rfl
    | error e => rw [Compiler.kept_of_error fetched]; rfl

theorem applyAll_count (terms : List K) :
    (applyAll c kind path apply index account cache terms).result.applied +
        (applyAll c kind path apply index account cache terms).result.dropped.length =
      account.applied + account.dropped.length + terms.length := by
  induction terms generalizing index account cache with
  | nil => rfl
  | cons term terms ih =>
    have rest := ih (index + 1)
      (account.enter kind path apply index term (c.fetch cache term).result) (c.fetch cache term).cache
    have head : (account.enter kind path apply index term (c.fetch cache term).result).applied +
        (account.enter kind path apply index term (c.fetch cache term).result).dropped.length =
          account.applied + account.dropped.length + 1 := by
      cases (c.fetch cache term).result with
      | ok compiled => exact Nat.add_right_comm _ 1 _
      | error e => rw [Account.enter, List.length_append]; rfl
    rw [(applyAll_cons ..).1, List.length_cons]
    omega

theorem applyAll_dropped (before terms : List K) :
    (applyAll c kind path apply before.length account (c.fetchAll cache before).cache
      terms).result.dropped = account.dropped ++ (terms.zipIdx before.length).filterMap
        (DroppedTerm.numbered? c kind path cache (before ++ terms)) := by
  induction terms generalizing before account with
  | nil => exact (List.append_nil _).symm
  | cons term terms ih =>
    have rest := ih (account.enter kind path apply before.length term
      (c.fetch (c.fetchAll cache before).cache term).result) (before ++ [term])
    rw [Compiler.fetchAll_concat_cache, List.length_append, List.length_singleton,
      List.append_assoc, List.singleton_append] at rest
    have head : DroppedTerm.numbered? c kind path cache (before ++ term :: terms)
        (term, before.length) =
          (error? (c.fetch (c.fetchAll cache before).cache term).result).map fun error =>
            ⟨kind, before.length, path term, error⟩ := by
      rw [DroppedTerm.numbered?, List.take_left, Compiler.fetchAll_failure]
    rw [(applyAll_cons ..).1, rest, List.zipIdx_cons, List.filterMap_cons, head]
    cases (c.fetch (c.fetchAll cache before).cache term).result with
    | ok compiled => rfl
    | error e => exact List.append_assoc _ _ _

end

section

variable {Q : Type} [Handle Q]

theorem foldl_zipIdx_filter (forms : List Predicate) (before : Nat) (handle : Q) :
    (forms.zipIdx before).foldl (fun handle (form, _) => Handle.filter handle form) handle =
      forms.foldl Handle.filter handle := by
  induction forms generalizing before handle with
  | nil => rfl
  | cons form forms ih => exact ih _ _

theorem foldl_zipIdx_thenBy (forms : List SortKey) (before : Nat) (handle : Q) :
    (forms.zipIdx (before + 1)).foldl (fun handle (form, before) =>
        if before = 0 then Handle.orderBy handle form else Handle.thenBy handle form) handle =
      forms.foldl Handle.thenBy handle := by
  induction forms generalizing before handle with
  | nil => rfl
  | cons form forms ih => exact ih _ _

theorem foldl_zipIdx_sortBy (forms : List SortKey) (handle : Q) :
    (forms.zipIdx 0).foldl (fun handle (form, before) =>
        if before = 0 then Handle.orderBy handle form else Handle.thenBy handle form) handle =
      sortBy handle forms := by
  cases forms with
  | nil => rfl
  | cons primary others => exact foldl_zipIdx_thenBy others 0 _

theorem buildWithReport_handle (b : Builder) (caches : Caches) (source : Q) (request : Request)
    (page size : Nat) : (b.buildWithReport caches source request page size).result.1 =
      (b.build caches source request page size).result := by
  have filters := (Compiler.drain_eq (c := b.scope.filters) caches.filters request.filters).1
  have sorts := (Compiler.drain_eq (c := b.scope.sorts) caches.sorts request.sorters).1
  simp only [build, buildWithReport, applyAll_handle, foldl_zipIdx_filter, foldl_zipIdx_sortBy,
    filters, sorts]

theorem buildWithReport_caches (b : Builder) (caches : Caches) (source : Q) (request : Request)
    (page size : Nat) : (b.buildWithReport caches source request page size).caches =
      (b.build caches source request page size).caches := by
  have filters := (Compiler.drain_eq (c := b.scope.filters) caches.filters request.filters).2
  have sorts := (Compiler.drain_eq (c := b.scope.sorts) caches.sorts request.sorters).2
  simp only [build, buildWithReport, applyAll_cache, filters, sorts]

end

theorem applyAll_ofList {Q K V : Type} [BEq K] (c : Compiler K V) (kind : TermKind)
    (path : K → String) (apply : Nat → Q → V → Q) (handle : Q) (cache : Cache K (Compiled V))
    (terms : List K) : (applyAll c kind path apply 0 ⟨handle, 0, []⟩ cache terms).result.dropped =
      DroppedTerm.ofList c kind path cache terms :=
  applyAll_dropped c kind path apply ⟨handle, 0, []⟩ cache [] terms

theorem applied_add_dropped {Q K V : Type} [BEq K] (c : Compiler K V) (kind : TermKind)
    (path : K → String) (apply : Nat → Q → V → Q) (handle : Q) (cache : Cache K (Compiled V))
    (terms : List K) : (applyAll c kind path apply 0 ⟨handle, 0, []⟩ cache terms).result.applied +
      (DroppedTerm.ofList c kind path cache terms).length = terms.length := by
  have count := applyAll_count c kind path apply 0 ⟨handle, 0, []⟩ cache terms
  rw [applyAll_ofList] at count
  exact count.trans (Nat.zero_add _)

theorem filter_kind_ofList {K V : Type} [BEq K] (c : Compiler K V) (kind kind' : TermKind)
    (path : K → String) (cache : Cache K (Compiled V)) (terms : List K) :
    (DroppedTerm.ofList c kind path cache terms).filter (·.kind == kind') =
      if kind = kind' then DroppedTerm.ofList c kind path cache terms else [] := by
  have kinds : ∀ term ∈ DroppedTerm.ofList c kind path cache terms, term.kind = kind := by
    intro term listed
    obtain ⟨numbered, -, h⟩ := List.mem_filterMap.1 listed
    obtain ⟨e, -, rfl⟩ := Option.map_eq_some_iff.1 h
    rfl
  split
  · apply List.filter_eq_self.2
    intro term listed
    rw [kinds term listed]
    exact beq_iff_eq.2 ‹_›
  · apply List.filter_eq_nil_iff.2
    intro term listed
    rw [kinds term listed]
    exact fun same => ‹¬_› (beq_iff_eq.1 same)

theorem ofList_of_respects {K V : Type} [BEq K] {c : Compiler K V} {same : V → V → Prop}
    (respects : c.Respects same) {cache : Cache K (Compiled V)}
    (sound : c.HoldsCompiling cache) (kind : TermKind) (path : K → String)
    (terms : List K) : DroppedTerm.ofList c kind path cache terms =
      terms.zipIdx.filterMap fun (term, index) =>
        (error? (c.compile term)).map fun error => ⟨kind, index, path term, error⟩ := by
  unfold DroppedTerm.ofList
  congr 1
  funext term
  rw [DroppedTerm.numbered?, Compiler.failure?_of_respects respects sound]

variable {Q : Type} [Handle Q] (b : Builder) (caches : Caches) (source : Q) (request : Request)
  (page size : Nat)

theorem report_dropped : (b.buildWithReport caches source request page size).result.2.dropped =
    DroppedTerm.ofList b.scope.filters .filter FilterTerm.path caches.filters request.filters ++
      DroppedTerm.ofList b.scope.sorts .sort SortTerm.path caches.sorts request.sorters := by
  simp only [buildWithReport, applyAll_ofList]

theorem filters_accounted_for :
    (b.buildWithReport caches source request page size).result.2.filtersApplied +
      (b.buildWithReport caches source request page size).result.2.droppedCount .filter =
        request.filters.length := by
  rw [BuildReport.droppedCount, report_dropped, List.filter_append, filter_kind_ofList,
    filter_kind_ofList, if_pos rfl, if_neg (by decide), List.append_nil]
  exact applied_add_dropped ..

theorem sorts_accounted_for :
    (b.buildWithReport caches source request page size).result.2.sortsApplied +
      (b.buildWithReport caches source request page size).result.2.droppedCount .sort =
        request.sorters.length := by
  rw [BuildReport.droppedCount, report_dropped, List.filter_append, filter_kind_ofList,
    filter_kind_ofList, if_neg (by decide), if_pos rfl, List.nil_append]
  exact applied_add_dropped ..

/-- The report is exact, but for terms that are served although they do not compile. There are none with
the built-in rules and a cache that only holds terms which compile. -/
theorem build_reported (b : Builder) (caches : Caches) {Q : Type} [Handle Q] (source : Q)
    (request : Request) (page size : Nat) :
    let built := b.build caches source request page size
    let reported := b.buildWithReport caches source request page size
    let report := reported.result.2
    let filters := DroppedTerm.ofList b.scope.filters .filter FilterTerm.path caches.filters
      request.filters
    let sorts := DroppedTerm.ofList b.scope.sorts .sort SortTerm.path caches.sorts request.sorters
    reported.result.1 = built.result ∧ reported.caches = built.caches ∧
    report.filtersApplied + report.droppedCount .filter = request.filters.length ∧
    report.sortsApplied + report.droppedCount .sort = request.sorters.length ∧
    report.dropped = filters ++ sorts ∧
    report.pagination = b.pagination request page size ∧
    (b.scope.rules = Coercion.builtin →
      (∀ entry ∈ caches.filters.entries, ∃ form, b.scope.compileFilter entry.1 = .ok form) →
      filters = request.filters.zipIdx.filterMap fun (term, index) =>
        (error? (b.scope.compileFilter term)).map fun error => ⟨.filter, index, term.path, error⟩) ∧
    ((∀ entry ∈ caches.sorts.entries, ∃ form, b.scope.compileSort entry.1 = .ok form) →
      sorts = request.sorters.zipIdx.filterMap fun (term, index) =>
        (error? (b.scope.compileSort term)).map fun error => ⟨.sort, index, term.path, error⟩) ∧
    -- an unbounded cache serves what it held at first and what has compiled since
    (caches.filters.bound = none → ∀ before term, b.scope.filters.isServed caches.filters before term =
      ((caches.filters.find? term).isSome ||
        before.any fun u => term == u && b.scope.filters.compiles u)) ∧
    (caches.sorts.bound = none → ∀ before term, b.scope.sorts.isServed caches.sorts before term =
      ((caches.sorts.find? term).isSome || before.any fun u => term == u && b.scope.sorts.compiles u)) := by
  refine ⟨b.buildWithReport_handle caches source request page size,
    b.buildWithReport_caches caches source request page size,
    b.filters_accounted_for caches source request page size,
    b.sorts_accounted_for caches source request page size,
    b.report_dropped caches source request page size, rfl, ?_, ?_,
    fun _ => b.scope.filters.isServed_eq caches.filters, fun _ => b.scope.sorts.isServed_eq caches.sorts⟩
  · intro rules compile
    apply ofList_of_respects (b.scope.filters_respects rules)
    intro entry listed
    obtain ⟨form, compiles⟩ := compile entry listed
    exact Compiler.compiles_of_ok compiles
  · intro compile
    apply ofList_of_respects b.scope.sorts_respects
    intro entry listed
    obtain ⟨form, compiles⟩ := compile entry listed
    exact Compiler.compiles_of_ok compiles

theorem build_reported_mixed :
    let catalog : Catalog := ⟨[[⟨"n", [], .int⟩]]⟩
    let b : Builder := ⟨⟨catalog, catalog.schema ⟨0, "Numbers"⟩, Coercion.builtin⟩, .default⟩
    let filter (property : String) : FilterTerm := ⟨property, [], .compare .equal, .int 1⟩
    let sort (property : String) : SortTerm := ⟨property, [], .descending⟩
    let request : Request :=
      ⟨[filter "n", filter "m", filter "n"], [sort "m", sort "n"], none, some 2⟩
    let caches := (b.build (.empty none) (Query.ofRows ([] : List Record)) request 1 100).caches
    let report := (b.buildWithReport caches (Query.ofRows ([] : List Record)) request 1 100).result.2
    caches.filters.stats = ⟨1, 1, 2⟩ ∧ caches.sorts.stats = ⟨1, 0, 2⟩ ∧
    report.filtersApplied = 2 ∧ report.sortsApplied = 1 ∧
    report.dropped = [⟨.filter, 1, "m", .unknownProperty "Numbers" "m"⟩,
      ⟨.sort, 0, "m", .unknownProperty "Numbers" "m"⟩] ∧
    b.scope.filters.isServed caches.filters [] (filter "n") = true ∧
    b.scope.sorts.isServed caches.sorts [] (sort "m") = false := by
  intro catalog b filter sort request caches report
  have filled := Compiler.fetches_drain (c := b.scope.filters) (.empty none) request.filters
  have filters : ∀ entry ∈ caches.filters.entries, ∃ form, b.scope.compileFilter entry.1 = .ok form := by
    intro entry listed
    obtain ⟨form, compiles, -⟩ :=
      filled.serves (b.scope.filters_respects rfl) (Cache.holds_empty none) entry listed
    exact ⟨form, compiles⟩
  have filled := Compiler.fetches_drain (c := b.scope.sorts) (.empty none) request.sorters
  have sorts : ∀ entry ∈ caches.sorts.entries, ∃ form, b.scope.compileSort entry.1 = .ok form := by
    intro entry listed
    obtain ⟨form, compiles, -⟩ :=
      filled.serves b.scope.sorts_respects (Cache.holds_empty none) entry listed
    exact ⟨form, compiles⟩
  obtain ⟨-, -, -, -, dropped, -, failing, failingSorts, served, servedSorts⟩ :=
    build_reported b caches (Query.ofRows ([] : List Record)) request 1 100
  refine ⟨by decide, by decide, by decide, by decide, ?_, ?_, ?_⟩
  rotate_left
  · rw [served (by decide)]
    decide
  · rw [servedSorts (by decide)]
    decide
  have found : error? (b.scope.compileFilter (filter "n")) = none := rfl
  have foundSort : error? (b.scope.compileSort (sort "n")) = none := rfl
  have missing : error? (b.scope.compileFilter (filter "m")) =
      some (.unknownProperty "Numbers" "m") := by
    dsimp only [b, filter, catalog]
    rfl
  have missingSort : error? (b.scope.compileSort (sort "m")) =
      some (.unknownProperty "Numbers" "m") := by
    dsimp only [b, sort, catalog]
    rfl
  rw [dropped, failing rfl filters, failingSorts sorts]
  simp only [request, List.zipIdx_cons, List.zipIdx_nil, List.filterMap_cons, found, missing,
    foundSort, missingSort]
  rfl

/-- A filter term of an unknown member is applied if an entry has been put under it. With a rule that
refuses negative numbers, so is one with the negative zero behind one with the positive zero, whose entry
serves it. -/
theorem report_overlooks_failing :
    let catalog : Catalog := ⟨[[⟨"x", [], .float⟩]]⟩
    let floats : Schema := catalog.schema ⟨0, "Floats"⟩
    let equals (property : String) (negative : Bool) : FilterTerm :=
      ⟨property, [], .compare .equal, .float (.ofParts negative 0)⟩
    let dropped (rules : List Coercion.Rule) (cache : Cache FilterTerm (Compiled Predicate))
        (terms : List FilterTerm) : List DroppedTerm :=
      (Builder.buildWithReport ⟨⟨catalog, floats, rules⟩, .default⟩ ⟨cache, .empty none⟩
        (Query.ofRows ([] : List Record)) ⟨terms, [], none, none⟩ 1 10).result.2.dropped
    let put : Compiled Predicate := ⟨.compare ⟨"Floats", [], ⟨"x", .float⟩⟩ .equal (.float .nan), 1⟩
    let refusing : Coercion.Rule := .custom (fun target => target.same .float) fun target operand =>
      match operand with
      | .float x => if x.negative then .error (.unparsable operand target .noRule) else .ok (.float x)
      | _ => .error (.unparsable operand target .noRule)
    (error? (Scope.compileFilter ⟨catalog, floats, Coercion.builtin⟩ (equals "y" false)) =
        some (.unknownProperty "Floats" "y") ∧
      dropped Coercion.builtin ((Cache.empty none).insert (equals "y" false) put) [equals "y" false] =
        []) ∧
    (error? (Scope.compileFilter ⟨catalog, floats, Coercion.add Coercion.builtin refusing⟩
        (equals "x" true)) = some (.unparsable (.float (.ofParts true 0)) .float .noRule) ∧
      dropped (Coercion.add Coercion.builtin refusing) (.empty none)
        [equals "x" false, equals "x" true] = []) := by
  refine ⟨⟨?_, ?_⟩, ?_, ?_⟩
  · rfl
  · rfl
  · rfl
  · rfl

end Builder

end Listing
