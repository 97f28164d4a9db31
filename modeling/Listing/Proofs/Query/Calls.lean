import Listing.Proofs.Query.Built
import Listing.Proofs.Query.Fetch

namespace Listing

inductive Call where
  | filter (p : Predicate)
  | orderBy (k : SortKey)
  | thenBy (k : SortKey)
  | skip (count : Nat)
  | take (count : Nat)

namespace Call

def run {Q : Type} [Handle Q] (q : Q) : Call → Q
  | .filter p => Handle.filter q p
  | .orderBy k => Handle.orderBy q k
  | .thenBy k => Handle.thenBy q k
  | .skip n => Handle.skip q n
  | .take n => Handle.take q n

def predicate? : Call → Option Predicate
  | .filter p => some p
  | _ => none

def key? : Call → Option SortKey
  | .orderBy k => some k
  | .thenBy k => some k
  | _ => none

def isOrderBy : Call → Bool
  | .orderBy _ => true
  | _ => false

def keys : List Call → List SortKey
  | [] => []
  | call :: calls => if calls.any isOrderBy then keys calls else call.key?.toList ++ keys calls

def isCut : Call → Bool
  | .skip _ => true
  | .take _ => true
  | _ => false

def cut {α : Type} (rows : List α) : Call → List α
  | .skip n => rows.drop n
  | .take n => rows.take n
  | _ => rows

def passing {α : Type} [Row α] (calls : List Call) (source : List α) : List α :=
  source.filter fun row => (calls.filterMap predicate?).all (·.eval (Row.record row))

theorem foldl_cut_filter {α : Type} (calls : List Call) (rows : List α) :
    (calls.filter isCut).foldl cut rows = calls.foldl cut rows := by
  induction calls generalizing rows with
  | nil => rfl
  | cons call calls ih => cases call <;> exact ih _

end Call

namespace Query

variable {α : Type}

def cutOut (q : Query α) (rows : List α) : List α :=
  match q.limit with
  | some n => (rows.drop q.skipped).take n
  | none => rows.drop q.skipped

theorem fetch_eq_cutOut [Row α] (q : Query α) : q.fetch = q.cutOut q.sorted := rfl

theorem cutOut_run (q : Query α) (call : Call) {rows : List α} (few : rows.length ≤ maxCount) :
    (call.run q).cutOut rows = call.cut (q.cutOut rows) := by
  cases call with
  | filter p => rfl
  | orderBy k => rfl
  | thenBy k => rfl
  | skip n =>
    cases limit : q.limit with
    | none => simp [Call.run, Call.cut, cutOut, Handle.skip, limit, drop_min_maxCount few]
    | some m =>
      simp [Call.run, Call.cut, cutOut, Handle.skip, limit, drop_min_maxCount few, List.drop_take]
  | take n =>
    cases limit : q.limit with
    | none => simp [Call.run, Call.cut, cutOut, Handle.take, limit]
    | some m => simp [Call.run, Call.cut, cutOut, Handle.take, limit, List.take_take, Nat.min_comm]

variable (calls : List Call) (q : Query α)

theorem cutOut_calls {rows : List α} (few : rows.length ≤ maxCount) :
    (calls.foldl Call.run q).cutOut rows = calls.foldl Call.cut (q.cutOut rows) := by
  induction calls generalizing q with
  | nil => rfl
  | cons call calls ih => rw [List.foldl_cons, List.foldl_cons, ih, cutOut_run q call few]

theorem source_calls : (calls.foldl Call.run q).source = q.source := by
  induction calls generalizing q with
  | nil => rfl
  | cons call calls ih =>
    rw [List.foldl_cons, ih]
    cases call <;> rfl

theorem predicates_calls : (calls.foldl Call.run q).predicates =
    q.predicates ++ calls.filterMap Call.predicate? := by
  induction calls generalizing q with
  | nil => exact (List.append_nil _).symm
  | cons call calls ih =>
    rw [List.foldl_cons, ih]
    cases call with
    | filter p => exact List.append_assoc q.predicates [p] _
    | _ => rfl

theorem keys_calls : (calls.foldl Call.run q).keys =
    if calls.any Call.isOrderBy then Call.keys calls else q.keys ++ Call.keys calls := by
  induction calls generalizing q with
  | nil => exact (List.append_nil _).symm
  | cons call calls ih =>
    rw [List.foldl_cons, ih, List.any_cons, Call.keys]
    by_cases later : calls.any Call.isOrderBy = true
    · simp only [later, if_true, Bool.or_true]
    · simp only [later]
      cases call with
      | orderBy k => rfl
      | thenBy k => exact List.append_assoc q.keys [k] _
      | _ => rfl

variable [Row α] (source : List α)

theorem passes_calls : (calls.foldl Call.run (ofRows source)).passes = fun row =>
    (calls.filterMap Call.predicate?).all (·.eval (Row.record row)) := by
  funext row
  rw [passes, predicates_calls]
  rfl

theorem total_calls :
    (calls.foldl Call.run (ofRows source)).total = (Call.passing calls source).length := by
  rw [total, source_calls, passes_calls]
  rfl

theorem sorted_calls : (calls.foldl Call.run (ofRows source)).sorted =
    SortKey.sort (Call.keys calls) (Call.passing calls source) := by
  have keys : (calls.foldl Call.run (ofRows source)).keys = Call.keys calls := by
    rw [keys_calls]
    exact ite_self _
  rw [sorted_eq, source_calls, passes_calls, keys]
  rfl

theorem fetch_run (few : source.length < 2 ^ 63) : (calls.foldl Call.run (ofRows source)).fetch =
    calls.foldl Call.cut (SortKey.sort (Call.keys calls) (Call.passing calls source)) := by
  have counted : (calls.foldl Call.run (ofRows source)).sorted.length ≤ maxCount := by
    have kept : (Call.passing calls source).length ≤ source.length := List.length_filter_le _ _
    rw [length_sorted, total_calls]
    unfold maxCount
    omega
  rw [fetch_eq_cutOut, cutOut_calls calls _ counted, sorted_calls]
  rfl

theorem fetch_calls (calls : List Call) (source : List α) (few : source.length < 2 ^ 63) :
    let q := calls.foldl Call.run (ofRows source)
    let passing := source.filter fun row =>
      (calls.filterMap Call.predicate?).all (·.eval (Row.record row))
    let order := SortKey.lexicographic (Call.keys calls)
    let listed := if (Call.keys calls).isEmpty then passing else stableSort order passing
    q.fetch = calls.foldl Call.cut listed ∧ q.total = passing.length ∧
    (TotalPreorder order passing → StablySorted order passing listed) ∧
    ∀ calls' : List Call, calls'.filterMap Call.predicate? = calls.filterMap Call.predicate? →
      Call.keys calls' = Call.keys calls → calls'.filter Call.isCut = calls.filter Call.isCut →
      (calls'.foldl Call.run (ofRows source)).fetch = q.fetch ∧
      (calls'.foldl Call.run (ofRows source)).total = q.total := by
  intro q passing order listed
  refine ⟨fetch_run calls source few, total_calls calls source, SortKey.sort_stablySorted, ?_⟩
  intro calls' predicates keys cuts
  have same : Call.passing calls' source = Call.passing calls source := by
    rw [Call.passing, Call.passing, predicates]
  constructor
  · rw [fetch_run calls' source few, fetch_run calls source few, same, keys,
      ← Call.foldl_cut_filter calls', cuts, Call.foldl_cut_filter]
  · rw [total_calls, total_calls, same]

theorem fetch_calls_interleaved :
    let path : Path := ⟨"Number", [], ⟨"n", .int⟩⟩
    let row (n : Int64) : Record := [("n", .value (.int n))]
    let rows := [3, 1, 5, 2, 4].map row
    let odd : Predicate := .compare path .notEqual (.int 2)
    let calls : List Call := [.take 4, .thenBy ⟨path, .ascending⟩, .skip 1, .filter odd,
      .orderBy ⟨path, .descending⟩, .take 0xffffffffffffffff]
    rows.length < 2 ^ 63 ∧
      (calls.foldl Call.run (ofRows rows)).fetch = [4, 3, 1].map row := by
  intro path row rows odd calls
  have few : rows.length < 2 ^ 63 := by decide
  exact ⟨few, (fetch_calls calls rows few).1⟩

end Query

end Listing
