import Listing.Proofs.Compile.Served

/-!
# What a cache counts

A history lists what was done to a cache. It says by itself which fetches were hits: those of a term equal
to one that had been compiled since the entries were last dropped. These hits, the other fetches and the
distinct terms compiled since then are what the cache counts (`Accounted.use`, `run_accounted`).
-/

namespace Listing

section

variable {K : Type} [BEq K] [EquivBEq K]

theorem eraseDups_concat (keys : List K) (key : K) : (keys ++ [key]).eraseDups =
    if keys.any (key == ·) then keys.eraseDups else keys.eraseDups ++ [key] := by
  match keys with
  | [] => simp [List.eraseDups_cons]
  | first :: keys =>
    rw [List.cons_append, List.eraseDups_cons, List.filter_append, List.any_cons,
      List.eraseDups_cons]
    cases same : key == first with
    | true => simp [same]
    | false =>
      have others : (keys.filter fun k => !k == first).any (key == ·) = keys.any (key == ·) := by
        rw [List.any_filter]
        congr 1
        funext k
        cases equal : key == k with
        | true => rw [← BEq.congr_left equal, same]; rfl
        | false => rw [Bool.and_false]
      have rest := eraseDups_concat (keys.filter fun k => !k == first) key
      rw [others] at rest
      simp only [List.filter_cons, same, List.filter_nil, Bool.not_false, if_true, rest,
        Bool.false_or]
      split <;> rfl
termination_by keys.length
decreasing_by exact Nat.lt_succ_of_le (List.length_filter_le _ _)

theorem any_eraseDups (keys : List K) (key : K) :
    keys.eraseDups.any (key == ·) = keys.any (key == ·) := by
  induction keys using List.reverseRecOn with
  | nil => rfl
  | append_singleton keys last ih =>
    rw [eraseDups_concat, List.any_append]
    split
    · rw [ih]
      cases equal : key == last with
      | true =>
        have found : keys.any (key == ·) = true := by
          rw [← ‹keys.any (last == ·) = true›]
          congr 1
          funext k
          exact BEq.congr_left equal
        rw [found, Bool.true_or]
      | false => simp [equal]
    · rw [List.any_append, ih]

theorem nodup_eraseDups {K : Type} [BEq K] [LawfulBEq K] (keys : List K) :
    keys.eraseDups.Nodup := by
  induction keys using List.reverseRecOn with
  | nil => exact .nil
  | append_singleton keys last ih =>
    rw [eraseDups_concat, ← any_eraseDups]
    split
    · exact ih
    · rename_i absent
      rw [List.any_beq, List.contains_iff_mem] at absent
      refine List.nodup_append.2 ⟨ih, List.pairwise_singleton .., ?_⟩
      rintro key listed other added rfl
      exact absent (List.mem_singleton.1 added ▸ listed)

end

inductive Use (K : Type) where
  | fetch (term : K)
  | clear

namespace Use

variable {K : Type}

def isFetch : Use K → Bool
  | .fetch _ => true
  | .clear => false

def recent (history : List (Use K)) : List K :=
  history.foldl (fun terms use =>
    match use with
    | .fetch term => terms ++ [term]
    | .clear => []) []

/-- The number of uses with a property that may depend on the uses before. -/
def tally (holds : List (Use K) → Use K → Bool) (history : List (Use K)) : Nat :=
  (List.range history.length).countP fun i => history[i]?.any (holds (history.take i))

theorem recent_fetch (history : List (Use K)) (term : K) :
    recent (history ++ [.fetch term]) = recent history ++ [term] := by
  rw [recent, List.foldl_concat]
  rfl

theorem recent_clear (history : List (Use K)) : recent (history ++ [.clear]) = [] := by
  rw [recent, List.foldl_concat]

theorem tally_concat (holds : List (Use K) → Use K → Bool) (history : List (Use K)) (use : Use K) :
    tally holds (history ++ [use]) = tally holds history + if holds history use then 1 else 0 := by
  have before : ∀ i ∈ List.range history.length,
      ((history ++ [use])[i]?.any (holds ((history ++ [use]).take i)) = true ↔
        history[i]?.any (holds (history.take i)) = true) := by
    intro i listed
    have within := List.mem_range.1 listed
    rw [List.getElem?_append_left within, List.take_append_of_le_length (Nat.le_of_lt within)]
  rw [tally, List.length_append, List.length_singleton, List.range_succ, List.countP_append,
    List.countP_congr before, List.countP_singleton, List.getElem?_concat_length,
    List.take_left]
  rfl

end Use

namespace Compiler

variable {K V : Type} (c : Compiler K V)

def known (history : List (Use K)) : List K := (Use.recent history).filter c.compiles

theorem known_fetch_of_ok {term : K} {form : V} (h : c.compile term = .ok form)
    (history : List (Use K)) : c.known (history ++ [.fetch term]) = c.known history ++ [term] := by
  rw [known, Use.recent_fetch, List.filter_append, List.filter_singleton, compiles_of_ok h]
  rfl

theorem known_fetch_of_error {term : K} {e : CompileError} (h : c.compile term = .error e)
    (history : List (Use K)) : c.known (history ++ [.fetch term]) = c.known history := by
  rw [known, Use.recent_fetch, List.filter_append, List.filter_singleton, compiles_of_error h]
  exact List.append_nil _

theorem known_clear (history : List (Use K)) : c.known (history ++ [.clear]) = [] := by
  rw [known, Use.recent_clear]
  rfl

variable [BEq K]

def isHit (before : List (Use K)) : Use K → Bool
  | .fetch term => (c.known before).any (term == ·)
  | .clear => false

def isMiss (before : List (Use K)) : Use K → Bool
  | .fetch term => !(c.known before).any (term == ·)
  | .clear => false

structure Accounted (history : List (Use K)) (cache : Cache K (Compiled V)) : Prop where
  hits : cache.hits = Use.tally c.isHit history
  misses : cache.misses = Use.tally c.isMiss history
  keys : cache.entries.map (·.1) = (c.known history).eraseDups

def use (cache : Cache K (Compiled V)) : Use K → Cache K (Compiled V)
  | .fetch term => (c.fetch cache term).cache
  | .clear => cache.clear

theorem tally_hits_add_misses (history : List (Use K)) :
    Use.tally c.isHit history + Use.tally c.isMiss history = history.countP Use.isFetch := by
  induction history using List.reverseRecOn with
  | nil => rfl
  | append_singleton history use ih =>
    rw [Use.tally_concat, Use.tally_concat, List.countP_append, ← ih, List.countP_singleton]
    cases use with
    | clear => rfl
    | fetch term =>
      unfold isHit isMiss Use.isFetch
      grind

variable {c} {history : List (Use K)} {cache : Cache K (Compiled V)}

namespace Accounted

theorem empty (bound : Option Nat) : Accounted c [] (Cache.empty bound) where
  hits := rfl
  misses := rfl
  keys := rfl

theorem clear (h : Accounted c history cache) : Accounted c (history ++ [.clear]) cache.clear where
  hits := by rw [Use.tally_concat, ← h.hits]; rfl
  misses := by rw [Use.tally_concat, ← h.misses]; rfl
  keys := by rw [known_clear]; rfl

variable [EquivBEq K]

theorem isSome_find? (h : Accounted c history cache) (term : K) :
    (cache.find? term).isSome = (c.known history).any (term == ·) := by
  rw [← any_eraseDups, ← h.keys, Bool.eq_iff_iff, Cache.find?, List.lookup_isSome_iff,
    List.any_map, List.any_eq_true]
  rfl

theorem fetch (h : Accounted c history cache) (term : K) :
    Accounted c (history ++ [.fetch term]) (c.fetch cache term).cache := by
  have known := h.isSome_find? term
  have hits : Use.tally c.isHit (history ++ [.fetch term]) =
      cache.hits + if (cache.find? term).isSome then 1 else 0 := by
    rw [Use.tally_concat, ← h.hits, isHit, known]
  have misses : Use.tally c.isMiss (history ++ [.fetch term]) =
      cache.misses + if !(cache.find? term).isSome then 1 else 0 := by
    rw [Use.tally_concat, ← h.misses, isMiss, known]
  cases found : cache.find? term with
  | some compiled =>
    rw [found] at known hits misses
    rw [fetch_of_found found]
    refine ⟨hits.symm, misses.symm, h.keys.trans ?_⟩
    cases compiles : c.compile term with
    | ok form => rw [known_fetch_of_ok c compiles, eraseDups_concat, ← known]; rfl
    | error e => rw [known_fetch_of_error c compiles]
  | none =>
    rw [found] at known hits misses
    cases compiles : c.compile term with
    | ok form =>
      rw [fetch_of_compiled found compiles]
      refine ⟨hits.symm, misses.symm, ?_⟩
      rw [known_fetch_of_ok c compiles, eraseDups_concat, ← known, ← h.keys, List.map_append]
      rfl
    | error e =>
      rw [fetch_of_failed found compiles]
      refine ⟨hits.symm, misses.symm, h.keys.trans ?_⟩
      rw [known_fetch_of_error c compiles]

theorem use (h : Accounted c history cache) (use : Use K) :
    Accounted c (history ++ [use]) (c.use cache use) := by
  cases use with
  | fetch term => exact h.fetch term
  | clear => exact h.clear

theorem fetch_of_respects {same : V → V → Prop} (respects : c.Respects same)
    (h : Accounted c history cache) {term : K} {e : CompileError} (fails : c.compile term = .error e) :
    c.fetch cache term = ⟨.error e, { cache with misses := cache.misses + 1 }, []⟩ := by
  have unknown : (c.known history).any (term == ·) = false := by
    rw [List.any_eq_false]
    intro key listed equal
    have compiles : c.compiles key = true := (List.mem_filter.1 listed).2
    rw [← respects.compiles_eq equal, compiles_of_error fails] at compiles
    cases compiles
  have missed : cache.find? term = none := by
    rw [← h.isSome_find?, Option.isSome_eq_false_iff] at unknown
    exact Option.isNone_iff_eq_none.1 unknown
  exact fetch_of_failed missed fails

end Accounted

theorem run_accounted [EquivBEq K] (c : Compiler K V) (bound : Option Nat) (history : List (Use K)) :
    Accounted c history (history.foldl c.use (.empty bound)) := by
  induction history using List.reverseRecOn with
  | nil => exact .empty bound
  | append_singleton history use ih =>
    rw [List.foldl_concat]
    exact ih.use use

end Compiler

end Listing
