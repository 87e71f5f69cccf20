import Mathlib.Data.List.AList
import Mathlib.Data.List.Sort

/-! # Sorted sets

`types.ZSet` keeps its scores in a Go map and caches the member names in the unexported
slice `sortedScores`, which every operation re-sorts by descending score with
`sort.Slice`. `Add`, `Remove` and `Clear` keep the cache a permutation of the map's keys
(`Wiredb.ZSet.Inv`, preserved by `Wiredb.ZSet.inv_step`), so over every run from an
empty set (`Wiredb.ZSet.run_spec`) `GetRange` returns each member in the score range once,
in non-increasing score order, and `GetRank` returns a position between the number of
members scoring above and the number scoring at least as high.

`sort.Slice` is specified by its documentation only (`Wiredb.SortSlice`): a permutation
sorted by any strict weak order it is given, with no promise on the order of ties. Scores
are any linearly ordered type with a zero, such as the `float64`s without NaN.
-/

namespace Wiredb

/-- **Go's `sort.Slice` on a `[]string`, as documented.** Given a `less` that is a strict
weak order, the result is a permutation of the slice in which no element is `less` than
one before it. The sort is not stable: nothing is promised on the order of ties. -/
structure SortSlice where
  sort : (String → String → Bool) → List String → List String
  perm : ∀ less items, (sort less items).Perm items
  sorted : ∀ less items, IsStrictWeakOrder String (fun a b => less a b = true) →
    (sort less items).Sorted fun a b => less b a = false

namespace SortSlice

variable {less : String → String → Bool}

/-- Under a strict weak order, "not less than" is transitive. -/
theorem not_less_trans (order : IsStrictWeakOrder String fun a b => less a b = true)
    {a b c : String} (first : less b a = false) (second : less c b = false) :
    less c a = false := by
  by_contra third
  rw [Bool.not_eq_false] at third
  by_cases ab : less a b = true
  · exact absurd (order.trans _ _ _ third ab) (by simp [second])
  by_cases bc : less b c = true
  · exact absurd (order.trans _ _ _ bc third) (by simp [first])
  exact (order.incomp_trans a b c ⟨ab, by simp [first]⟩ ⟨bc, by simp [second]⟩).2 third

/-- Insertion sort meets the contract, so the contract is not void. -/
def insertion : SortSlice where
  sort less items := items.insertionSort fun a b => less b a = false
  perm _ items := List.perm_insertionSort _ items
  sorted less items order := by
    have : IsTotal String fun a b => less b a = false := ⟨fun a b => by
      by_contra both
      simp only [Bool.not_eq_false, not_or] at both
      exact order.irrefl a (order.trans _ _ _ both.2 both.1)⟩
    have : IsTrans String fun a b => less b a = false :=
      ⟨fun _ _ _ first second => not_less_trans order first second⟩
    exact List.sorted_insertionSort _ items

end SortSlice

/-- `types.ZSet`: the score map, the TTL, and the cached member names. -/
structure ZSet (ρ : Type) where
  zset : AList (fun _ : String => ρ)
  ttl : BitVec 64
  sortedScores : List String

namespace ZSet

variable {ρ : Type}

/-- `NewZSet`: an empty map and an empty cache. -/
def newZSet : ZSet ρ := ⟨∅, 0, []⟩

/-- `Clear`: TTL 0, an empty map and an empty cache. -/
def clear (z : ZSet ρ) : ZSet ρ := { z with ttl := 0, zset := ∅, sortedScores := [] }

/-! ### The cache invariant -/

/-- The cache lists each member of the map once: it is a permutation of the map's keys. -/
def Inv (z : ZSet ρ) : Prop := z.sortedScores.Perm z.zset.keys

theorem clear_eq_newZSet (z : ZSet ρ) : z.clear = newZSet := rfl

theorem inv_newZSet : Inv (newZSet : ZSet ρ) := List.Perm.nil

theorem inv_nodup {z : ZSet ρ} (inv : Inv z) : z.sortedScores.Nodup :=
  List.Perm.nodup_iff inv |>.mpr z.zset.keys_nodup

theorem inv_mem_iff {z : ZSet ρ} (inv : Inv z) (value : String) :
    value ∈ z.sortedScores ↔ value ∈ z.zset :=
  (List.Perm.mem_iff inv).trans AList.mem_keys.symm

/-- The `for i, v := range z.sortedScores` loop of `GetRank`: the position of the first
entry equal to `value`. -/
def rankLoop (value : String) : List String → Option Nat
  | [] => none
  | v :: rest => if v = value then some 0 else (rankLoop value rest).map (· + 1)

theorem rankLoop_eq_none_iff (value : String) :
    ∀ names : List String, rankLoop value names = none ↔ value ∉ names
  | [] => by simp [rankLoop]
  | v :: rest => by
    by_cases same : v = value
    · simp [rankLoop, same]
    · simp [rankLoop, same, rankLoop_eq_none_iff value rest, Ne.symm same]

theorem rankLoop_first (value : String) (after : List String) :
    ∀ {before : List String}, value ∉ before →
      rankLoop value (before ++ value :: after) = some before.length
  | [], _ => by simp [rankLoop]
  | v :: before, absent => by
    have differ : v ≠ value := fun same => absent (same ▸ List.mem_cons_self v before)
    simp [rankLoop, differ,
      rankLoop_first value after fun member => absent (List.mem_cons_of_mem v member)]

variable [LinearOrder ρ] [Zero ρ] (S : SortSlice)

/-- Go's `z.ZSet[value]`: the stored score, the zero score for a non-member. -/
def score (z : ZSet ρ) (value : String) : ρ := (z.zset.lookup value).getD 0

/-- `ZSet.Get`: the score and whether `value` is a member. -/
def get (z : ZSet ρ) (value : String) : ρ × Bool :=
  (z.score value, (z.zset.lookup value).isSome)

/-- `ZSet.Size`. -/
def size (z : ZSet ρ) : Nat := z.zset.keys.length

/-- `ZSet.sort`: `sort.Slice` on the cache with `less(i, j)` the comparison
`z.ZSet[sortedScores[i]] > z.ZSet[sortedScores[j]]`. -/
def sort (z : ZSet ρ) : ZSet ρ :=
  { z with sortedScores := S.sort (fun a b => decide (z.score b < z.score a)) z.sortedScores }

/-- `ZSet.Remove`: a member leaves the map and its first occurrence leaves the cache;
the cache is re-sorted either way. -/
def remove (z : ZSet ρ) (value : String) : ZSet ρ :=
  if (z.zset.lookup value).isSome then
    sort S { z with
      zset := z.zset.erase value
      sortedScores := z.sortedScores.erase value }
  else sort S z

/-- `ZSet.Add`: a member is first removed; then the map takes the score, the cache gets
the name appended, and the cache is re-sorted. -/
def add (z : ZSet ρ) (value : String) (newScore : ρ) : ZSet ρ :=
  let z := if (z.zset.lookup value).isSome then remove S z value else z
  sort S { z with
    zset := z.zset.insert value newScore
    sortedScores := z.sortedScores ++ [value] }

/-- `ZSet.GetRank`: after sorting, the position of `value` in the cache with `true`, or
`(-1, false)`; and the sorted set. -/
def getRank (z : ZSet ρ) (value : String) : (Int × Bool) × ZSet ρ :=
  let z := sort S z
  match rankLoop value z.sortedScores with
  | some i => ((i, true), z)
  | none => ((-1, false), z)

/-- `ZSet.GetRange`: after sorting, the cached names that are members scoring within
`[minScore, maxScore]`, in cache order; and the sorted set. -/
def getRange (z : ZSet ρ) (minScore maxScore : ρ) : List String × ZSet ρ :=
  let z := sort S z
  (z.sortedScores.filter fun value =>
    match z.zset.lookup value with
    | some s => decide (minScore ≤ s ∧ s ≤ maxScore)
    | none => false, z)

/-- The calls a program makes on a sorted set. -/
inductive Op (ρ : Type) where
  | add (value : String) (score : ρ)
  | remove (value : String)
  | getRank (value : String)
  | getRange (minScore maxScore : ρ)
  | clear

/-- The sorted set after one call. -/
def step (z : ZSet ρ) : Op ρ → ZSet ρ
  | .add value newScore => add S z value newScore
  | .remove value => remove S z value
  | .getRank value => (getRank S z value).2
  | .getRange minScore maxScore => (getRange S z minScore maxScore).2
  | .clear => clear z

/-- The sorted set after a sequence of calls. -/
def run (z : ZSet ρ) (ops : List (Op ρ)) : ZSet ρ := ops.foldl (step S) z

/-! ### One lemma per operation -/

variable {S}

@[simp] theorem sort_zset (z : ZSet ρ) : (sort S z).zset = z.zset := rfl

@[simp] theorem sort_score (z : ZSet ρ) : (sort S z).score = z.score := rfl

theorem sort_perm (z : ZSet ρ) : (sort S z).sortedScores.Perm z.sortedScores :=
  S.perm _ _

/-- Descending score is a strict weak order on names. -/
theorem score_gt_isStrictWeakOrder (z : ZSet ρ) :
    IsStrictWeakOrder String fun a b => decide (z.score b < z.score a) = true where
  irrefl a := by simp
  trans a b c first second := by
    simp only [decide_eq_true_eq] at *
    exact second.trans first
  incomp_trans a b c first second := by
    simp only [decide_eq_true_eq, not_lt] at *
    exact ⟨first.1.trans second.1, second.2.trans first.2⟩

/-- After sorting, the cache is in non-increasing score order. -/
theorem sort_sorted (S : SortSlice) (z : ZSet ρ) :
    (sort S z).sortedScores.Sorted fun a b => z.score b ≤ z.score a :=
  (S.sorted _ _ (score_gt_isStrictWeakOrder z)).imp fun {a b} ordered => by
    simpa using ordered

theorem inv_sort (S : SortSlice) {z : ZSet ρ} (inv : Inv z) : Inv (sort S z) :=
  (sort_perm z).trans inv

theorem inv_remove {z : ZSet ρ} (inv : Inv z) (value : String) : Inv (remove S z value) := by
  unfold ZSet.remove
  split
  · apply inv_sort S
    simpa [Inv, AList.keys_erase] using inv.erase value
  · exact inv_sort S inv

theorem not_mem_remove (z : ZSet ρ) (value : String) : value ∉ (remove S z value).zset := by
  unfold ZSet.remove
  split
  · simp [AList.mem_erase]
  · rw [sort_zset, ← AList.lookup_isSome]
    assumption

theorem inv_add {z : ZSet ρ} (inv : Inv z) (value : String) (newScore : ρ) :
    Inv (add S z value newScore) := by
  unfold ZSet.add
  apply inv_sort S
  have absent : value ∉ (if (z.zset.lookup value).isSome then remove S z value else z).zset := by
    split
    · exact not_mem_remove z value
    · rw [← AList.lookup_isSome]
      assumption
  have cleared : Inv (if (z.zset.lookup value).isSome then remove S z value else z) := by
    split
    · exact inv_remove inv value
    · exact inv
  simp only [Inv, AList.keys_insert,
    List.erase_of_not_mem (AList.mem_keys.not.mp absent)]
  exact (List.perm_append_singleton _ _).trans (cleared.cons value)

theorem inv_step {z : ZSet ρ} (inv : Inv z) : ∀ op : Op ρ, Inv (step S z op)
  | .add value newScore => inv_add inv value newScore
  | .remove value => inv_remove inv value
  | .getRank value => by
    simp only [step, getRank]
    split <;> exact inv_sort S inv
  | .getRange _ _ => inv_sort S inv
  | .clear => inv_newZSet

theorem inv_run {z : ZSet ρ} (inv : Inv z) : ∀ ops : List (Op ρ), Inv (run S z ops)
  | [] => inv
  | op :: ops => inv_run (inv_step inv op) ops

/-! ### The queries on a set that keeps the invariant -/

/-- The range answer: cached names whose score lies in the range. -/
theorem mem_getRange {z : ZSet ρ} (inv : Inv z) (minScore maxScore : ρ) (value : String) :
    value ∈ (getRange S z minScore maxScore).1 ↔
      ∃ s, z.zset.lookup value = some s ∧ minScore ≤ s ∧ s ≤ maxScore := by
  simp only [getRange, List.mem_filter, inv_mem_iff (inv_sort S inv), sort_zset]
  cases stored : z.zset.lookup value with
  | none => simp
  | some s =>
    simp [← AList.lookup_isSome, stored]

theorem getRange_nodup {z : ZSet ρ} (inv : Inv z) (minScore maxScore : ρ) :
    (getRange S z minScore maxScore).1.Nodup :=
  (inv_nodup (inv_sort S inv)).filter _

theorem getRange_sorted (z : ZSet ρ) (minScore maxScore : ρ) :
    (getRange S z minScore maxScore).1.Sorted fun a b => z.score b ≤ z.score a :=
  (sort_sorted S z).filter _

/-- The names counted by a filter on the keys are those counted on the cache. -/
theorem inv_length_filter (S : SortSlice) {z : ZSet ρ} (inv : Inv z) (keep : String → Bool) :
    (z.zset.keys.filter keep).length = ((sort S z).sortedScores.filter keep).length :=
  (List.Perm.filter keep (inv_sort S inv)).length_eq.symm

theorem getRank_eq_none_iff {z : ZSet ρ} (inv : Inv z) (value : String) :
    (getRank S z value).1 = (-1, false) ↔ value ∉ z.zset := by
  have cached := inv_mem_iff (inv_sort S inv) value
  rw [sort_zset] at cached
  rw [← cached, ← rankLoop_eq_none_iff]
  simp only [getRank]
  split <;> simp_all

/-- A member's rank lies between the number of members scoring above it and the number
scoring at least as high. -/
theorem getRank_bounds {z : ZSet ρ} (inv : Inv z) {value : String} (member : value ∈ z.zset) :
    ∃ i : Nat, (getRank S z value).1 = ((i : Int), true) ∧
      (z.zset.keys.filter fun u => z.score value < z.score u).length ≤ i ∧
      i < (z.zset.keys.filter fun u => z.score value ≤ z.score u).length := by
  obtain ⟨before, after, split⟩ := List.append_of_mem ((inv_mem_iff (inv_sort S inv) value).mpr member)
  have nodup := inv_nodup (inv_sort S inv)
  rw [split, List.nodup_append, List.nodup_cons] at nodup
  have absent : value ∉ before := fun inside => nodup.2.2 inside (List.mem_cons_self _ _)
  have sorted := sort_sorted S z
  rw [split, List.Sorted, List.pairwise_append, List.pairwise_cons] at sorted
  refine ⟨before.length, by simp [getRank, split, rankLoop_first value after absent], ?_, ?_⟩
  · have below : (value :: after).filter (fun u => z.score value < z.score u) = [] := by
      refine List.filter_eq_nil_iff.mpr ?_
      simpa only [List.mem_cons, forall_eq_or_imp, decide_eq_true_eq, not_lt, le_refl,
        true_and] using sorted.2.1.1
    rw [inv_length_filter S inv, split, List.filter_append, below, List.append_nil]
    exact (List.filter_sublist _).length_le
  · rw [inv_length_filter S inv, split, List.filter_append, List.length_append,
      List.filter_eq_self.mpr fun a inside => by
        simpa using sorted.2.2 a inside value (List.mem_cons_self _ _)]
    simp [List.filter_cons]

/-- **What the queries promise**, for a sorted set `z`. -/
structure QueriesCorrect (S : SortSlice) (z : ZSet ρ) : Prop where
  cache_nodup : z.sortedScores.Nodup
  cache_members : ∀ value, value ∈ z.sortedScores ↔ value ∈ z.zset
  range_nodup : ∀ minScore maxScore, (getRange S z minScore maxScore).1.Nodup
  range_members : ∀ minScore maxScore value, value ∈ (getRange S z minScore maxScore).1 ↔
    ∃ s, z.zset.lookup value = some s ∧ minScore ≤ s ∧ s ≤ maxScore
  range_sorted : ∀ minScore maxScore,
    (getRange S z minScore maxScore).1.Sorted fun a b => z.score b ≤ z.score a
  rank_absent : ∀ value, (getRank S z value).1 = (-1, false) ↔ value ∉ z.zset
  rank_bounds : ∀ value ∈ z.zset, ∃ i : Nat, (getRank S z value).1 = ((i : Int), true) ∧
    (z.zset.keys.filter fun u => z.score value < z.score u).length ≤ i ∧
    i < (z.zset.keys.filter fun u => z.score value ≤ z.score u).length

theorem queriesCorrect_of_inv {z : ZSet ρ} (inv : Inv z) : QueriesCorrect S z :=
  ⟨inv_nodup inv, inv_mem_iff inv, getRange_nodup inv, mem_getRange inv, getRange_sorted z,
    getRank_eq_none_iff inv, fun _ member => getRank_bounds inv member⟩

/-- **Every run keeps the cache and answers the queries.** After any sequence of calls
from an empty set (a cleared set is `newZSet`), the cache lists each member once, and
`GetRange` and `GetRank` answer as promised. -/
theorem run_spec (S : SortSlice) (ops : List (Op ρ)) : QueriesCorrect S (run S newZSet ops) :=
  queriesCorrect_of_inv (inv_run inv_newZSet ops)

example : (getRange SortSlice.insertion (run SortSlice.insertion newZSet
    [.add "a" (1 : ℤ), .add "b" 3, .add "c" 2, .add "a" 4, .remove "a"]) 0 5).1 = ["b", "c"] := by
  decide

end ZSet

end Wiredb
