import Mathlib.Logic.Relation
import Mathlib.Logic.Function.Basic
import Wiredb.Types.Values
import Wiredb.Types.ZSet
import Wiredb.Types.Table
import Wiredb.Types.Collection

/-! # The typed object pools

Each typed value of the `types` package has a `sync.Pool`: its `init` puts ten fresh
values in, `AcquireX` takes one out with `Get` and asserts its type with `.(*X)`, and
`X.ReleaseToPool` clears the value and puts it back. `sync.Pool.Get` hands out any pooled
object, or a fresh one from `New` (`Wiredb.PoolGet`); the process is the step relation
`Wiredb.Process.Step` from the state the `init` functions leave (`Wiredb.Process.init`).

The `init` of the `Set` file puts its ten `NewSet()` values into `zsetPools`. Every
reachable state keeps its pools cleared, and every pool holds only its own type except
`zsetPools`, which may also hold sets (`Wiredb.Process.sound_of_reachable`). So every
`AcquireX` but `AcquireZSet` returns a cleared value of its type
(`Wiredb.Process.acquire_of_reachable`), and whatever passes the type assertion is exactly
the value `New` builds (`Wiredb.Process.acquire_eq_new`), while `AcquireZSet` can draw a
set right after `init` and panic (`Wiredb.Process.acquireZSet_can_panic`).
-/

namespace Wiredb

/-- The six `sync.Pool` variables of the `types` package. -/
inductive PoolName where
  | setPools
  | zsetPools
  | textPools
  | numberPools
  | tablePools
  | collectionPools
  deriving DecidableEq, Repr

variable {σ ρ : Type}

/-- A pooled object, as the `any` that `sync.Pool.Put` receives: a pointer to one of the
six typed values. -/
inductive Pooled (σ ρ : Type) where
  | set (s : Set)
  | zset (z : ZSet ρ)
  | text (t : Text)
  | table (t : Table σ)
  | number (n : Number)
  | collection (c : Collection σ)

namespace Pooled

/-- The pool of the object's type: where its `ReleaseToPool` puts it, and the pool whose
`AcquireX` asserts its type. -/
def home : Pooled σ ρ → PoolName
  | .set _ => .setPools
  | .zset _ => .zsetPools
  | .text _ => .textPools
  | .table _ => .tablePools
  | .number _ => .numberPools
  | .collection _ => .collectionPools

/-- The object's own `Clear`. -/
def clear : Pooled σ ρ → Pooled σ ρ
  | .set s => .set s.clear
  | .zset z => .zset z.clear
  | .text t => .text t.clear
  | .table t => .table t.clear
  | .number n => .number n.clear
  | .collection c => .collection c.clear

/-- The object is as `Clear` leaves it: empty data, TTL 0, and for a sorted set an empty
cache. -/
def Cleared (x : Pooled σ ρ) : Prop := x.clear = x

@[simp] theorem home_clear (x : Pooled σ ρ) : x.clear.home = x.home := by
  cases x <;> rfl

theorem cleared_clear (x : Pooled σ ρ) : x.clear.Cleared := by
  cases x <;> rfl

end Pooled

/-- The pool's `New` function. -/
def PoolName.new : PoolName → Pooled σ ρ
  | .setPools => .set Set.newSet
  | .zsetPools => .zset ZSet.newZSet
  | .textPools => .text (Text.newText "")
  | .numberPools => .number (Number.newNumber 0)
  | .tablePools => .table Table.newTable
  | .collectionPools => .collection Collection.newCollection

@[simp] theorem PoolName.home_new (p : PoolName) : (p.new : Pooled σ ρ).home = p := by
  cases p <;> rfl

theorem PoolName.cleared_new (p : PoolName) : (p.new : Pooled σ ρ).Cleared := by
  cases p <;> rfl

/-- Every `Clear` leaves its object as the pool's `New` builds it. -/
theorem Pooled.clear_eq_new (x : Pooled σ ρ) : x.clear = x.home.new := by
  cases x <;> rfl

/-- `sync.Pool.Get` on a pool holding `items` whose `New` gives `fresh`: any pooled item,
taken out, or a fresh object with the pool left as it was (`Get` may ignore the pool). -/
inductive PoolGet {α : Type} (fresh : α) : List α → α → List α → Prop
  | pooled (before after : List α) (x : α) : PoolGet fresh (before ++ x :: after) x (before ++ after)
  | new (items : List α) : PoolGet fresh items fresh items

theorem PoolGet.cases {α : Type} {fresh x : α} {items rest : List α}
    (got : PoolGet fresh items x rest) : (x ∈ items ∧ ∀ y ∈ rest, y ∈ items) ∨ x = fresh ∧ rest = items := by
  cases got with
  | pooled before after x => exact .inl ⟨by simp, fun y member => by simp at member ⊢; tauto⟩
  | new items => exact .inr ⟨rfl, rfl⟩

/-- The pools and the objects handed out and not yet released. -/
structure Process (σ ρ : Type) where
  pools : PoolName → List (Pooled σ ρ)
  held : List (Pooled σ ρ)

namespace Process

/-- One `init` function of the package: `for i := 0; i < 10; i++ { pool.Put(value) }`. -/
def initPut (s : Process σ ρ) (p : PoolName) (value : Pooled σ ρ) : Process σ ρ :=
  { s with pools := Function.update s.pools p (List.replicate 10 value ++ s.pools p) }

/-- **The state after the package's `init` functions**, file by file, starting from empty
pools. The `Set` file's `init` puts `NewSet()` into `zsetPools`. -/
def init : Process σ ρ :=
  (⟨fun _ => [], []⟩ : Process σ ρ)
    |>.initPut .collectionPools (.collection Collection.newCollection)
    |>.initPut .numberPools (.number (Number.newNumber 0))
    |>.initPut .zsetPools (.set Set.newSet)
    |>.initPut .tablePools (.table Table.newTable)
    |>.initPut .textPools (.text (Text.newText ""))
    |>.initPut .zsetPools (.zset ZSet.newZSet)

/-- One step of the process. -/
inductive Step : Process σ ρ → Process σ ρ → Prop
  /-- `AcquireX`: a `Get` on the pool whose type assertion succeeds; the caller holds the
  object. -/
  | acquire (s : Process σ ρ) (p : PoolName) {x : Pooled σ ρ} {rest : List (Pooled σ ρ)}
      (got : PoolGet p.new (s.pools p) x rest) (typed : x.home = p) :
      Step s ⟨Function.update s.pools p rest, x :: s.held⟩
  /-- `AcquireX` whose type assertion panics: the object is lost with the request. -/
  | panic (s : Process σ ρ) (p : PoolName) {x : Pooled σ ρ} {rest : List (Pooled σ ρ)}
      (got : PoolGet p.new (s.pools p) x rest) (mistyped : x.home ≠ p) :
      Step s ⟨Function.update s.pools p rest, s.held⟩
  /-- Binding a request body or decoding a record overwrites a held object with any value
  of its type. -/
  | fill (s : Process σ ρ) (before after : List (Pooled σ ρ)) (x y : Pooled σ ρ)
      (held : s.held = before ++ x :: after) (sameType : y.home = x.home) :
      Step s ⟨s.pools, before ++ y :: after⟩
  /-- `X.ReleaseToPool`: `Clear`, then `Put` into the pool of the object's type. -/
  | release (s : Process σ ρ) (before after : List (Pooled σ ρ)) (x : Pooled σ ρ)
      (held : s.held = before ++ x :: after) :
      Step s ⟨Function.update s.pools x.home (x.clear :: s.pools x.home), before ++ after⟩
  /-- A handler drops a held object without releasing it. -/
  | discard (s : Process σ ρ) (before after : List (Pooled σ ρ)) (x : Pooled σ ρ)
      (held : s.held = before ++ x :: after) :
      Step s ⟨s.pools, before ++ after⟩
  /-- The garbage collector removes a pooled object. -/
  | evict (s : Process σ ρ) (p : PoolName) (before after : List (Pooled σ ρ)) (x : Pooled σ ρ)
      (pooled : s.pools p = before ++ x :: after) :
      Step s ⟨Function.update s.pools p (before ++ after), s.held⟩

/-- The states the process reaches from `init`. -/
def Reachable (s : Process σ ρ) : Prop := Relation.ReflTransGen Step init s

/-- An object may sit in pool `p`: it has the pool's type, or it is a set in `zsetPools`. -/
def Admits (p : PoolName) (x : Pooled σ ρ) : Prop :=
  x.home = p ∨ (p = .zsetPools ∧ x.home = .setPools)

/-- **What the pools keep**: every pooled object is cleared and admitted by its pool. -/
def Sound (s : Process σ ρ) : Prop := ∀ p, ∀ x ∈ s.pools p, Admits p x ∧ x.Cleared

theorem sound_update {s : Process σ ρ} (sound : Sound s) {p : PoolName}
    {items : List (Pooled σ ρ)} (kept : ∀ x ∈ items, Admits p x ∧ x.Cleared) (q : PoolName) :
    ∀ x ∈ Function.update s.pools p items q, Admits q x ∧ x.Cleared := by
  by_cases same : q = p
  · subst same
    simpa using kept
  · simpa [same] using sound q

theorem sound_init : Sound (init : Process σ ρ) := by
  intro p x member
  cases p <;> simp [init, initPut, Function.update, List.mem_replicate] at member <;>
    rcases member with ⟨-, rfl⟩ | ⟨-, rfl⟩ <;>
    first | exact ⟨.inl rfl, rfl⟩ | exact ⟨.inr ⟨rfl, rfl⟩, rfl⟩

theorem sound_step {s s' : Process σ ρ} (sound : Sound s) (step : Step s s') : Sound s' := by
  cases step with
  | acquire p got _ | panic p got _ =>
    refine sound_update sound (fun y member => sound p y ?_)
    rcases got.cases with ⟨-, inside⟩ | ⟨-, rfl⟩
    · exact inside y member
    · exact member
  | fill => exact sound
  | discard => exact sound
  | release before after x _ =>
    refine sound_update sound fun y member => ?_
    rcases List.mem_cons.mp member with rfl | pooled
    · exact ⟨.inl (Pooled.home_clear x), Pooled.cleared_clear x⟩
    · exact sound _ y pooled
  | evict p before after x pooled =>
    exact sound_update sound fun y member => sound p y (by rw [pooled]; simp at member ⊢; tauto)

/-- **Every reachable state keeps its pools sound.** -/
theorem sound_of_reachable {s : Process σ ρ} (reachable : Reachable s) : Sound s := by
  induction reachable with
  | refl => exact sound_init
  | tail _ step sound => exact sound_step sound step

/-- Whatever `Get` returns from a sound pool is cleared and admitted by the pool. -/
theorem get_of_sound {s : Process σ ρ} (sound : Sound s) {p : PoolName} {x : Pooled σ ρ}
    {rest : List (Pooled σ ρ)} (got : PoolGet p.new (s.pools p) x rest) :
    Admits p x ∧ x.Cleared := by
  rcases got.cases with ⟨member, -⟩ | ⟨rfl, -⟩
  · exact sound p x member
  · exact ⟨.inl (PoolName.home_new p), PoolName.cleared_new p⟩

/-- In every reachable state, each `AcquireX` other than `AcquireZSet` passes its type
assertion and returns a cleared value, whichever object `Get` returns. -/
theorem acquire_of_reachable {s : Process σ ρ} (reachable : Reachable s) {p : PoolName}
    (other : p ≠ .zsetPools) {x : Pooled σ ρ} {rest : List (Pooled σ ρ)}
    (got : PoolGet p.new (s.pools p) x rest) : x.home = p ∧ x.Cleared := by
  obtain ⟨admitted, cleared⟩ := get_of_sound (sound_of_reachable reachable) got
  exact ⟨admitted.resolve_right fun zset => other zset.1, cleared⟩

/-- Right after `init`: `AcquireSet` on the empty `setPools`, where `Get` calls `New`, and
`AcquireText` drawing the first of the ten values the text file's `init` pooled. -/
theorem acquire_at_init :
    (init : Process Unit Unit).Reachable ∧
      ((PoolName.setPools.new : Pooled Unit Unit).home = .setPools ∧
        (PoolName.setPools.new : Pooled Unit Unit).Cleared) ∧
      PoolGet PoolName.textPools.new ((init : Process Unit Unit).pools .textPools)
        (.text (Text.newText "")) (List.replicate 9 (.text (Text.newText ""))) ∧
      (Pooled.text (Text.newText "") : Pooled Unit Unit).home = .textPools ∧
        (Pooled.text (Text.newText "") : Pooled Unit Unit).Cleared := by
  have pooled : PoolGet PoolName.textPools.new ((init : Process Unit Unit).pools .textPools)
      (.text (Text.newText "")) (List.replicate 9 (.text (Text.newText ""))) :=
    .pooled [] _ _
  exact ⟨.refl, acquire_of_reachable .refl (by decide) (PoolGet.new _), pooled,
    acquire_of_reachable .refl (by decide) pooled⟩

/-- **What `AcquireX` returns is `New()`.** In every reachable state, an object that `Get`
hands out and that passes the type assertion is exactly the value `New` builds: a pooled
object carries nothing over from the request that released it. -/
theorem acquire_eq_new {s : Process σ ρ} (reachable : Reachable s) {p : PoolName}
    {x : Pooled σ ρ} {rest : List (Pooled σ ρ)} (got : PoolGet p.new (s.pools p) x rest)
    (typed : x.home = p) : x = p.new :=
  calc x = x.clear := (get_of_sound (sound_of_reachable reachable) got).2.symm
    _ = x.home.new := x.clear_eq_new
    _ = p.new := by rw [typed]

/-- Right after `init`, `zsetPools` holds a set, so `AcquireZSet` can draw it and its
type assertion `.(*ZSet)` panics. -/
theorem acquireZSet_can_panic :
    ∃ rest, PoolGet PoolName.zsetPools.new ((init : Process σ ρ).pools .zsetPools)
        (.set Set.newSet) rest ∧ (Pooled.set Set.newSet : Pooled σ ρ).home ≠ .zsetPools := by
  refine ⟨List.replicate 10 (.zset ZSet.newZSet) ++ List.replicate 9 (.set Set.newSet), ?_,
    by simp [Pooled.home]⟩
  have split : (init : Process σ ρ).pools .zsetPools =
      List.replicate 10 (.zset ZSet.newZSet) ++ .set Set.newSet :: List.replicate 9 (.set Set.newSet) := by
    simp [init, initPut, Function.update]
  rw [split]
  exact .pooled _ _ _

end Process

end Wiredb
