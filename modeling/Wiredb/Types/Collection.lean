import Wiredb.Types.Any

/-! # Collections

`types.Collection` is a list of `any` values with a TTL. `GetItem` answers the bounds
error exactly outside the list (`Wiredb.Collection.getItem_spec`), and `Rnage` returns
the items between two positions, both included (`Wiredb.Collection.rnage_eq`).

`Remove` scans the list with Go's `==` and cuts out the first element equal to the item.
Since `==` on two slices or two maps panics, `Remove` panics exactly when the item is a
slice and the list holds a slice, or the item is a map and the list holds a map
(`Wiredb.Collection.remove_eq_none_iff`), as on a list holding an empty slice asked to
remove an empty slice (`Wiredb.Collection.remove_panics_on_slices`). Otherwise it removes the first element equal
to the item and keeps the others in order, or reports that there is none and leaves the
collection as it was (`Wiredb.Collection.remove_spec`).
-/

namespace Wiredb

/-- `types.Collection`: the items and the TTL the request carried. -/
structure Collection (σ : Type) where
  collection : List (Any σ)
  ttl : BitVec 64

namespace Collection

variable {σ : Type}

/-- `NewCollection`: `new(Collection)`, a nil slice and no TTL. -/
def newCollection : Collection σ := ⟨[], 0⟩

/-- `Clear`: TTL 0 and an empty slice. -/
def clear (cle : Collection σ) : Collection σ := { cle with ttl := 0, collection := [] }

/-- `AddItem`: append the item. -/
def addItem (cle : Collection σ) (item : Any σ) : Collection σ :=
  { cle with collection := cle.collection ++ [item] }

/-- `RPush`: the same append as `AddItem`. -/
def rPush (cle : Collection σ) (item : Any σ) : Collection σ := cle.addItem item

/-- `LPush`: prepend the item. -/
def lPush (cle : Collection σ) (item : Any σ) : Collection σ :=
  { cle with collection := item :: cle.collection }

/-- `Size`. -/
def size (cle : Collection σ) : Nat := cle.collection.length

/-- `GetItem`: the item at `index`, or the bounds error. -/
def getItem (cle : Collection σ) (index : Int) : Except String (Any σ) :=
  if index < 0 ∨ cle.collection.length ≤ index then .error "collection index out of bounds"
  else .ok (cle.collection.getD index.toNat (.array []))

/-- The loop of `Rnage` from position `i` on: the items whose position lies in
`[statIndex, endIndex]`. -/
def rangeFrom (statIndex endIndex : Int) : List (Any σ) → Nat → List (Any σ)
  | [], _ => []
  | v :: rest, i =>
    if statIndex ≤ i ∧ (i : Int) ≤ endIndex then v :: rangeFrom statIndex endIndex rest (i + 1)
    else rangeFrom statIndex endIndex rest (i + 1)

/-- `Rnage` (so spelled in the source): the items between two positions, both included. -/
def rnage (cle : Collection σ) (statIndex endIndex : Int) : List (Any σ) :=
  rangeFrom statIndex endIndex cle.collection 0

/-- `GetItem` returns the item at a position inside the list, and the bounds error
exactly for a position outside it. -/
theorem getItem_spec (cle : Collection σ) (index : Int) :
    (∀ item, cle.getItem index = .ok item ↔ 0 ≤ index ∧ cle.collection[index.toNat]? = some item) ∧
      (cle.getItem index = .error "collection index out of bounds" ↔
        index < 0 ∨ cle.size ≤ index) := by
  unfold getItem size
  split
  · next outside =>
    refine ⟨fun item => ⟨fun returned => (by cases returned), fun ⟨nonneg, found⟩ => ?_⟩,
      by simp [outside]⟩
    have inside : index.toNat < cle.collection.length := (List.getElem?_eq_some_iff.mp found).1
    omega
  · next inside =>
    refine ⟨fun item => ?_, by simp [inside]⟩
    have position : index.toNat < cle.collection.length := by omega
    have nonneg : 0 ≤ index := by omega
    rw [List.getD_eq_getElem?_getD, List.getElem?_eq_getElem position]
    simp [nonneg]

/-- The loop of `Rnage` from position `i` keeps the items of the positions in
`[statIndex, endIndex]`: it cuts the list after `endIndex` and drops what lies before
`statIndex`. -/
theorem rangeFrom_eq (statIndex endIndex : Int) (items : List (Any σ)) (i : Nat) :
    rangeFrom statIndex endIndex items i =
      (items.take (endIndex + 1 - i).toNat).drop (statIndex - i).toNat := by
  induction items generalizing i with
  | nil => simp [rangeFrom]
  | cons v rest ih =>
    simp only [rangeFrom, ih]
    by_cases ended : endIndex < i
    · rw [if_neg (by omega), (by omega : (endIndex + 1 - i).toNat = 0),
        (by omega : (endIndex + 1 - ((i + 1 : Nat) : Int)).toNat = 0)]
      simp
    obtain ⟨n, kept⟩ : ∃ n, (endIndex + 1 - i).toNat = n + 1 := ⟨(endIndex - i).toNat, by omega⟩
    have later : (endIndex + 1 - ((i + 1 : Nat) : Int)).toNat = n := by omega
    rw [kept, later, List.take_succ_cons]
    split
    · next inside =>
      rw [(by omega : (statIndex - i).toNat = 0), (by omega : (statIndex - ((i + 1 : Nat) : Int)).toNat = 0)]
      simp
    · next before =>
      obtain ⟨k, skipped⟩ : ∃ k, (statIndex - i).toNat = k + 1 := ⟨(statIndex - i - 1).toNat, by omega⟩
      rw [skipped, (by omega : (statIndex - ((i + 1 : Nat) : Int)).toNat = k), List.drop_succ_cons]

/-- **`Rnage`** returns the items at positions `statIndex` to `endIndex`, both included and
clipped to the list. -/
theorem rnage_eq (cle : Collection σ) (statIndex endIndex : Int) :
    cle.rnage statIndex endIndex = (cle.collection.take (endIndex + 1).toNat).drop statIndex.toNat := by
  simp [rnage, rangeFrom_eq]

variable [DecidableEq σ]

/-- The `for i, v := range cle.Collection` loop of `Remove`: the position of the first
element `==` to `item` (inside `some`), `some none` when the loop ends, or `none` when a
comparison panics. -/
def findItem (item : Any σ) : List (Any σ) → Option (Option Nat)
  | [] => some none
  | v :: rest =>
    match anyEq v item with
    | none => none
    | some true => some (some 0)
    | some false => (findItem item rest).map (Option.map (· + 1))

/-- **`Collection.Remove`.** The collection afterwards and the returned error (`none` is
`nil`), or `none` when the call panics. The hit at position `i` is cut out by
`append(cle.Collection[:i], cle.Collection[i+1:]...)`. -/
def remove (cle : Collection σ) (item : Any σ) : Option (Collection σ × Option String) :=
  match findItem item cle.collection with
  | none => none
  | some (some i) =>
    some ({ cle with collection := cle.collection.take i ++ cle.collection.drop (i + 1) }, none)
  | some none => some (cle, some "collection item not found")

theorem findItem_eq_none_iff (item : Any σ) (items : List (Any σ))
    (missing : ∀ v ∈ items, anyEq v item ≠ some true) :
    findItem item items = none ↔ ∃ v ∈ items, v.SameContainer item := by
  induction items with
  | nil => simp [findItem]
  | cons v rest ih =>
    have ih := ih fun u member => missing u (List.mem_cons_of_mem v member)
    cases compared : anyEq v item with
    | none => simpa [findItem, compared] using .inl ((anyEq_eq_none_iff v item).mp compared)
    | some equal =>
      cases equal with
      | true => exact (missing v (List.mem_cons_self v rest) compared).elim
      | false =>
        have notSame : ¬ v.SameContainer item := by
          rw [← anyEq_eq_none_iff, compared]; exact Option.some_ne_none false
        simp [findItem, compared, ih, notSame]

/-- Against an item no element is `==` to, the loop ends without a hit unless it
panics. -/
theorem findItem_ne_some_some (item : Any σ) (items : List (Any σ))
    (missing : ∀ v ∈ items, anyEq v item ≠ some true) (i : Nat) :
    findItem item items ≠ some (some i) := by
  induction items generalizing i with
  | nil => simp [findItem]
  | cons v rest ih =>
    have ih := ih fun u member => missing u (List.mem_cons_of_mem v member)
    cases compared : anyEq v item with
    | none => simp [findItem, compared]
    | some equal =>
      cases equal with
      | true => exact (missing v (List.mem_cons_self v rest) compared).elim
      | false =>
        cases i with
        | zero => simp [findItem, compared]
        | succ i => simpa [findItem, compared] using ih i

/-- Against a scalar the list does not hold, the loop ends without a hit. -/
theorem findItem_of_not_mem {item : Any σ} (scalar : item.IsScalar) :
    ∀ {items : List (Any σ)}, item ∉ items → findItem item items = some none
  | [], _ => rfl
  | v :: rest, absent => by
    obtain ⟨equal, compared, equal_iff⟩ := anyEq_of_isScalar v scalar
    have differ : equal = false := Bool.eq_false_iff.mpr fun hit =>
      absent (equal_iff.mp hit ▸ List.mem_cons_self v rest)
    simp only [findItem, compared, differ,
      findItem_of_not_mem scalar fun member => absent (List.mem_cons_of_mem v member),
      Option.map_some', Option.map_none']

/-- Against a scalar, the loop stops at the first element equal to it. -/
theorem findItem_first {item : Any σ} (scalar : item.IsScalar) (after : List (Any σ)) :
    ∀ {before : List (Any σ)}, item ∉ before →
      findItem item (before ++ item :: after) = some (some before.length)
  | [], _ => by
    obtain ⟨equal, compared, equal_iff⟩ := anyEq_of_isScalar item scalar
    simp [findItem, compared, equal_iff.mpr rfl]
  | v :: before, absent => by
    obtain ⟨equal, compared, equal_iff⟩ := anyEq_of_isScalar v scalar
    have differ : equal = false := Bool.eq_false_iff.mpr fun hit =>
      absent (equal_iff.mp hit ▸ List.mem_cons_self v before)
    have rest := findItem_first scalar after fun member => absent (List.mem_cons_of_mem v member)
    rw [List.cons_append]
    simp only [findItem, compared, differ, rest, Option.map_some', List.length_cons]

/-- A member of a list has a first occurrence. -/
theorem exists_first_of_mem {α : Type} {item : α} :
    ∀ {items : List α}, item ∈ items →
      ∃ before after, items = before ++ item :: after ∧ item ∉ before
  | v :: rest, member => by
    by_cases same : v = item
    · exact ⟨[], rest, by rw [same]; rfl, List.not_mem_nil item⟩
    · obtain ⟨before, after, split, absent⟩ :=
        exists_first_of_mem ((List.mem_cons.mp member).resolve_left (Ne.symm same))
      refine ⟨v :: before, after, by rw [split]; rfl, ?_⟩
      simpa [Ne.symm same] using absent

/-- The call panics exactly when the loop does. -/
theorem remove_eq_none_iff_findItem (cle : Collection σ) (item : Any σ) :
    cle.remove item = none ↔ findItem item cle.collection = none := by
  unfold remove
  split <;> simp_all

/-- `Remove` panics exactly when the item and some element are both slices or both
maps. -/
theorem remove_eq_none_iff (cle : Collection σ) (item : Any σ) :
    cle.remove item = none ↔ ∃ v ∈ cle.collection, v.SameContainer item := by
  rw [remove_eq_none_iff_findItem]
  by_cases scalar : item.IsScalar
  · have noPanic : ¬ ∃ v ∈ cle.collection, v.SameContainer item := by
      rintro ⟨v, -, same⟩
      cases v <;> cases item <;> simp_all [Any.SameContainer, Any.IsScalar]
    by_cases member : item ∈ cle.collection
    · obtain ⟨pre, post, split, absent⟩ := exists_first_of_mem member
      rw [split, findItem_first scalar post absent]
      simpa [split] using noPanic
    · simpa [findItem_of_not_mem scalar member] using noPanic
  · exact findItem_eq_none_iff item _ fun v _ => anyEq_ne_some_true_of_not_isScalar v scalar

/-- **`Remove` on JSON collections.** It panics exactly when the item and some element
are both slices or both maps. Otherwise it returns `nil` exactly when some element equals
the item, and then cuts out the first such element and keeps the others in order; when
none does it returns an error and leaves the collection unchanged. -/
theorem remove_spec (cle : Collection Scalar) (item : Json) :
    (cle.remove item = none ↔ ∃ v ∈ cle.collection, v.SameContainer item) ∧
    ∀ after err, cle.remove item = some (after, err) →
      (err = none ↔ item ∈ cle.collection) ∧
      (err = none → ∃ pre post, cle.collection = pre ++ item :: post ∧ item ∉ pre ∧
        after = { cle with collection := pre ++ post }) ∧
      (err ≠ none → after = cle) := by
  refine ⟨remove_eq_none_iff cle item, fun after err returned => ?_⟩
  by_cases member : item ∈ cle.collection
  · have scalar : item.IsScalar := by
      by_contra container
      have panics := (remove_eq_none_iff cle item).mpr
        ⟨item, member, Any.sameContainer_self container⟩
      simp [panics] at returned
    obtain ⟨pre, post, split, absent⟩ := exists_first_of_mem member
    have found := findItem_first scalar post absent
    rw [← split] at found
    simp only [remove, found, Option.some.injEq, Prod.mk.injEq] at returned
    obtain ⟨rfl, rfl⟩ := returned
    exact ⟨by simpa using member, fun _ => ⟨pre, post, split, absent, by simp [split]⟩,
      fun nonNil => (nonNil rfl).elim⟩
  · have noHit : ∀ i, findItem item cle.collection ≠ some (some i) := by
      by_cases scalar : item.IsScalar
      · simp [findItem_of_not_mem scalar member]
      · exact findItem_ne_some_some item _
          (fun v _ => anyEq_ne_some_true_of_not_isScalar v scalar)
    unfold remove at returned
    split at returned
    · cases returned
    · exact (noHit _ ‹_›).elim
    · simp only [Option.some.injEq, Prod.mk.injEq] at returned
      obtain ⟨rfl, rfl⟩ := returned
      simp [member]

/-- `Remove` panics on a list holding an empty slice when asked to remove an empty
slice. -/
theorem remove_panics_on_slices :
    (⟨[.array []], 0⟩ : Collection Scalar).remove (.array []) = none := rfl

end Collection

end Wiredb
