import Mathlib.Data.List.Nodup
import Wiredb.Types.Any

/-! # Tables

`types.Table` is a `map[string]any` with a TTL. `SearchItem(key)` reports the value
stored under `key` in the table and, through `searchInMap`, in every map nested in it
through map-valued entries, at any depth.

The specification names an occurrence by its path: the keys of the map-valued entries
followed from the table to a map holding `key` (`Wiredb.follow`). On a table whose maps
have distinct keys, `SearchItem` returns the values at an enumeration of exactly these
paths, each path once (`Wiredb.Table.searchItem_spec`); the enumeration is
`Wiredb.matchPaths`, which follows the recursion of `searchInMap`. `AddItem` and
`RemoveItem` keep the maps' keys distinct (`Wiredb.Table.wellFormed_run`), so
`SearchItem`'s law holds of every table they build.
-/

namespace Wiredb

variable {σ : Type}

/-- `types.Table`: the map and the TTL the request carried. -/
structure Table (σ : Type) where
  table : List (String × Any σ)
  ttl : BitVec 64

mutual

/-- `searchInMap`: the value under `key` in `m`, then the hits of the loop over `m`. -/
def searchInMap (m : List (String × Any σ)) (key : String) : List (Any σ) :=
  (m.lookup key).toList ++ searchNested m key
termination_by (sizeOf m, 1)

/-- The `for _, value := range m` loop of `searchInMap` over the remaining entries: a
value that is a `map[string]any` is searched recursively. -/
def searchNested : List (String × Any σ) → String → List (Any σ)
  | [], _ => []
  | (_, .object nested) :: rest, key => searchInMap nested key ++ searchNested rest key
  | _ :: rest, key => searchNested rest key
termination_by entries => (sizeOf entries, 0)
decreasing_by all_goals simp_wf; omega

end

namespace Table

/-- `NewTable`: an empty map and no TTL. -/
def newTable : Table σ := ⟨[], 0⟩

/-- `Clear`: TTL 0 and an empty map. -/
def clear (tab : Table σ) : Table σ := { tab with ttl := 0, table := [] }

/-- `ContainsKey`. -/
def containsKey (tab : Table σ) (key : String) : Bool := (tab.table.lookup key).isSome

/-- `GetItem`: the stored value, `nil` when there is none. -/
def getItem (tab : Table σ) (key : String) : Option (Any σ) := tab.table.lookup key

/-- `AddItem`: `tab.Table[key] = value`. -/
def addItem (tab : Table σ) (key : String) (value : Any σ) : Table σ :=
  { tab with table := setField tab.table key value }

/-- `RemoveItem`: `delete(tab.Table, key)`. -/
def removeItem (tab : Table σ) (key : String) : Table σ :=
  { tab with table := tab.table.filter fun entry => entry.1 != key }

/-- `Size`. -/
def size (tab : Table σ) : Nat := tab.table.length

/-- **`Table.SearchItem`.** The value under `key` in the table, then the hits of the
loop over the table's map-valued entries. -/
def searchItem (tab : Table σ) (key : String) : List (Any σ) :=
  (tab.table.lookup key).toList ++ searchNested tab.table key

theorem searchItem_eq_searchInMap (tab : Table σ) (key : String) :
    tab.searchItem key = searchInMap tab.table key := by
  rw [searchInMap]; rfl

/-- The writes a handler makes on a table. -/
inductive Op (σ : Type) where
  | addItem (key : String) (value : Any σ)
  | removeItem (key : String)

/-- One write. -/
def step (tab : Table σ) : Op σ → Table σ
  | .addItem key value => tab.addItem key value
  | .removeItem key => tab.removeItem key

/-- A sequence of writes. -/
def run (tab : Table σ) (ops : List (Op σ)) : Table σ := ops.foldl step tab

/-- The value a write stores is well formed, as every value decoded from JSON is. -/
def Op.WellFormed : Op σ → Prop
  | .addItem _ value => value.WellFormed
  | .removeItem _ => True

theorem wellFormed_step {tab : Table σ} (wf : (Any.object tab.table).WellFormed) {op : Op σ}
    (opWf : op.WellFormed) : (Any.object (tab.step op).table).WellFormed := by
  cases op with
  | addItem key value => exact wf.setField key opWf
  | removeItem key => exact wf.filter _

/-- **Writes keep a table well formed**, so every table built from `NewTable` by `AddItem`
and `RemoveItem` of decoded values meets the hypothesis of `Wiredb.Table.searchItem_spec`. -/
theorem wellFormed_run {tab : Table σ} (wf : (Any.object tab.table).WellFormed)
    (ops : List (Op σ)) (opsWf : ∀ op ∈ ops, op.WellFormed) :
    (Any.object (tab.run ops).table).WellFormed := by
  induction ops generalizing tab with
  | nil => exact wf
  | cons op ops ih =>
    exact ih (wellFormed_step wf (opsWf op (List.mem_cons_self _ _)))
      fun op member => opsWf op (List.mem_cons_of_mem _ member)

example : (Any.object ((newTable : Table Scalar).run
    [Op.addItem "a" (.scalar Scalar.null), .removeItem "b"]).table).WellFormed :=
  wellFormed_run (.object [] List.nodup_nil (by simp)) _
    fun op member => by simp at member; rcases member with rfl | rfl <;> constructor

end Table

/-! ### Occurrences named by paths -/

/-- The map reached from `m` by following the keys of `path`, each through a
map-valued entry. -/
def follow (m : List (String × Any σ)) : List String → Option (List (String × Any σ))
  | [] => some m
  | k :: path =>
    match m.lookup k with
    | some (.object nested) => follow nested path
    | _ => none

/-- The value under `key` in the map at the end of `path`. -/
def valueAt (m : List (String × Any σ)) (key : String) (path : List String) : Option (Any σ) :=
  (follow m path).bind fun reached => reached.lookup key

mutual

/-- The paths of the maps holding `key`, in the order `searchInMap` visits them. -/
def matchPaths (m : List (String × Any σ)) (key : String) : List (List String) :=
  (if (m.lookup key).isSome then [[]] else []) ++ matchNested m key
termination_by (sizeOf m, 1)

/-- The paths that `searchInMap`'s loop visits from the remaining entries. -/
def matchNested : List (String × Any σ) → String → List (List String)
  | [], _ => []
  | (k, .object nested) :: rest, key =>
    (matchPaths nested key).map (k :: ·) ++ matchNested rest key
  | _ :: rest, key => matchNested rest key
termination_by entries => (sizeOf entries, 0)
decreasing_by all_goals simp_wf; omega

end

theorem mem_matchNested (key : String) (path : List String) :
    ∀ entries : List (String × Any σ), path ∈ matchNested entries key ↔
      ∃ k nested rest, (k, .object nested) ∈ entries ∧ rest ∈ matchPaths nested key ∧
        path = k :: rest
  | [] => by simp [matchNested]
  | (k, value) :: entries => by
    have ih := mem_matchNested key path entries
    cases value with
    | object nested =>
      simp only [matchNested, List.mem_append, List.mem_map, ih, List.mem_cons, Prod.mk.injEq,
        Any.object.injEq]
      constructor
      · rintro (⟨rest, member, rfl⟩ | ⟨k', nested', rest, member, found, rfl⟩)
        · exact ⟨k, nested, rest, .inl ⟨rfl, rfl⟩, member, rfl⟩
        · exact ⟨k', nested', rest, .inr member, found, rfl⟩
      · rintro ⟨k', nested', rest, ⟨⟨rfl, rfl⟩⟩ | member, found, rfl⟩
        · exact .inl ⟨rest, found, rfl⟩
        · exact .inr ⟨k', nested', rest, member, found, rfl⟩
    | scalar leaf => simp [matchNested, ih]
    | array items => simp [matchNested, ih]

/-- On a map with distinct keys, `matchPaths` lists exactly the paths that reach a map
holding `key`. -/
theorem mem_matchPaths (key : String) :
    ∀ (path : List String) (m : List (String × Any σ)), (Any.object m).WellFormed →
      (path ∈ matchPaths m key ↔ ∃ reached, follow m path = some reached ∧
        (reached.lookup key).isSome)
  | [], m, _ => by
    rw [matchPaths]
    simp [mem_matchNested, follow]
  | k :: path, m, wf => by
    rw [matchPaths]
    simp only [List.mem_append, List.mem_ite_nil_right, List.mem_singleton, reduceCtorEq,
      and_false, false_or, mem_matchNested, List.cons.injEq, follow]
    constructor
    · rintro ⟨k', nested, rest, member, found, rfl, rfl⟩
      rw [(lookup_eq_some_iff_mem wf.keys_nodup).mpr member]
      exact (mem_matchPaths key _ nested (wf.of_mem member)).mp found
    · intro reaches
      cases stored : m.lookup k with
      | none => simp [stored] at reaches
      | some value =>
        cases value with
        | object nested =>
          have member := (lookup_eq_some_iff_mem wf.keys_nodup).mp stored
          simp only [stored] at reaches
          exact ⟨k, nested, path, member,
            (mem_matchPaths key path nested (wf.of_mem member)).mpr reaches, rfl, rfl⟩
        | scalar _ => simp [stored] at reaches
        | array _ => simp [stored] at reaches

theorem matchNested_cons_of_not_object {k : String} {value : Any σ}
    (notObject : ∀ nested, value ≠ .object nested) (rest : List (String × Any σ)) (key : String) :
    matchNested ((k, value) :: rest) key = matchNested rest key := by
  cases value with
  | object nested => exact (notObject nested rfl).elim
  | scalar _ => simp only [matchNested]
  | array _ => simp only [matchNested]

theorem searchNested_cons_of_not_object {k : String} {value : Any σ}
    (notObject : ∀ nested, value ≠ .object nested) (rest : List (String × Any σ)) (key : String) :
    searchNested ((k, value) :: rest) key = searchNested rest key := by
  cases value with
  | object nested => exact (notObject nested rfl).elim
  | scalar _ => simp only [searchNested]
  | array _ => simp only [searchNested]

/-- On a map with distinct keys, no path is listed twice. -/
theorem matchPaths_nodup (key : String) (m : List (String × Any σ))
    (wf : (Any.object m).WellFormed) : (matchPaths m key).Nodup :=
  matchPaths.induct
    (fun m key => (Any.object m).WellFormed → (matchPaths m key).Nodup)
    (fun entries key => (entries.map Prod.fst).Nodup → (∀ entry ∈ entries, entry.2.WellFormed) →
      (matchNested entries key).Nodup)
    (fun m key loop wf => by
      rw [matchPaths]
      refine List.nodup_append.mpr
        ⟨by split <;> simp, loop wf.keys_nodup fun _ member => wf.of_mem member, ?_⟩
      intro path top nested
      split at top
      · obtain rfl := List.mem_singleton.mp top
        simp [mem_matchNested] at nested
      · simp at top)
    (fun _ => by simp [matchNested])
    (fun k nested rest key inner loop nodup values => by
      rw [matchNested]
      simp only [List.map_cons, List.nodup_cons, List.mem_map] at nodup
      refine List.nodup_append.mpr ⟨(inner (values _ (List.mem_cons_self _ _))).map
        List.cons_injective, loop nodup.2 fun entry member =>
          values entry (List.mem_cons_of_mem _ member), ?_⟩
      intro path first second
      obtain ⟨_, -, rfl⟩ := List.mem_map.mp first
      obtain ⟨k', nested', _, member, -, same⟩ := (mem_matchNested key _ rest).mp second
      exact nodup.1 ⟨(k', .object nested'), member, (List.cons.inj same).1.symm⟩)
    (fun ⟨k, value⟩ rest key notObject loop nodup values => by
      rw [matchNested_cons_of_not_object (fun nested same => notObject k nested (by rw [same]))]
      exact loop (List.nodup_cons.mp nodup).2 fun entry member =>
        values entry (List.mem_cons_of_mem _ member))
    m key wf

/-- On a map with distinct keys, `searchInMap` returns the values at the paths
`matchPaths` lists, in that order. -/
theorem searchInMap_eq_filterMap (key : String) (m : List (String × Any σ))
    (wf : (Any.object m).WellFormed) :
    searchInMap m key = (matchPaths m key).filterMap (valueAt m key) :=
  searchInMap.induct
    (fun m key => (Any.object m).WellFormed →
      searchInMap m key = (matchPaths m key).filterMap (valueAt m key))
    (fun entries key => ∀ top : List (String × Any σ), (Any.object top).WellFormed →
      (∀ entry ∈ entries, entry ∈ top) →
        searchNested entries key = (matchNested entries key).filterMap (valueAt top key))
    (fun m key loop wf => by
      rw [searchInMap, matchPaths, List.filterMap_append, loop m wf fun _ member => member]
      congr 1
      cases stored : m.lookup key <;> simp [stored, valueAt, follow])
    (fun _ => by simp [searchNested, matchNested])
    (fun k nested rest key inner loop top wf within => by
      have member := within _ (List.mem_cons_self _ _)
      have stored := (lookup_eq_some_iff_mem wf.keys_nodup).mpr member
      rw [searchNested, matchNested, List.filterMap_append, List.filterMap_map,
        inner (wf.of_mem member), loop top wf fun entry member =>
          within entry (List.mem_cons_of_mem _ member)]
      congr 2
      funext path
      simp [valueAt, follow, stored])
    (fun ⟨k, value⟩ rest key notObject loop top wf within => by
      have notObject' : ∀ nested, value ≠ .object nested :=
        fun nested same => notObject k nested (by rw [same])
      rw [searchNested_cons_of_not_object notObject', matchNested_cons_of_not_object notObject']
      exact loop top wf fun entry member => within entry (List.mem_cons_of_mem _ member))
    m key wf

namespace Table

/-- **`SearchItem` reports every occurrence once.** On a table whose maps have distinct
keys, `SearchItem(key)` returns, in order, the values under `key` at an enumeration of
paths that lists each path reaching a map holding `key` exactly once and no other. -/
theorem searchItem_spec (tab : Table σ) (key : String) (wf : (Any.object tab.table).WellFormed) :
    ∃ paths : List (List String), paths.Nodup ∧
      (∀ path, path ∈ paths ↔
        ∃ reached, follow tab.table path = some reached ∧ (reached.lookup key).isSome) ∧
      tab.searchItem key = paths.filterMap (valueAt tab.table key) :=
  ⟨matchPaths tab.table key, matchPaths_nodup key _ wf,
    fun path => mem_matchPaths key path _ wf,
    (searchItem_eq_searchInMap tab key).trans (searchInMap_eq_filterMap key _ wf)⟩

/-- The table of the source's `TestTables_SearchItem`. -/
def nestedTable : Table Scalar :=
  ⟨[("key1", .scalar (.string "value1")),
    ("key2", .object [("key1", .scalar (.string "nested value1")),
      ("key3", .scalar (.string "nested value3"))]),
    ("key3", .object [("key1", .scalar (.string "deep nested value1"))])], 0⟩

theorem nestedTable_wellFormed : (Any.object nestedTable.table).WellFormed := by
  refine .object _ (by decide) fun field member => ?_
  simp only [nestedTable, List.mem_cons, List.not_mem_nil, or_false] at member
  rcases member with rfl | rfl | rfl
  · exact .scalar _
  all_goals exact .object_of_scalars (by decide) (by simp)

theorem searchItem_spec_nestedTable :
    (Any.object nestedTable.table).WellFormed ∧
      ∃ paths : List (List String), paths.Nodup ∧
        (∀ path, path ∈ paths ↔ ∃ reached, follow nestedTable.table path = some reached ∧
          (reached.lookup "key1").isSome) ∧
        nestedTable.searchItem "key1" = paths.filterMap (valueAt nestedTable.table "key1") :=
  ⟨nestedTable_wellFormed, searchItem_spec nestedTable "key1" nestedTable_wellFormed⟩

example : nestedTable.searchItem "key1" = [.scalar (.string "value1"),
    .scalar (.string "nested value1"), .scalar (.string "deep nested value1")] := by
  simp [nestedTable, searchItem, searchNested, searchInMap]

end Table

end Wiredb
