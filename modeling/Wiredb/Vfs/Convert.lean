import Wiredb.Vfs.Segment

/-! # Decoding records into typed values

`Segment.ToSet`, `ToZSet`, `ToText`, `ToCollection`, `ToTable` and `ToNumber` share one
shape (`Wiredb.Segment.convert`): check the record's kind, acquire a cleared value from its
pool, and unmarshal the record's value into one field of it. Unmarshalling into a map
stores each decoded entry into the map already there, as msgpack does into a non-nil map;
into a string, an integer or a slice it overwrites the field. `ShouldBindJSON` in the
`PUT` controllers does the same to a value's exported fields (`Wiredb.bindJSON`,
`Wiredb.shouldBindJSON`). A decoded table keeps its maps' keys distinct
(`Wiredb.Segment.toTable_wellFormed`).

The earlier `vfs` decoded into a zero value instead of a pooled one. In every reachable
state each pooled conversion returns exactly what the unpooled one does
(`Wiredb.conversions_eq_unpooled`): the pools are unobservable in what `ToX` returns.

Neither decoder can see the unexported `sortedScores` cache that `GetRange` and `GetRank`
iterate, and a `ZSet` that `AcquireZSet` returns in any reachable state has an empty one
(`Wiredb.Process.acquireZSet_of_reachable`). So every `ZSet` the program decodes holds the
decoded members in its map, yet answers every range with nothing and every rank with
`(-1, false)` (`Wiredb.Segment.toZSet_queries_empty`, `Wiredb.shouldBindJSON_queries_empty`,
`Wiredb.decoded_zset_loses_members`).
-/

namespace Wiredb

variable {σ ρ : Type}

/-! ### Storing decoded entries -/

/-- `m[key] = value` for each decoded entry in wire order: an unmarshaller storing a wire
map into the map already in the field. -/
def storeEntries {β : Type} (m : AList fun _ : String => β) (entries : List (String × β)) :
    AList fun _ : String => β :=
  entries.foldl (fun m entry => m.insert entry.1 entry.2) m

/-- `m[key] = value` for each decoded entry, on the entries of a `map[string]any`. -/
def storeFields {β : Type} (m : List (String × β)) (entries : List (String × β)) :
    List (String × β) :=
  entries.foldl (fun m entry => setField m entry.1 entry.2) m

/-- The members after storing are the members before and the decoded keys. -/
theorem mem_storeEntries {β : Type} (m : AList fun _ : String => β)
    (entries : List (String × β)) (key : String) :
    key ∈ storeEntries m entries ↔ key ∈ m ∨ key ∈ entries.map Prod.fst := by
  induction entries generalizing m with
  | nil => simp [storeEntries]
  | cons entry rest ih =>
    simp only [storeEntries, List.foldl_cons] at ih ⊢
    rw [ih, AList.mem_insert]
    simp only [List.map_cons, List.mem_cons]
    tauto

/-- Storing entries with distinct keys: a decoded key reads its decoded value, any other
key what the map held. -/
theorem lookup_storeEntries {β : Type} (m : AList fun _ : String => β)
    {entries : List (String × β)} (distinct : (entries.map Prod.fst).Nodup) (key : String) :
    (storeEntries m entries).lookup key = (entries.lookup key).or (m.lookup key) := by
  induction entries generalizing m with
  | nil => rfl
  | cons entry rest ih =>
    obtain ⟨name, value⟩ := entry
    simp only [List.map_cons, List.nodup_cons] at distinct
    simp only [storeEntries, List.foldl_cons] at ih ⊢
    rw [ih _ distinct.2]
    by_cases same : key = name
    · subst same
      have absent : rest.lookup key = none := Option.eq_none_iff_forall_not_mem.mpr
        fun found member => distinct.1 (List.mem_map.mpr
          ⟨_, (lookup_eq_some_iff_mem distinct.2).mp member, rfl⟩)
      simp [absent, AList.lookup_insert]
    · simp [List.lookup_cons, beq_false_of_ne same, AList.lookup_insert_ne same]

/-- Storing well-formed decoded values keeps a map well formed. -/
theorem Any.WellFormed.storeFields {m : List (String × Any σ)}
    (wf : (Any.object m).WellFormed) {entries : List (String × Any σ)}
    (decoded : ∀ entry ∈ entries, entry.2.WellFormed) :
    (Any.object (storeFields m entries)).WellFormed := by
  induction entries generalizing m with
  | nil => exact wf
  | cons entry rest ih =>
    exact ih (wf.setField entry.1 (decoded entry (List.mem_cons_self _ _)))
      fun entry member => decoded entry (List.mem_cons_of_mem _ member)

/-- Storing into an empty map leaves a member for each decoded key. -/
theorem storeEntries_empty_eq_nil_iff {β : Type} (entries : List (String × β)) :
    (storeEntries ∅ entries).keys = [] ↔ entries = [] := by
  constructor
  · intro empty
    cases entries with
    | nil => rfl
    | cons entry rest =>
      have member : entry.1 ∈ (storeEntries ∅ (entry :: rest)).keys :=
        (mem_storeEntries _ _ _).mpr (.inr (by simp))
      rw [empty] at member
      cases member
  · rintro rfl
    rfl

namespace Segment

/-! ### The conversions -/

/-- The shape of every `Segment.ToX`: the kind check and its error, then `Unmarshal` of the
record's value into the field that `store` writes of the acquired value. On an error the
value goes back to its pool, cleared. -/
def convert {α β : Type} (kind : Kind) (name : String) (unmarshal : List UInt8 → Except String β)
    (store : α → β → α) (s : Segment) (acquired : α) : Except String α :=
  if s.type ≠ kind then .error ("not support conversion to " ++ name ++ " type")
  else (unmarshal s.value).map (store acquired)

/-- `ToSet`: unmarshal into `set.Set`. -/
def toSet (unmarshal : List UInt8 → Except String (List (String × Bool))) (s : Segment)
    (set : Set) : Except String Set :=
  convert .set "set" unmarshal (fun set entries => { set with set := storeEntries set.set entries })
    s set

/-- `ToZSet`: unmarshal into `zset.ZSet`. -/
def toZSet (unmarshal : List UInt8 → Except String (List (String × ρ))) (s : Segment)
    (zset : ZSet ρ) : Except String (ZSet ρ) :=
  convert .zset "zset" unmarshal
    (fun zset entries => { zset with zset := storeEntries zset.zset entries }) s zset

/-- `ToText`: unmarshal into `text.Content`. -/
def toText (unmarshal : List UInt8 → Except String String) (s : Segment) (text : Text) :
    Except String Text :=
  convert .text "text" unmarshal (fun text content => { text with content := content }) s text

/-- `ToCollection`: unmarshal into `collection.Collection`. -/
def toCollection (unmarshal : List UInt8 → Except String (List (Any σ))) (s : Segment)
    (collection : Collection σ) : Except String (Collection σ) :=
  convert .collection "collection" unmarshal
    (fun collection items => { collection with collection := items }) s collection

/-- `ToTable`: unmarshal into `table.Table`. -/
def toTable (unmarshal : List UInt8 → Except String (List (String × Any σ))) (s : Segment)
    (table : Table σ) : Except String (Table σ) :=
  convert .table "table" unmarshal
    (fun table fields => { table with table := storeFields table.table fields }) s table

/-- `ToNumber`: unmarshal into `number.Value`. -/
def toNumber (unmarshal : List UInt8 → Except String (BitVec 64)) (s : Segment)
    (number : Number) : Except String Number :=
  convert .number "number" unmarshal (fun number value => { number with value := value }) s number

section Convert

variable {α β : Type} {kind : Kind} {name : String} {unmarshal : List UInt8 → Except String β}
  {store : α → β → α} {s : Segment} {acquired : α}

/-- A record of another kind is refused, and the error names the target type. -/
theorem convert_of_ne (other : s.type ≠ kind) :
    convert kind name unmarshal store s acquired =
      .error ("not support conversion to " ++ name ++ " type") := by
  simp [convert, other]

/-- A record of the right kind converts exactly when its value unmarshals, into the
acquired value with the decoded field stored. -/
theorem convert_eq_ok_iff {result : α} :
    convert kind name unmarshal store s acquired = .ok result ↔
      s.type = kind ∧ ∃ decoded, unmarshal s.value = .ok decoded ∧ result = store acquired decoded := by
  unfold convert
  by_cases same : s.type = kind
  · cases decoding : unmarshal s.value with
    | error err => simp [same, decoding, Except.map]
    | ok decoded => simp [same, decoding, Except.map, eq_comm]
  · simp [same]

/-- A record written by `NewSegment` from a value passes exactly the kind check of that
value's conversion. -/
theorem convert_newSegment_kind {toBytes : Pooled σ ρ → Except String (List UInt8)}
    {encode : List UInt8 → Except String (List UInt8)} {key : List UInt8} {data : Pooled σ ρ}
    {ttl now₁ now₂ : BitVec 64} (made : newSegment toBytes encode key data ttl now₁ now₂ = .ok s)
    (other : toKind data ≠ kind) :
    convert kind name unmarshal store s acquired =
      .error ("not support conversion to " ++ name ++ " type") :=
  convert_of_ne (by rw [(newSegment_fields toBytes encode made).2.1]; exact other)

end Convert

/-- **`ToTable` keeps tables well formed**: from a well-formed table, with a decoder whose
values are well formed as a Go map decoder's are, it returns a well-formed table, so the law
of `Wiredb.Table.searchItem_spec` holds of every table `ToTable` decodes into `NewTable()`. -/
theorem toTable_wellFormed {unmarshal : List UInt8 → Except String (List (String × Any σ))}
    (decoderWf : ∀ bytes fields, unmarshal bytes = .ok fields → ∀ field ∈ fields, field.2.WellFormed)
    {s : Segment} {table result : Table σ} (wf : (Any.object table.table).WellFormed)
    (converted : s.toTable unmarshal table = .ok result) : (Any.object result.table).WellFormed := by
  obtain ⟨-, fields, decodes, rfl⟩ := convert_eq_ok_iff.mp converted
  exact wf.storeFields (decoderWf _ _ decodes)

end Segment

/-! ### The conversions before the pools

The earlier `vfs` of `github.com/auula/wiredb` declared a zero value (`var set types.Set`)
and unmarshalled into it, where the current one acquires the value from its pool. Into a
nil map msgpack allocates one and stores the decoded entries, as into an empty map. -/

namespace Unpooled

/-- The earlier `ToSet`: into the zero `types.Set`. -/
def toSet (unmarshal : List UInt8 → Except String (List (String × Bool))) (s : Segment) :
    Except String Set :=
  s.toSet unmarshal ⟨∅, 0⟩

/-- The earlier `ToZSet`: into the zero `types.ZSet`. -/
def toZSet (unmarshal : List UInt8 → Except String (List (String × ρ))) (s : Segment) :
    Except String (ZSet ρ) :=
  s.toZSet unmarshal ⟨∅, 0, []⟩

/-- The earlier `ToText`: into the zero `types.Text`. -/
def toText (unmarshal : List UInt8 → Except String String) (s : Segment) : Except String Text :=
  s.toText unmarshal ⟨"", 0⟩

/-- The earlier `ToCollection`: into the zero `types.Collection`. -/
def toCollection (unmarshal : List UInt8 → Except String (List (Any σ))) (s : Segment) :
    Except String (Collection σ) :=
  s.toCollection unmarshal ⟨[], 0⟩

/-- The earlier `ToTable`: into the zero `types.Table`. -/
def toTable (unmarshal : List UInt8 → Except String (List (String × Any σ))) (s : Segment) :
    Except String (Table σ) :=
  s.toTable unmarshal ⟨[], 0⟩

/-- The earlier `ToNumber`: into the zero `types.Number`. -/
def toNumber (unmarshal : List UInt8 → Except String (BitVec 64)) (s : Segment) :
    Except String Number :=
  s.toNumber unmarshal ⟨0, 0⟩

end Unpooled

/-- **The pools change no conversion.** In every reachable state, each `Segment.ToX` whose
`AcquireX` passes its type assertion returns exactly what the earlier, unpooled `ToX`
returns, whatever the record and the decoder: the value a pool hands out is the zero value
the earlier code declared. -/
theorem conversions_eq_unpooled {p : Process σ ρ} (reachable : p.Reachable) (s : Segment) :
    (∀ set rest, PoolGet PoolName.setPools.new (p.pools .setPools) (.set set) rest →
      ∀ unmarshal, s.toSet unmarshal set = Unpooled.toSet unmarshal s) ∧
    (∀ zset rest, PoolGet PoolName.zsetPools.new (p.pools .zsetPools) (.zset zset) rest →
      ∀ unmarshal, s.toZSet unmarshal zset = Unpooled.toZSet unmarshal s) ∧
    (∀ text rest, PoolGet PoolName.textPools.new (p.pools .textPools) (.text text) rest →
      ∀ unmarshal, s.toText unmarshal text = Unpooled.toText unmarshal s) ∧
    (∀ collection rest,
      PoolGet PoolName.collectionPools.new (p.pools .collectionPools) (.collection collection) rest →
      ∀ unmarshal, s.toCollection unmarshal collection = Unpooled.toCollection unmarshal s) ∧
    (∀ table rest, PoolGet PoolName.tablePools.new (p.pools .tablePools) (.table table) rest →
      ∀ unmarshal, s.toTable unmarshal table = Unpooled.toTable unmarshal s) ∧
    (∀ number rest, PoolGet PoolName.numberPools.new (p.pools .numberPools) (.number number) rest →
      ∀ unmarshal, s.toNumber unmarshal number = Unpooled.toNumber unmarshal s) := by
  refine ⟨?_, ?_, ?_, ?_, ?_, ?_⟩ <;> intro x rest got unmarshal <;>
    cases Process.acquire_eq_new reachable got rfl <;> rfl

/-- The conversions right after `init`, on a record of kind `Set`. -/
theorem conversions_eq_unpooled_at_init :
    let s : Segment := ⟨0, .set, 0, 0, 0, 0, [], []⟩
    (Process.init : Process Unit Int).Reachable ∧
    (∀ set rest, PoolGet PoolName.setPools.new ((Process.init : Process Unit Int).pools .setPools)
        (.set set) rest → ∀ unmarshal, s.toSet unmarshal set = Unpooled.toSet unmarshal s) ∧
    (∀ zset rest, PoolGet PoolName.zsetPools.new ((Process.init : Process Unit Int).pools .zsetPools)
        (.zset zset) rest → ∀ unmarshal, s.toZSet unmarshal zset = Unpooled.toZSet unmarshal s) ∧
    (∀ text rest, PoolGet PoolName.textPools.new ((Process.init : Process Unit Int).pools .textPools)
        (.text text) rest → ∀ unmarshal, s.toText unmarshal text = Unpooled.toText unmarshal s) ∧
    (∀ collection rest, PoolGet PoolName.collectionPools.new
        ((Process.init : Process Unit Int).pools .collectionPools) (.collection collection) rest →
      ∀ unmarshal, s.toCollection unmarshal collection = Unpooled.toCollection unmarshal s) ∧
    (∀ table rest, PoolGet PoolName.tablePools.new ((Process.init : Process Unit Int).pools .tablePools)
        (.table table) rest → ∀ unmarshal, s.toTable unmarshal table = Unpooled.toTable unmarshal s) ∧
    (∀ number rest, PoolGet PoolName.numberPools.new
        ((Process.init : Process Unit Int).pools .numberPools) (.number number) rest →
      ∀ unmarshal, s.toNumber unmarshal number = Unpooled.toNumber unmarshal s) :=
  ⟨.refl, conversions_eq_unpooled .refl _⟩

/-! ### Binding a request body -/

/-- The fields of a `PUT /zset/{key}` body that `ShouldBindJSON` decodes: the entries of
the `"zset"` object in order, and `"ttl"` when the body has it. -/
structure ZSetBody (ρ : Type) where
  zset : List (String × ρ)
  ttl : Option (BitVec 64)

/-- `ctx.ShouldBindJSON(zset)`: `decode` is the JSON decoder with the binding's validation;
the decoded entries are stored into the existing map and the TTL is overwritten when the
body has one. -/
def shouldBindJSON (decode : List UInt8 → Except String (ZSetBody ρ)) (body : List UInt8)
    (zset : ZSet ρ) : Except String (ZSet ρ) :=
  (decode body).map fun fields =>
    { zset with
      zset := storeEntries zset.zset fields.zset
      ttl := fields.ttl.getD zset.ttl }

/-- The fields of a `PUT` body that `ShouldBindJSON` decodes into one of the other typed
values: its data field (`"set"`, `"content"`, `"number"`, `"collection"` or `"table"`), and
`"ttl"` when the body has it. -/
structure Body (β : Type) where
  data : β
  ttl : Option (BitVec 64)

/-- The shape of `ctx.ShouldBindJSON(x)` on a typed value: `decode` is the JSON decoder with
the binding's validation, `store` writes the decoded data field into `x` as `json.Unmarshal`
does, and the TTL is overwritten when the body has one. -/
def bindJSON {α β : Type} (decode : List UInt8 → Except String (Body β)) (store : α → β → α)
    (ttl : α → BitVec 64) (setTTL : α → BitVec 64 → α) (body : List UInt8) (x : α) :
    Except String α :=
  (decode body).map fun fields => setTTL (store x fields.data) (fields.ttl.getD (ttl x))

/-- `ShouldBindJSON` into a `Set`: the members are stored into the existing map. -/
def Set.shouldBindJSON (decode : List UInt8 → Except String (Body (List (String × Bool)))) :
    List UInt8 → Set → Except String Set :=
  bindJSON decode (fun set entries => { set with set := storeEntries set.set entries }) Set.ttl
    fun set ttl => { set with ttl := ttl }

/-- `ShouldBindJSON` into a `Text`: the content is overwritten. -/
def Text.shouldBindJSON (decode : List UInt8 → Except String (Body String)) :
    List UInt8 → Text → Except String Text :=
  bindJSON decode (fun text content => { text with content := content }) Text.ttl
    fun text ttl => { text with ttl := ttl }

/-- `ShouldBindJSON` into a `Number`: the value is overwritten. -/
def Number.shouldBindJSON (decode : List UInt8 → Except String (Body (BitVec 64))) :
    List UInt8 → Number → Except String Number :=
  bindJSON decode (fun number value => { number with value := value }) Number.ttl
    fun number ttl => { number with ttl := ttl }

/-- `ShouldBindJSON` into a `Collection`: the slice is overwritten. -/
def Collection.shouldBindJSON (decode : List UInt8 → Except String (Body (List (Any σ)))) :
    List UInt8 → Collection σ → Except String (Collection σ) :=
  bindJSON decode (fun collection items => { collection with collection := items })
    Collection.ttl fun collection ttl => { collection with ttl := ttl }

/-- `ShouldBindJSON` into a `Table`: the fields are stored into the existing map. -/
def Table.shouldBindJSON (decode : List UInt8 → Except String (Body (List (String × Any σ)))) :
    List UInt8 → Table σ → Except String (Table σ) :=
  bindJSON decode (fun table fields => { table with table := storeFields table.table fields })
    Table.ttl fun table ttl => { table with ttl := ttl }

namespace Process

/-- In every reachable state, an `AcquireZSet` that passes its type assertion returns
`NewZSet()`: an empty map, TTL 0 and an empty cache. -/
theorem acquireZSet_of_reachable {p : Process σ ρ} (reachable : p.Reachable) {z : ZSet ρ}
    {rest : List (Pooled σ ρ)} (got : PoolGet PoolName.zsetPools.new (p.pools .zsetPools) (.zset z) rest) :
    z = ZSet.newZSet := by
  have cleared : (Pooled.zset z : Pooled σ ρ).clear = .zset z :=
    (get_of_sound (sound_of_reachable reachable) got).2
  simp only [Pooled.clear, Pooled.zset.injEq] at cleared
  rw [← cleared, ZSet.clear_eq_newZSet]

end Process

/-! ### Decoded sorted sets -/

section Queries

variable [LinearOrder ρ] [Zero ρ] (S : SortSlice)

/-- A `ZSet` with an empty cache finds no range: `GetRange` iterates the cache only. -/
theorem ZSet.getRange_of_cache_nil {z : ZSet ρ} (empty : z.sortedScores = []) (minScore maxScore : ρ) :
    (z.getRange S minScore maxScore).1 = [] := by
  have sorted : (z.sort S).sortedScores = [] :=
    ((ZSet.sort_perm z).trans (List.Perm.of_eq empty)).eq_nil
  simp [ZSet.getRange, sorted]

/-- A `ZSet` with an empty cache ranks nothing: `GetRank` iterates the cache only. -/
theorem ZSet.getRank_of_cache_nil {z : ZSet ρ} (empty : z.sortedScores = []) (value : String) :
    (z.getRank S value).1 = (-1, false) := by
  have sorted : (z.sort S).sortedScores = [] :=
    ((ZSet.sort_perm z).trans (List.Perm.of_eq empty)).eq_nil
  simp [ZSet.getRank, sorted, ZSet.rankLoop]

/-- **Every `ZSet` that `ToZSet` decodes answers no query.** In any reachable state, take
any `ZSet` that `AcquireZSet` returns and any record of kind `ZSet` whose value unmarshals
to `entries`: the conversion succeeds, its map holds exactly the decoded keys, and yet
`GetRange` returns nothing and `GetRank` returns `(-1, false)` for every argument. The
decoded `ZSet` breaks the invariant `Wiredb.ZSet.Inv` as soon as it has a member. -/
theorem Segment.toZSet_queries_empty {p : Process σ ρ} (reachable : p.Reachable) {z : ZSet ρ}
    {rest : List (Pooled σ ρ)} (got : PoolGet PoolName.zsetPools.new (p.pools .zsetPools) (.zset z) rest)
    {unmarshal : List UInt8 → Except String (List (String × ρ))} {s : Segment}
    (zsetKind : s.type = .zset) {entries : List (String × ρ)} (decodes : unmarshal s.value = .ok entries) :
    ∃ decoded, s.toZSet unmarshal z = .ok decoded ∧
      (∀ key, key ∈ decoded.zset ↔ key ∈ entries.map Prod.fst) ∧
      (decoded.Inv ↔ entries = []) ∧
      ∀ minScore maxScore value, (decoded.getRange S minScore maxScore).1 = [] ∧
        (decoded.getRank S value).1 = (-1, false) := by
  obtain rfl := Process.acquireZSet_of_reachable reachable got
  refine ⟨_, Segment.convert_eq_ok_iff.mpr ⟨zsetKind, _, decodes, rfl⟩, fun key => ?_, ?_,
    fun minScore maxScore value =>
      ⟨ZSet.getRange_of_cache_nil S rfl _ _, ZSet.getRank_of_cache_nil S rfl _⟩⟩
  · rw [mem_storeEntries]
    simp [ZSet.newZSet]
  · change List.Perm [] (storeEntries ∅ entries).keys ↔ entries = []
    rw [List.nil_perm]
    exact storeEntries_empty_eq_nil_iff entries

/-- `ToZSet` right after `init`, on a record holding `{"a": 1}`. -/
theorem toZSet_queries_empty_at_init :
    ∃ decoded, (⟨0, .zset, 0, 0, 0, 0, [], []⟩ : Segment).toZSet
        (fun _ => .ok [("a", (1 : Int))]) ZSet.newZSet = .ok decoded ∧
      (∀ key, key ∈ decoded.zset ↔ key ∈ [("a", (1 : Int))].map Prod.fst) ∧
      (decoded.Inv ↔ [("a", (1 : Int))] = []) ∧
      ∀ minScore maxScore value, (decoded.getRange SortSlice.insertion minScore maxScore).1 = [] ∧
        (decoded.getRank SortSlice.insertion value).1 = (-1, false) :=
  Segment.toZSet_queries_empty SortSlice.insertion
    (.refl : (Process.init : Process Unit Int).Reachable) (PoolGet.new _) rfl rfl

/-- **Every `ZSet` that `PutZsetController` binds answers no query**, in the same way:
`ShouldBindJSON` writes the map and the TTL and never the cache. -/
theorem shouldBindJSON_queries_empty {p : Process σ ρ} (reachable : p.Reachable) {z : ZSet ρ}
    {rest : List (Pooled σ ρ)} (got : PoolGet PoolName.zsetPools.new (p.pools .zsetPools) (.zset z) rest)
    {decode : List UInt8 → Except String (ZSetBody ρ)} {body : List UInt8} {fields : ZSetBody ρ}
    (decodes : decode body = .ok fields) :
    ∃ bound, shouldBindJSON decode body z = .ok bound ∧
      (∀ key, key ∈ bound.zset ↔ key ∈ fields.zset.map Prod.fst) ∧
      ∀ minScore maxScore value, (bound.getRange S minScore maxScore).1 = [] ∧
        (bound.getRank S value).1 = (-1, false) := by
  obtain rfl := Process.acquireZSet_of_reachable reachable got
  refine ⟨_, by simp only [shouldBindJSON, decodes]; rfl, fun key => ?_,
    fun minScore maxScore value =>
      ⟨ZSet.getRange_of_cache_nil S rfl _ _, ZSet.getRank_of_cache_nil S rfl _⟩⟩
  rw [mem_storeEntries]
  simp [ZSet.newZSet]

/-- `ShouldBindJSON` right after `init`, on a body holding `{"zset": {"a": 1}}`. -/
theorem shouldBindJSON_queries_empty_at_init :
    ∃ bound, shouldBindJSON (fun _ => .ok ⟨[("a", (1 : Int))], none⟩) [] ZSet.newZSet = .ok bound ∧
      (∀ key, key ∈ bound.zset ↔ key ∈ [("a", (1 : Int))].map Prod.fst) ∧
      ∀ minScore maxScore value, (bound.getRange SortSlice.insertion minScore maxScore).1 = [] ∧
        (bound.getRank SortSlice.insertion value).1 = (-1, false) :=
  @shouldBindJSON_queries_empty Unit Int _ _ SortSlice.insertion Process.init .refl _ _
    (PoolGet.new _) (fun _ => .ok ⟨[("a", 1)], none⟩) [] ⟨[("a", 1)], none⟩ rfl

end Queries

/-- A record of kind `ZSet` holding the score map `{"a": 1}`, read back through `ToZSet`
into the `NewZSet()` value that `AcquireZSet` returns, and the same map bound from a
request body: `"a"` is a member with score 1, yet `GetRange(0, 2)` is empty and
`GetRank("a")` is `(-1, false)`. -/
theorem decoded_zset_loses_members (S : SortSlice) (value : List UInt8) :
    (∃ decoded, (⟨0, .zset, 0, 0, 0, 0, [], value⟩ : Segment).toZSet
        (fun _ => .ok [("a", (1 : Int))]) ZSet.newZSet = .ok decoded ∧
      decoded.get "a" = (1, true) ∧ (decoded.getRange S 0 2).1 = [] ∧
      (decoded.getRank S "a").1 = (-1, false)) ∧
    ∃ bound, shouldBindJSON (fun _ => .ok ⟨[("a", (1 : Int))], none⟩) value ZSet.newZSet = .ok bound ∧
      bound.get "a" = (1, true) ∧ (bound.getRange S 0 2).1 = [] ∧
      (bound.getRank S "a").1 = (-1, false) :=
  ⟨⟨_, rfl, rfl, ZSet.getRange_of_cache_nil S rfl _ _, ZSet.getRank_of_cache_nil S rfl _⟩,
    _, rfl, rfl, ZSet.getRange_of_cache_nil S rfl _ _, ZSet.getRank_of_cache_nil S rfl _⟩

end Wiredb
