import Wiredb.Conf.Options
import Wiredb.Vfs.Convert

/-! # The HTTP layer

`server.New` checks the port against `minPort` and `maxPort` and installs the auth
password. The typed controllers have three shapes: `PUT /<kind>/{key}` binds the body into
an acquired value, builds its record with `AcquirePoolSegment` and stores it; `GET` fetches
the record and converts it; `DELETE` removes the key. The storage engine
`vfs.LogStructuredFS` is not in the repository: `Wiredb.Storage` takes the three calls the
controllers make as functions of the engine's state.

Every configuration that passes `Vaildated` starts the server and installs its password
(`Wiredb.newServer_of_vaildated`). A `PUT` answers once; it changes the engine only when it
answers 201, and then stores the record `AcquirePoolSegment` builds from the bound value
(`Wiredb.putController_spec`). A `DELETE` whose engine call fails answers 500 and then,
for want of a `return`, 204 as well (`Wiredb.deleteController_replies`). Each typed
controller is its shape applied to its conversion, reply field and binding.

On an engine that returns the record last put (`Wiredb.Storage.Lawful`) and a codec that
reads a set's bytes back, a `GET /set/{key}` after a `PUT` that answered 201 returns the
members the body bound (`Wiredb.getSetController_after_put`): the set `AcquireSet` hands
the `GET` in a reachable state is empty, so no earlier request leaks into the reply. On
such an engine a record is never read back as another type: a `GET` through the conversion
of any other kind answers 500 (`Wiredb.getController_after_put_of_ne`).
-/

namespace Wiredb

/-! ### Starting the server -/

/-- `server.Options`. -/
structure Options where
  port : Int
  auth : String

/-- `HttpServer`, by its port; the `http.Server` it wraps is left out. -/
structure HttpServer where
  port : Int
  deriving DecidableEq

/-- `minPort`. -/
def minPort : Int := 1024

/-- `maxPort`, `1 << 16`. -/
def maxPort : Int := 65536

/-- **`New`**, with the process-wide `authPassword` before and after the call. -/
def newServer (authPassword : String) (opt : Options) : Except String (HttpServer × String) :=
  if opt.port < minPort ∨ maxPort < opt.port then .error "HTTP server port illegal"
  else .ok (⟨opt.port⟩, if opt.auth ≠ "" then opt.auth else authPassword)

/-- A configuration that passes `Vaildated` starts the server on its port, with its
password installed: validation is stricter than `New`'s own port check. -/
theorem newServer_of_vaildated {opt : ServerOptions} (valid : vaildated opt = none)
    (authPassword : String) :
    newServer authPassword ⟨opt.port, opt.password⟩ = .ok (⟨opt.port⟩, opt.password) := by
  rw [vaildated_eq] at valid
  simp only [Option.orElse_eq_none, validatePort_eq_none_iff, validatePassword,
    requireNonEmpty_eq_none_iff] at valid
  obtain ⟨⟨low, high⟩, -, password, -⟩ := valid
  have inRange : ¬(opt.port < minPort ∨ maxPort < opt.port) := by
    simp only [minPort, maxPort, not_or, not_lt]
    omega
  simp [newServer, inRange, password]

/-- `New` at the built-in defaults. -/
theorem newServer_of_defaultOptions :
    vaildated defaultOptions = none ∧
      newServer "" ⟨defaultOptions.port, defaultOptions.password⟩ =
        .ok (⟨defaultOptions.port⟩, defaultOptions.password) :=
  ⟨by decide, newServer_of_vaildated (by decide) ""⟩

/-! ### Controllers -/

/-- The calls the controllers make on `vfs.LogStructuredFS`, as functions of the engine's
state: `PutSegment`, `FetchSegment` (the key's version and its record) and
`DeleteSegment`. -/
structure Storage (τ : Type) where
  putSegment : τ → String → Segment → Except String τ
  fetchSegment : τ → String → Except String (Nat × Segment)
  deleteSegment : τ → String → Except String τ

/-- The `{"message": …}` reply of `PUT` controllers on success. -/
def putSucceed : String := "request processed succeed."

/-- The `{"message": …}` reply of `DELETE` controllers. -/
def deleteSucceed : String := "delete data succeed."

/-- The `{"message": …}` reply of `GET` controllers for a key the engine does not have. -/
def keyNotFound : String := "key data not found."

variable {τ α β : Type} (storage : Storage τ)

/-- **The shape of every `PutXController`** at engine state `st`: the replies written with
`ctx.JSON`, each a status and a message, and the engine state after. `bound` is
`ShouldBindJSON` into the acquired value, `record` is `AcquirePoolSegment` with the value's
own TTL. -/
def putController (st : τ) (key : String) (bound : Except String α)
    (record : α → Except String Segment) : List (Nat × String) × τ :=
  match bound with
  | .error err => ([(400, err)], st)
  | .ok value =>
    match record value with
    | .error err => ([(500, err)], st)
    | .ok seg =>
      match storage.putSegment st key seg with
      | .error err => ([(500, err)], st)
      | .ok st' => ([(201, putSucceed)], st')

/-- **The shape of every `GetXController`**: the status, and either the message or the
reply's one field, named `field`, with the converted value. -/
def getController (st : τ) (key field : String) (convert : Segment → Except String β) :
    Nat × Except String (String × β) :=
  match storage.fetchSegment st key with
  | .error _ => (404, .error keyNotFound)
  | .ok (_, seg) =>
    match convert seg with
    | .error err => (500, .error err)
    | .ok value => (200, .ok (field, value))

/-- **The shape of every `DeleteXController`**: the replies written and the engine state
after. The error branch has no `return`, so the 204 reply follows the 500 one. -/
def deleteController (st : τ) (key : String) : List (Nat × String) × τ :=
  match storage.deleteSegment st key with
  | .error err => ([(500, err), (204, deleteSucceed)], st)
  | .ok st' => ([(204, deleteSucceed)], st')

/-- The body of `QueryController`'s reply. -/
structure QueryBody where
  type : String
  key : List UInt8
  value : List UInt8
  ttl : BitVec 64
  mvcc : Nat

/-- `QueryController` at clock reading `now`: the record as the engine holds it. -/
def queryController (st : τ) (key : String) (now : BitVec 64) : Nat × Except String QueryBody :=
  match storage.fetchSegment st key with
  | .error _ => (404, .error keyNotFound)
  | .ok (version, seg) => (200, .ok ⟨seg.getTypeString, seg.key, seg.toBytes, seg.ttl now, version⟩)

/-! ### The typed controllers

Each controller of `server.go` is its shape applied to its type: the conversion and the
reply field of a `GET`, the binding and the record of a `PUT`. The value a conversion or a
binding fills is what `AcquireX` returned; `seg` is the record `AcquirePoolSegment` took from
its pool, and `now₁` and `now₂` its clock readings. -/

section Typed

variable {σ ρ : Type} (toBytes : Pooled σ ρ → Except String (List UInt8))
  (encode : List UInt8 → Except String (List UInt8))

/-- `GetCollectionController`. -/
def getCollectionController (unmarshal : List UInt8 → Except String (List (Any σ))) (st : τ)
    (key : String) (collection : Collection σ) : Nat × Except String (String × List (Any σ)) :=
  getController storage st key "collection" fun seg =>
    (seg.toCollection unmarshal collection).map Collection.collection

/-- `PutCollectionController`. -/
def putCollectionController (decode : List UInt8 → Except String (Body (List (Any σ))))
    (st : τ) (key : String) (body : List UInt8) (collection : Collection σ) (seg : Segment)
    (now₁ now₂ : BitVec 64) : List (Nat × String) × τ :=
  putController storage st key (collection.shouldBindJSON decode body) fun collection =>
    acquirePoolSegment toBytes encode seg key.toUTF8.toList (.collection collection)
      collection.ttl now₁ now₂

/-- `GetTableController`. -/
def getTableController (unmarshal : List UInt8 → Except String (List (String × Any σ)))
    (st : τ) (key : String) (tab : Table σ) :
    Nat × Except String (String × List (String × Any σ)) :=
  getController storage st key "table" fun seg => (seg.toTable unmarshal tab).map Table.table

/-- `PutTableController`. -/
def putTableController (decode : List UInt8 → Except String (Body (List (String × Any σ))))
    (st : τ) (key : String) (body : List UInt8) (tab : Table σ) (seg : Segment)
    (now₁ now₂ : BitVec 64) : List (Nat × String) × τ :=
  putController storage st key (tab.shouldBindJSON decode body) fun tab =>
    acquirePoolSegment toBytes encode seg key.toUTF8.toList (.table tab) tab.ttl now₁ now₂

/-- `GetZsetController`: the reply's `"list"` is the score map. -/
def getZsetController (unmarshal : List UInt8 → Except String (List (String × ρ))) (st : τ)
    (key : String) (zset : ZSet ρ) :
    Nat × Except String (String × AList fun _ : String => ρ) :=
  getController storage st key "list" fun seg => (seg.toZSet unmarshal zset).map ZSet.zset

/-- `PutZsetController`. -/
def putZsetController (decode : List UInt8 → Except String (ZSetBody ρ)) (st : τ)
    (key : String) (body : List UInt8) (zset : ZSet ρ) (seg : Segment) (now₁ now₂ : BitVec 64) :
    List (Nat × String) × τ :=
  putController storage st key (shouldBindJSON decode body zset) fun zset =>
    acquirePoolSegment toBytes encode seg key.toUTF8.toList (.zset zset) zset.ttl now₁ now₂

/-- `GetTextController`. -/
def getTextController (unmarshal : List UInt8 → Except String String) (st : τ) (key : String)
    (text : Text) : Nat × Except String (String × String) :=
  getController storage st key "text" fun seg => (seg.toText unmarshal text).map Text.content

/-- `PutTextController`. -/
def putTextController (decode : List UInt8 → Except String (Body String)) (st : τ)
    (key : String) (body : List UInt8) (text : Text) (seg : Segment) (now₁ now₂ : BitVec 64) :
    List (Nat × String) × τ :=
  putController storage st key (text.shouldBindJSON decode body) fun text =>
    acquirePoolSegment toBytes encode seg key.toUTF8.toList (.text text) text.ttl now₁ now₂

/-- `GetNumberController`. -/
def getNumberController (unmarshal : List UInt8 → Except String (BitVec 64)) (st : τ)
    (key : String) (number : Number) : Nat × Except String (String × BitVec 64) :=
  getController storage st key "number" fun seg =>
    (seg.toNumber unmarshal number).map Number.value

/-- `PutNumberController`. -/
def putNumberController (decode : List UInt8 → Except String (Body (BitVec 64))) (st : τ)
    (key : String) (body : List UInt8) (number : Number) (seg : Segment)
    (now₁ now₂ : BitVec 64) : List (Nat × String) × τ :=
  putController storage st key (number.shouldBindJSON decode body) fun number =>
    acquirePoolSegment toBytes encode seg key.toUTF8.toList (.number number) number.ttl now₁ now₂

/-- `GetSetController`. -/
def getSetController (unmarshal : List UInt8 → Except String (List (String × Bool))) (st : τ)
    (key : String) (set : Set) : Nat × Except String (String × AList fun _ : String => Bool) :=
  getController storage st key "set" fun seg => (seg.toSet unmarshal set).map Set.set

/-- `PutSetController`. -/
def putSetController (decode : List UInt8 → Except String (Body (List (String × Bool))))
    (st : τ) (key : String) (body : List UInt8) (set : Set) (seg : Segment)
    (now₁ now₂ : BitVec 64) : List (Nat × String) × τ :=
  putController storage st key (set.shouldBindJSON decode body) fun set =>
    acquirePoolSegment toBytes encode seg key.toUTF8.toList (.set set) set.ttl now₁ now₂

end Typed

/-- `DeleteCollectionController`. -/
def deleteCollectionController : τ → String → List (Nat × String) × τ := deleteController storage

/-- `DeleteTableController`. -/
def deleteTableController : τ → String → List (Nat × String) × τ := deleteController storage

/-- `DeleteZsetController`. -/
def deleteZsetController : τ → String → List (Nat × String) × τ := deleteController storage

/-- `DeleteTextController`. -/
def deleteTextController : τ → String → List (Nat × String) × τ := deleteController storage

/-- `DeleteNumberController`. -/
def deleteNumberController : τ → String → List (Nat × String) × τ := deleteController storage

/-- `DeleteSetController`. -/
def deleteSetController : τ → String → List (Nat × String) × τ := deleteController storage

/-- **What a `PUT` does.** It writes one reply. Its status is 201 exactly when the body
binds, the record is built and the engine stores it, and the engine state after is then
the one `PutSegment` returns; any other status leaves the engine as it was. A bad body
answers 400 with the binding's error, and the record's or the engine's error answers
500. -/
theorem putController_spec (st : τ) (key : String) (bound : Except String α)
    (record : α → Except String Segment) :
    ∃ status message, (putController storage st key bound record).1 = [(status, message)] ∧
      (status = 201 ↔ ∃ value seg st', bound = .ok value ∧ record value = .ok seg ∧
        storage.putSegment st key seg = .ok st' ∧ (putController storage st key bound record).2 = st') ∧
      (status ≠ 201 → (putController storage st key bound record).2 = st) ∧
      (status = 400 ↔ bound = .error message) := by
  cases bound with
  | error err => exact ⟨400, err, rfl, by simp, fun _ => rfl, by simp⟩
  | ok value =>
    simp only [putController]
    cases built : record value with
    | error err => exact ⟨500, err, rfl, by simp [built], fun _ => rfl, by simp⟩
    | ok seg =>
      dsimp only
      cases stored : storage.putSegment st key seg with
      | error err => exact ⟨500, err, rfl, by simp [built, stored], fun _ => rfl, by simp⟩
      | ok st' => exact ⟨201, putSucceed, rfl, by simp [built, stored], absurd rfl, by simp⟩

/-- A `PUT` that answers 201 stored the record built from the bound value, and left the
engine as `PutSegment` returned it. -/
theorem putController_created {st : τ} {key : String} {bound : Except String α}
    {record : α → Except String Segment}
    (created : (putController storage st key bound record).1 = [(201, putSucceed)]) :
    ∃ value seg st', bound = .ok value ∧ record value = .ok seg ∧
      storage.putSegment st key seg = .ok st' ∧ (putController storage st key bound record).2 = st' := by
  obtain ⟨status, message, replies, stored, -, -⟩ := putController_spec storage st key bound record
  rw [replies, List.cons.injEq, Prod.mk.injEq] at created
  exact stored.mp created.1.1

/-- **What a `DELETE` writes.** One 204 reply when the engine deletes the key; when it
fails, its error with status 500, and then the 204 reply all the same, with the engine
unchanged. -/
theorem deleteController_replies (st : τ) (key : String) :
    (storage.deleteSegment st key).isOk = true ∧
        (deleteController storage st key).1 = [(204, deleteSucceed)] ∨
      ∃ err, storage.deleteSegment st key = .error err ∧
        deleteController storage st key = ([(500, err), (204, deleteSucceed)], st) := by
  unfold deleteController
  rcases storage.deleteSegment st key with err | st'
  · exact .inr ⟨err, rfl, rfl⟩
  · exact .inl ⟨rfl, rfl⟩

/-! ### A `PUT` read back by a `GET` -/

/-- What the round trip needs of `vfs.LogStructuredFS`: a `FetchSegment` after a
`PutSegment` returns the record put under the key. -/
structure Storage.Lawful (storage : Storage τ) : Prop where
  fetch_put : ∀ st key seg st', storage.putSegment st key seg = .ok st' →
    ∃ version, storage.fetchSegment st' key = .ok (version, seg)

/-- What the round trip needs of `ToBytes`, `transformer.Encode` and `msgpack.Unmarshal` on
a set: the bytes stored for a set unmarshal to its members, each once, with their values. -/
def SetCodec {σ ρ : Type} (toBytes : Pooled σ ρ → Except String (List UInt8))
    (encode : List UInt8 → Except String (List UInt8))
    (unmarshal : List UInt8 → Except String (List (String × Bool))) : Prop :=
  ∀ set bytes encoded, toBytes (.set set) = .ok bytes → encode bytes = .ok encoded →
    ∃ entries, unmarshal encoded = .ok entries ∧ (entries.map Prod.fst).Nodup ∧
      ∀ member, entries.lookup member = set.set.lookup member

/-- **A `GET /set/{key}` reads back what a `PUT /set/{key}` stored.** Whenever a `PUT`
answers 201, on an engine that returns the record last put and with a codec that reads a
set's bytes back, the `GET` that follows answers 200 with the members and values the body
bound, as long as `AcquireSet` passes its type assertion in a reachable state: the set it
returns is empty, so nothing of an earlier request joins the reply. -/
theorem getSetController_after_put {σ ρ : Type} {storage : Storage τ} (lawful : storage.Lawful)
    {toBytes : Pooled σ ρ → Except String (List UInt8)}
    {encode : List UInt8 → Except String (List UInt8)}
    {unmarshal : List UInt8 → Except String (List (String × Bool))}
    (codec : SetCodec toBytes encode unmarshal) {p : Process σ ρ} (reachable : p.Reachable)
    {fresh : Set} {rest : List (Pooled σ ρ)}
    (got : PoolGet PoolName.setPools.new (p.pools .setPools) (.set fresh) rest)
    {decode : List UInt8 → Except String (Body (List (String × Bool)))} {st : τ}
    {key : String} {body : List UInt8} {set : Set} {seg : Segment} {now₁ now₂ : BitVec 64}
    (created : (putSetController storage toBytes encode decode st key body set seg now₁ now₂).1 =
      [(201, putSucceed)]) :
    ∃ bound members, set.shouldBindJSON decode body = .ok bound ∧
      getSetController storage unmarshal
          (putSetController storage toBytes encode decode st key body set seg now₁ now₂).2 key
          fresh = (200, .ok ("set", members)) ∧
      ∀ member, members.lookup member = bound.set.lookup member := by
  obtain ⟨bound, record, st', bound_eq, built, put, after⟩ := putController_created storage created
  obtain ⟨bytes, encoded, serialized, transformed⟩ := newSegment_inputs built
  obtain rfl := Except.ok.inj (built.symm.trans (newSegment_of_ok serialized transformed _ _ _))
  obtain ⟨version, fetched⟩ := lawful.fetch_put _ _ _ _ put
  obtain ⟨entries, decodes, distinct, same⟩ := codec bound bytes encoded serialized transformed
  obtain rfl : fresh = Set.newSet := Pooled.set.inj (Process.acquire_eq_new reachable got rfl)
  refine ⟨bound, storeEntries ∅ entries, bound_eq, ?_, fun member => ?_⟩
  · rw [putSetController, after]
    simp [getSetController, getController, fetched, Segment.toSet, Segment.convert, toKind,
      decodes, Except.map, Set.newSet]
  · rw [lookup_storeEntries _ distinct, same, AList.lookup_empty, Option.or_none]

/-- An engine that keeps every record put, newest first, and fetches the newest record of a
key at version 0. -/
def memStorage : Storage (List (String × Segment)) where
  putSegment st key seg := .ok ((key, seg) :: st)
  fetchSegment st key :=
    match st.lookup key with
    | some seg => .ok (0, seg)
    | none => .error keyNotFound
  deleteSegment st key := .ok (st.filter fun entry => entry.1 != key)

theorem memStorage_lawful : memStorage.Lawful :=
  ⟨fun st key seg st' put => by
    cases put
    exact ⟨0, by simp [memStorage]⟩⟩

/-- A serializer for the one set `{"a": true}`, written as the byte `1`; it refuses every
other value. -/
def oneSetBytes : Pooled Unit Unit → Except String (List UInt8)
  | .set set => if set.set.entries = [⟨"a", true⟩] then .ok [1] else .error "unsupported"
  | _ => .error "unsupported"

/-- The decoder that reads the byte `1` back as `{"a": true}`. -/
def oneSetUnmarshal (bytes : List UInt8) : Except String (List (String × Bool)) :=
  if bytes = [1] then .ok [("a", true)] else .error "unsupported"

theorem oneSetBytes_codec : SetCodec oneSetBytes .ok oneSetUnmarshal := by
  intro set bytes encoded serialized transformed
  have one : set.set.entries = [⟨"a", true⟩] := by
    by_contra other
    simp [oneSetBytes, other] at serialized
  simp only [oneSetBytes, one, if_true, Except.ok.injEq] at serialized
  cases transformed
  cases serialized
  refine ⟨[("a", true)], rfl, by simp, fun member => ?_⟩
  rw [AList.lookup, one]
  by_cases same : member = "a"
  · subst same
    rfl
  · simp [List.lookup_cons, beq_false_of_ne same, List.dlookup_cons_ne, same]

/-- The round trip on `memStorage` right after `init`, for a body binding the member
`"a"`: the `PUT` binds `{"a": true}` and the `GET` reads it back. -/
theorem getSetController_after_put_one :
    Set.newSet.shouldBindJSON (fun _ => .ok ⟨[("a", true)], none⟩) [] =
        .ok ⟨(∅ : AList fun _ : String => Bool).insert "a" true, 0⟩ ∧
      (putSetController memStorage oneSetBytes .ok (fun _ => .ok ⟨[("a", true)], none⟩) [] "k"
          [] Set.newSet ⟨0, .set, 0, 0, 0, 0, [], []⟩ 0 0).1 = [(201, putSucceed)] ∧
      ∃ bound members,
        Set.newSet.shouldBindJSON (fun _ => .ok ⟨[("a", true)], none⟩) [] = .ok bound ∧
        getSetController memStorage oneSetUnmarshal
            (putSetController memStorage oneSetBytes .ok (fun _ => .ok ⟨[("a", true)], none⟩) []
              "k" [] Set.newSet ⟨0, .set, 0, 0, 0, 0, [], []⟩ 0 0).2 "k" Set.newSet =
          (200, .ok ("set", members)) ∧
        ∀ member, members.lookup member = bound.set.lookup member :=
  ⟨rfl, by decide, getSetController_after_put memStorage_lawful oneSetBytes_codec
    (.refl : (Process.init : Process Unit Unit).Reachable) (PoolGet.new _) (by decide)⟩

/-- **A record is never read back as another type.** After a `PUT` that answered 201, on an
engine that returns the record last put, a `GET` of the same key through the conversion of
any other kind answers 500 with that conversion's error, whatever its decoder and the value
it fills: `NewSegment` stamps the stored value's kind, and every `ToX` checks it before
decoding. -/
theorem getController_after_put_of_ne {σ ρ γ δ : Type} {storage : Storage τ}
    (lawful : storage.Lawful) {toBytes : Pooled σ ρ → Except String (List UInt8)}
    {encode : List UInt8 → Except String (List UInt8)} {wrap : α → Pooled σ ρ}
    {ttl : α → BitVec 64} {st : τ} {key : String} {bound : Except String α} {seg : Segment}
    {keyBytes : List UInt8} {now₁ now₂ : BitVec 64}
    (created : (putController storage st key bound fun x =>
      acquirePoolSegment toBytes encode seg keyBytes (wrap x) (ttl x) now₁ now₂).1 =
        [(201, putSucceed)])
    {kind : Kind} (other : ∀ x, toKind (wrap x) ≠ kind) (name field : String)
    (unmarshal : List UInt8 → Except String γ) (store : δ → γ → δ) (acquired : δ)
    (project : δ → β) :
    getController storage (putController storage st key bound fun x =>
        acquirePoolSegment toBytes encode seg keyBytes (wrap x) (ttl x) now₁ now₂).2 key field
        (fun seg => (Segment.convert kind name unmarshal store seg acquired).map project) =
      (500, .error ("not support conversion to " ++ name ++ " type")) := by
  obtain ⟨value, record, st', -, built, put, after⟩ := putController_created storage created
  obtain ⟨version, fetched⟩ := lawful.fetch_put _ _ _ _ put
  rw [after]
  simp only [getController, fetched, Segment.convert_newSegment_kind built (other value)]
  rfl

/-- The set `{"a": true}` put on `memStorage` and read back as a sorted set. -/
theorem getZsetController_after_putSetController :
    (putSetController memStorage oneSetBytes .ok (fun _ => .ok ⟨[("a", true)], none⟩) [] "k" []
        Set.newSet ⟨0, .set, 0, 0, 0, 0, [], []⟩ 0 0).1 = [(201, putSucceed)] ∧
      getZsetController memStorage (fun _ => .ok ([] : List (String × Int)))
          (putSetController memStorage oneSetBytes .ok (fun _ => .ok ⟨[("a", true)], none⟩) []
            "k" [] Set.newSet ⟨0, .set, 0, 0, 0, 0, [], []⟩ 0 0).2 "k" ZSet.newZSet =
        (500, .error "not support conversion to zset type") :=
  ⟨by decide, getController_after_put_of_ne memStorage_lawful (by decide)
    (fun _ => by simp [toKind]) "zset" "list" (fun _ => .ok ([] : List (String × Int))) _
    ZSet.newZSet ZSet.zset⟩

end Wiredb
