import Mathlib.Data.BitVec
import Wiredb.Types.Pool

/-! # Segments

A `vfs.Segment` is one record of the log: tombstone flag, kind, expiry and creation
instants in Unix nanoseconds, key and value sizes, key and value. `NewSegment` (and its
pooled twin `AcquirePoolSegment`, which overwrites every field of the pooled record,
`Wiredb.acquirePoolSegment_eq_newSegment`) serializes the typed value, runs the payload
through the transformer, and stamps the record from two clock readings.

The arithmetic is Go's: `uint64` and `int64` are `BitVec 64`, `uint32` is `BitVec 32`.
The expiry is the creation instant plus `ttl` seconds modulo `2^64`
(`Wiredb.expiry_toNat`), and `Size()` is the record length modulo `2^32`
(`Wiredb.newSegment_size`). While nothing wraps, the expiry lies after the creation
instant and `TTL()` counts the whole seconds left (`Wiredb.ttl_law`); a TTL of billions of
seconds wraps the `int64` duration or the `int64` cast in `TTL()`
(`Wiredb.ttl_wraps_at_huge_ttl`), and a record of four gigabytes wraps `Size()`
(`Wiredb.size_wraps_at_huge_record`).
-/

namespace Wiredb

/-- `vfs.Kind`, an `int8` enumeration in `iota` order. -/
inductive Kind where
  | set
  | zset
  | text
  | table
  | number
  | unknown
  | collection
  deriving DecidableEq, Repr

/-- `vfs.Segment`: `| DEL 1 | KIND 1 | EAT 8 | CAT 8 | KLEN 4 | VLEN 4 | KEY ? | VALUE ? | CRC32 4 |`. -/
structure Segment where
  tombstone : BitVec 8
  type : Kind
  expiredAt : BitVec 64
  createdAt : BitVec 64
  keySize : BitVec 32
  valueSize : BitVec 32
  key : List UInt8
  value : List UInt8

/-- `KindToString`. -/
def kindToString : Kind → String
  | .set => "set"
  | .zset => "zset"
  | .text => "text"
  | .table => "table"
  | .number => "number"
  | .unknown => "unknown"
  | .collection => "collection"

/-- Modelled from the spec: `SEGMENT_PADDING`, which `Segment.Size` adds and the source
does not define; the record format fixes the header at 26 bytes. -/
def segmentPadding : BitVec 32 := 26

variable {σ ρ : Type}

/-- `toKind`: the kind of the value's dynamic type. -/
def toKind : Pooled σ ρ → Kind
  | .set _ => .set
  | .zset _ => .zset
  | .text _ => .text
  | .table _ => .table
  | .number _ => .number
  | .collection _ => .collection

/-- The expiry `NewSegment` stamps at clock reading `now`: `0` for no TTL, otherwise
`time.Now().Add(time.Second * time.Duration(ttl)).UnixNano()` read as a `uint64`. The
`uint64` TTL is reinterpreted as an `int64` duration and multiplied in wrapping `int64`
arithmetic; `Add` moves the instant by that duration exactly, as no `int64` duration can
overflow its seconds field, and `UnixNano` wraps to `int64`. -/
def expiry (ttl now : BitVec 64) : BitVec 64 :=
  if 0 < ttl then now + 1000000000 * ttl else 0

section Build

variable (toBytes : Pooled σ ρ → Except String (List UInt8))
  (encode : List UInt8 → Except String (List UInt8))

/-- **`NewSegment`.** `toBytes` is the value's `ToBytes` (msgpack), `encode` is
`transformer.Encode`; `now₁` and `now₂` are the two readings of `time.Now().UnixNano()`,
the second taken only for a positive TTL. -/
def newSegment (key : List UInt8) (data : Pooled σ ρ) (ttl now₁ now₂ : BitVec 64) :
    Except String Segment := do
  let bytes ← toBytes data
  let encodedata ← (encode bytes).mapError fun err => "transformer encode: " ++ err
  return {
    type := toKind data
    tombstone := 0
    createdAt := now₁
    expiredAt := expiry ttl now₂
    keySize := BitVec.ofNat 32 key.length
    valueSize := BitVec.ofNat 32 encodedata.length
    key := key
    value := encodedata }

/-- `AcquirePoolSegment`: `NewSegment` writing into the record `seg` taken from
`segmentPool`; on an error the record goes back to the pool. -/
def acquirePoolSegment (seg : Segment) (key : List UInt8) (data : Pooled σ ρ)
    (ttl now₁ now₂ : BitVec 64) : Except String Segment := do
  let bytes ← toBytes data
  let encodedata ← (encode bytes).mapError fun err => "transformer encode: " ++ err
  return { seg with
    type := toKind data
    tombstone := 0
    createdAt := now₁
    expiredAt := expiry ttl now₂
    keySize := BitVec.ofNat 32 key.length
    valueSize := BitVec.ofNat 32 encodedata.length
    key := key
    value := encodedata }

/-- A pooled record leaks nothing into the record built from it. -/
theorem acquirePoolSegment_eq_newSegment (seg : Segment) (key : List UInt8) (data : Pooled σ ρ)
    (ttl now₁ now₂ : BitVec 64) :
    acquirePoolSegment toBytes encode seg key data ttl now₁ now₂ =
      newSegment toBytes encode key data ttl now₁ now₂ := rfl

/-- What a record from `NewSegment` holds. -/
theorem newSegment_fields {key : List UInt8} {data : Pooled σ ρ} {ttl now₁ now₂ : BitVec 64}
    {seg : Segment} (made : newSegment toBytes encode key data ttl now₁ now₂ = .ok seg) :
    seg.tombstone = 0 ∧ seg.type = toKind data ∧ seg.createdAt = now₁ ∧
      seg.expiredAt = expiry ttl now₂ ∧ seg.keySize = BitVec.ofNat 32 key.length ∧
      seg.valueSize = BitVec.ofNat 32 seg.value.length ∧ seg.key = key := by
  rcases serialized : toBytes data with _ | bytes
  · simp [newSegment, serialized, bind, Except.bind] at made
  rcases encoded : encode bytes with _ | value
  · simp [newSegment, serialized, encoded, bind, Except.bind, Except.mapError] at made
  simp only [newSegment, serialized, encoded, bind, Except.bind, Except.mapError, pure, Except.pure,
    Except.ok.injEq] at made
  subst made
  exact ⟨rfl, rfl, rfl, rfl, rfl, rfl, rfl⟩

end Build

/-- `NewSegment` once the value serializes to `bytes` and the transformer turns them into
`encoded`. -/
theorem newSegment_of_ok {toBytes : Pooled σ ρ → Except String (List UInt8)}
    {encode : List UInt8 → Except String (List UInt8)} {key : List UInt8} {data : Pooled σ ρ}
    {bytes encoded : List UInt8}
    (serialized : toBytes data = .ok bytes) (transformed : encode bytes = .ok encoded)
    (ttl now₁ now₂ : BitVec 64) :
    newSegment toBytes encode key data ttl now₁ now₂ = .ok {
      type := toKind data
      tombstone := 0
      createdAt := now₁
      expiredAt := expiry ttl now₂
      keySize := BitVec.ofNat 32 key.length
      valueSize := BitVec.ofNat 32 encoded.length
      key := key
      value := encoded } := by
  simp only [newSegment, serialized, transformed, bind, Except.bind, Except.mapError, pure,
    Except.pure]

/-- `NewSegment` succeeds only when the value serializes and the transformer encodes. -/
theorem newSegment_inputs {toBytes : Pooled σ ρ → Except String (List UInt8)}
    {encode : List UInt8 → Except String (List UInt8)} {key : List UInt8} {data : Pooled σ ρ}
    {ttl now₁ now₂ : BitVec 64} {seg : Segment}
    (made : newSegment toBytes encode key data ttl now₁ now₂ = .ok seg) :
    ∃ bytes encoded, toBytes data = .ok bytes ∧ encode bytes = .ok encoded := by
  rcases serialized : toBytes data with err | bytes
  · simp [newSegment, serialized, bind, Except.bind] at made
  rcases transformed : encode bytes with err | encoded
  · simp [newSegment, serialized, transformed, bind, Except.bind, Except.mapError] at made
  exact ⟨bytes, encoded, rfl, transformed⟩

/-- `NewTombstoneSegment` at clock reading `now`. -/
def newTombstoneSegment (key : List UInt8) (now : BitVec 64) : Segment :=
  { type := .unknown, tombstone := 1, createdAt := now, expiredAt := 0,
    keySize := BitVec.ofNat 32 key.length, valueSize := 0, key := key, value := [] }

namespace Segment

/-- `IsTombstone`. -/
def isTombstone (s : Segment) : Bool := s.tombstone == 1

/-- `GetTypeString`. -/
def getTypeString (s : Segment) : String := kindToString s.type

/-- `ToBytes`: the stored value as it is. -/
def toBytes (s : Segment) : List UInt8 := s.value

/-- `Size()`: header, key, value and the 4-byte CRC, in `uint32` arithmetic. -/
def size (s : Segment) : BitVec 32 := segmentPadding + s.keySize + s.valueSize + 4

/-- `TTL()` at clock reading `now`: the whole seconds left as an `int64`, the difference
cast from `uint64` to `int64` and divided with truncation, or `-1`. -/
def ttl (s : Segment) (now : BitVec 64) : BitVec 64 :=
  if 0 < s.expiredAt ∧ now < s.expiredAt then (s.expiredAt - now).sdiv 1000000000 else -1

/-- `Size()` is the record length modulo `2^32`. -/
theorem size_toNat (s : Segment) :
    s.size.toNat = (30 + s.keySize.toNat + s.valueSize.toNat) % 2 ^ 32 := by
  simp only [size, segmentPadding, BitVec.toNat_add]
  simp
  omega

/-- No expiry reads as `-1`. -/
theorem ttl_of_expiredAt_zero {s : Segment} (never : s.expiredAt = 0) (now : BitVec 64) :
    s.ttl now = -1 := by
  simp [ttl, never]

/-- `TTL()` is `-1` once the expiry is reached. -/
theorem ttl_of_le {s : Segment} {now : BitVec 64} (reached : s.expiredAt ≤ now) :
    s.ttl now = -1 := by
  have notLater : ¬ now < s.expiredAt := by
    rw [BitVec.lt_def]; rw [BitVec.le_def] at reached; omega
  simp [ttl, notLater]

/-- Before the expiry, while the difference fits an `int64`, `TTL()` counts the whole
seconds left. -/
theorem ttl_toInt_of_lt {s : Segment} {now : BitVec 64} (later : now < s.expiredAt)
    (fits : s.expiredAt.toNat - now.toNat < 2 ^ 63) :
    (s.ttl now).toInt = ((s.expiredAt.toNat - now.toNat) / 1000000000 : Nat) := by
  rw [BitVec.lt_def] at later
  have positive : 0 < s.expiredAt := by rw [BitVec.lt_def]; simp; omega
  have difference : (s.expiredAt - now).toNat = s.expiredAt.toNat - now.toNat := by
    rw [BitVec.toNat_sub]; omega
  have nonneg : (s.expiredAt - now).msb = false :=
    BitVec.msb_eq_false_iff_two_mul_lt.mpr (by rw [difference]; omega)
  have divisor : (1000000000 : BitVec 64).msb = false := by decide
  simp only [ttl, positive, BitVec.lt_def.mpr later, and_self, if_true, BitVec.sdiv_eq,
    nonneg, divisor]
  rw [BitVec.toInt_eq_toNat_cond, BitVec.udiv_eq, BitVec.toNat_udiv, difference,
    if_pos (by simp; omega)]
  simp

end Segment

/-- `Size()` of a record from `NewSegment`: key, value and 30 bytes of framing, modulo
`2^32`. -/
theorem newSegment_size {toBytes : Pooled σ ρ → Except String (List UInt8)}
    {encode : List UInt8 → Except String (List UInt8)} {key : List UInt8} {data : Pooled σ ρ}
    {ttl now₁ now₂ : BitVec 64} {seg : Segment}
    (made : newSegment toBytes encode key data ttl now₁ now₂ = .ok seg) :
    seg.size.toNat = (30 + key.length + seg.value.length) % 2 ^ 32 := by
  obtain ⟨-, -, -, -, keySize, valueSize, -⟩ := newSegment_fields toBytes encode made
  rw [Segment.size_toNat, keySize, valueSize, BitVec.toNat_ofNat, BitVec.toNat_ofNat]
  omega

/-- `Size()` of a tombstone: the key and 30 bytes of framing, modulo `2^32`. -/
theorem newTombstoneSegment_size (key : List UInt8) (now : BitVec 64) :
    (newTombstoneSegment key now).size.toNat = (30 + key.length) % 2 ^ 32 := by
  rw [Segment.size_toNat]
  simp [newTombstoneSegment]

/-- A key and value within the format's `uint32` limits can still wrap `Size()`: a
tombstone for a key of `2^32 - 1` bytes has size 29, and a record whose transformed value
has `2^32 - 30` bytes has size 0. -/
theorem size_wraps_at_huge_record (bytes : List UInt8) (data : Pooled σ ρ) (now : BitVec 64) :
    (newTombstoneSegment (List.replicate (2 ^ 32 - 1) 0) now).size.toNat = 29 ∧
      ∃ seg, newSegment (fun _ => .ok bytes) (fun _ => .ok (List.replicate (2 ^ 32 - 30) 0)) []
        data 0 now now = .ok seg ∧ seg.size.toNat = 0 := by
  refine ⟨by rw [newTombstoneSegment_size, List.length_replicate]; rfl, _,
    newSegment_of_ok (by rfl) (by rfl) 0 now now, ?_⟩
  rw [Segment.size_toNat]
  simp only [BitVec.toNat_ofNat, List.length_replicate, List.length_nil]
  rfl

/-- With a positive TTL, the expiry is the clock reading plus `ttl` seconds modulo
`2^64`. -/
theorem expiry_toNat {ttl : BitVec 64} (positive : 0 < ttl) (now : BitVec 64) :
    (expiry ttl now).toNat = (now.toNat + 1000000000 * ttl.toNat) % 2 ^ 64 := by
  simp only [expiry, positive, if_true, BitVec.toNat_add, BitVec.toNat_mul]
  simp

/-- No TTL, no expiry. -/
@[simp]
theorem expiry_zero (now : BitVec 64) : expiry 0 now = 0 := by
  simp [expiry]

/-- The TTL law where nothing wraps: the expiry fits the `uint64` field and the duration
`ttl` seconds fits an `int64`. The record expires `ttl` seconds after its creation, and
from any later clock reading `TTL()` is `-1` exactly once the expiry is reached, and before
that the whole seconds left, at most `ttl`. -/
theorem ttl_law {seg : Segment} {ttl c r : BitVec 64} (stamped : seg.expiredAt = expiry ttl c)
    (created : seg.createdAt = c) (positive : 0 < ttl)
    (fits : c.toNat + 1000000000 * ttl.toNat < 2 ^ 64) (short : 1000000000 * ttl.toNat < 2 ^ 63)
    (after : c ≤ r) :
    seg.createdAt < seg.expiredAt ∧ seg.expiredAt.toNat = c.toNat + 1000000000 * ttl.toNat ∧
      (seg.ttl r = -1 ↔ seg.expiredAt ≤ r) ∧
      (r < seg.expiredAt → (seg.ttl r).toInt = ((seg.expiredAt.toNat - r.toNat) / 1000000000 : Nat) ∧
        (seg.expiredAt.toNat - r.toNat) / 1000000000 ≤ ttl.toNat) := by
  have exact : seg.expiredAt.toNat = c.toNat + 1000000000 * ttl.toNat := by
    rw [stamped, expiry_toNat positive, Nat.mod_eq_of_lt fits]
  have someSeconds : 0 < ttl.toNat := by rw [BitVec.lt_def] at positive; simpa using positive
  rw [BitVec.le_def] at after
  have left : ∀ (later : r < seg.expiredAt),
      (seg.ttl r).toInt = ((seg.expiredAt.toNat - r.toNat) / 1000000000 : Nat) :=
    fun later => Segment.ttl_toInt_of_lt later (by omega)
  refine ⟨by rw [BitVec.lt_def, created]; omega, exact, ⟨fun expired => ?_, Segment.ttl_of_le⟩,
    fun later => ⟨left later, Nat.div_le_of_le_mul (by omega)⟩⟩
  by_contra early
  have negative := congrArg BitVec.toInt expired
  rw [left (by rw [BitVec.lt_def]; rw [BitVec.le_def] at early; omega)] at negative
  exact absurd negative (by simp; omega)

/-- The TTL law for a record written with a TTL of 1000 seconds, read half a second
later. -/
theorem ttl_law_thousand_seconds :
    let seg : Segment := ⟨0, .text, expiry 1000 1700000000000000000, 1700000000000000000, 0, 0, [], []⟩
    let r : BitVec 64 := 1700000000500000000
    seg.createdAt < seg.expiredAt ∧
      seg.expiredAt.toNat = (1700000000000000000 : BitVec 64).toNat + 1000000000 * (1000 : BitVec 64).toNat ∧
      (seg.ttl r = -1 ↔ seg.expiredAt ≤ r) ∧
      (r < seg.expiredAt → (seg.ttl r).toInt = ((seg.expiredAt.toNat - r.toNat) / 1000000000 : Nat) ∧
        (seg.expiredAt.toNat - r.toNat) / 1000000000 ≤ (1000 : BitVec 64).toNat) :=
  ttl_law rfl rfl (by decide) (by decide) (by decide) (by decide)

/-- A TTL of billions of seconds wraps. At `ttl = 2^64 - 1` the `int64` duration is `-1s`
and the record is written already expired. At `ttl = 9300000000` the expiry fits the
`uint64` field exactly, yet `TTL()` at the creation instant casts a difference above
`2^63` to `int64` and reads a negative count. -/
theorem ttl_wraps_at_huge_ttl (key bytes encoded : List UInt8) (data : Pooled σ ρ) :
    (∃ seg, newSegment (fun _ => .ok bytes) (fun _ => .ok encoded) key data (-1)
        1700000000000000000 1700000000000000000 = .ok seg ∧ seg.expiredAt < seg.createdAt) ∧
      ∃ seg, newSegment (fun _ => .ok bytes) (fun _ => .ok encoded) key data 9300000000
        1700000000000000000 1700000000000000000 = .ok seg ∧
        seg.expiredAt.toNat = 1700000000000000000 + 1000000000 * 9300000000 ∧
        (seg.ttl 1700000000000000000).toInt = -9146744073 :=
  ⟨⟨_, newSegment_of_ok (by rfl) (by rfl) _ _ _, by dsimp only; decide⟩, _,
    newSegment_of_ok (by rfl) (by rfl) _ _ _, by dsimp only; decide,
    by dsimp only [Segment.ttl]; decide⟩

end Wiredb
