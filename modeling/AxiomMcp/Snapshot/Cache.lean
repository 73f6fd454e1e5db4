/-
**The cache of pinned shards (`cache.py`).**

A `SnapshotCache` keeps payloads under their immutable identity and bounds their number and their bytes by
dropping what was used least recently.

* `put`, `get`, `invalidate`, `evictGeneration`, `clear`: the operations, as the source computes them;
* `Ran`: a cache after any sequence of calls, with what was called and replied, the last call first;
* `Kept`: the counter is the sum of the lengths, both bounds hold, every entry hashes to its key and is what
  was put last under it, and the entries are in the order of their last use;
* `ran_kept`: every call keeps that;
* `cache_invariant`: **what a caller may rely on, after any sequence of calls**.
-/

import AxiomMcp.Lib.Recency
import AxiomMcp.Snapshot.Manifest

namespace AxiomMcp.Snapshot

open Lib
open Query (isSha256)

/-! ### Keys -/

/-- What the cache raises. -/
inductive CacheFault
  /-- A `CacheError` of no class below it. -/
  | error (message : Text)
  /-- A `CacheMismatch`. -/
  | mismatch (message : Text)
  /-- A `CacheKeyRejected`. -/
  | keyRejected (message : Text)
  deriving DecidableEq

/-- One immutable cache identity. -/
structure CacheKey where
  schema : Text
  profile : Text
  generationId : Text
  shardSha256 : Text
  path : Text
  schema_nonempty : schema ≠ []
  profile_nonempty : profile ≠ []
  path_nonempty : path ≠ []
  generationId_digest : isSha256 generationId = true
  shardSha256_digest : isSha256 shardSha256 = true
  deriving DecidableEq

section Keys

variable (py : Interpreter)

/-- A field of a key that is not empty. -/
def keyText (name value : Text) : Except CacheFault { value : Text // value ≠ [] } :=
  if nonempty : value ≠ [] then .ok ⟨value, nonempty⟩
  else .error (.keyRejected (name ++ (" must be a non-empty string" : Text)))

/-- A field of a key that is a digest. -/
def keyDigest (name value : Text) : Except CacheFault { value : Text // isSha256 value = true } :=
  if digest : isSha256 value = true then .ok ⟨value, digest⟩
  else .error (.keyRejected (Text.format [name, " is not a lowercase sha256 digest: ",
    value.pyRepr py.isPrintable]))

theorem keyDigest_valid (digest : { value : Text // isSha256 value = true }) : isSha256 digest.val = true :=
  digest.property

/-- `CacheKey(schema, profile, generation_id, shard_sha256, path)` -/
def cacheKey (schema profile generationId shardSha256 path : Text) : Except CacheFault CacheKey := do
  let schema ← keyText "schema" schema
  let profile ← keyText "profile" profile
  let path ← keyText "path" path
  let generationId ← keyDigest py "generation_id" generationId
  let shardSha256 ← keyDigest py "shard_sha256" shardSha256
  return ⟨schema.val, profile.val, generationId.val, shardSha256.val, path.val, schema.property, profile.property,
    path.property, keyDigest_valid generationId, keyDigest_valid shardSha256⟩

end Keys

/-! ### The cache -/

/-- A `SnapshotCache`. -/
structure SnapshotCache where
  maxEntries : ℕ
  maxBytes : ℕ
  entries : Dict CacheKey Bytes
  bytesUsed : ℤ
  hits : ℕ
  misses : ℕ
  evictions : ℕ
  mismatches : ℕ
  maxEntries_pos : 1 ≤ maxEntries
  maxBytes_pos : 1 ≤ maxBytes

theorem toNat_pos {value : ℤ} (positive : 1 ≤ value) : 1 ≤ value.toNat := by omega

theorem limit_pos (limit : { limit : ℕ // 1 ≤ limit }) : 1 ≤ limit.val := limit.property

/-- A limit of the cache. -/
def cacheLimit (name : Text) (value : ℤ) : Except CacheFault { limit : ℕ // 1 ≤ limit } :=
  if positive : 1 ≤ value then .ok ⟨value.toNat, toNat_pos positive⟩
  else .error (.error (Text.format [name, " must be a positive integer, got ", Text.ofInt value]))

/-- `SnapshotCache(max_entries=max_entries, max_bytes=max_bytes)` -/
def newCache (maxEntries maxBytes : ℤ) : Except CacheFault SnapshotCache := do
  let maxEntries ← cacheLimit "max_entries" maxEntries
  let maxBytes ← cacheLimit "max_bytes" maxBytes
  return ⟨maxEntries.val, maxBytes.val, .empty, 0, 0, 0, 0, 0, limit_pos maxEntries, limit_pos maxBytes⟩

/-- What an entry weighs. -/
def entryBytes (item : CacheKey × Bytes) : ℤ := item.2.length

namespace SnapshotCache

variable (py : Interpreter) (sha256 : Bytes → Text) (cache : SnapshotCache)

/-- `cache.contains(key)` -/
def contains (key : CacheKey) : Bool := cache.entries.has key

/-- `cache._evict()` -/
def evict : SnapshotCache :=
  let left := shedLoop entryBytes cache.maxEntries cache.maxBytes cache.entries.entries cache.bytesUsed
    cache.evictions
  { cache with
    entries := ⟨left.1, cache.entries.nodup.sublist ((shedLoop_suffix _ _ _).sublist.map _)⟩
    bytesUsed := left.2.1
    evictions := left.2.2 }

/-- The entry of a key is popped and its bytes are taken away. -/
def dropEntry (key : CacheKey) : SnapshotCache :=
  match cache.entries.get? key with
  | some payload =>
    { cache with entries := cache.entries.erase key, bytesUsed := cache.bytesUsed - payload.length }
  | none => cache

/-- The refusal of a payload that is not the keyed one. -/
def mismatch (key : CacheKey) : CacheFault :=
  .mismatch (Text.format ["payload for ", key.path.pyRepr py.isPrintable,
    " does not hash to the keyed digest ", key.shardSha256.take 12,
    "; refusing to store it under the wrong label"])

/-- The payload is stored as the last entry. -/
def storeEntry (key : CacheKey) (payload : Bytes) : SnapshotCache :=
  let without := cache.dropEntry key
  { without with
    entries := without.entries.set key payload
    bytesUsed := without.bytesUsed + payload.length }

/-- `cache.put(key, payload)` -/
def put (key : CacheKey) (payload : Bytes) : Except CacheFault Bool × SnapshotCache :=
  if sha256 payload ≠ key.shardSha256 then (.error (mismatch py key), cache)
  else if payload.length > cache.maxBytes then (.ok false, cache)
  else (.ok true, (cache.storeEntry key payload).evict)

/-- `cache.get(key)` -/
def get (key : CacheKey) : Option Bytes × SnapshotCache :=
  match cache.entries.get? key with
  | none => (none, { cache with misses := cache.misses + 1 })
  | some payload =>
    if sha256 payload ≠ key.shardSha256 then
      (none, { cache.dropEntry key with mismatches := cache.mismatches + 1, misses := cache.misses + 1 })
    else (some payload, { cache with entries := cache.entries.moveToEnd key, hits := cache.hits + 1 })

/-- `cache.invalidate(key)` -/
def invalidate (key : CacheKey) : Bool × SnapshotCache := (cache.contains key, cache.dropEntry key)

/-- `cache.evict_generation(generation_id)` -/
def evictGeneration (generationId : Text) : ℕ × SnapshotCache :=
  let doomed := cache.entries.keys.filter fun key => decide (key.generationId = generationId)
  (doomed.length, doomed.foldl (fun cache key => (cache.invalidate key).2) cache)

/-- `cache.clear()` -/
def clear : SnapshotCache := { cache with entries := .empty, bytesUsed := 0 }

end SnapshotCache

/-! ### Sequences of calls -/

/-- A call of the cache. -/
inductive CacheCall
  | put (key : CacheKey) (payload : Bytes)
  | get (key : CacheKey)
  | invalidate (key : CacheKey)
  | evictGeneration (generationId : Text)
  | clear

/-- What a call returns or raises. -/
inductive CacheReply
  | put (stored : Except CacheFault Bool)
  | got (payload : Option Bytes)
  | invalidated (present : Bool)
  | evicted (count : ℕ)
  | cleared

/-- A call with its reply. -/
abbrev CacheEvent := CacheCall × CacheReply

section Calls

variable (py : Interpreter) (sha256 : Bytes → Text)

/-- One call. -/
def SnapshotCache.perform (cache : SnapshotCache) : CacheCall → CacheReply × SnapshotCache
  | .put key payload =>
    let (stored, after) := cache.put py sha256 key payload
    (.put stored, after)
  | .get key =>
    let (payload, after) := cache.get sha256 key
    (.got payload, after)
  | .invalidate key =>
    let (present, after) := cache.invalidate key
    (.invalidated present, after)
  | .evictGeneration generationId =>
    let (count, after) := cache.evictGeneration generationId
    (.evicted count, after)
  | .clear => (.cleared, cache.clear)

/-- A cache after a sequence of calls. The last call stands first. -/
inductive Ran (maxEntries maxBytes : ℤ) : List CacheEvent → SnapshotCache → Prop
  | new {cache : SnapshotCache} : newCache maxEntries maxBytes = .ok cache → Ran maxEntries maxBytes [] cache
  | call {history : List CacheEvent} {cache : SnapshotCache} (call : CacheCall) :
    Ran maxEntries maxBytes history cache →
      Ran maxEntries maxBytes ((call, (cache.perform py sha256 call).1) :: history)
        (cache.perform py sha256 call).2

end Calls

/-- A hit and an accepted put use their key. -/
def Uses (key : CacheKey) : CacheEvent → Prop
  | (.put other _, .put (.ok true)) => other = key
  | (.get other, .got (some _)) => other = key
  | _ => False

instance (key : CacheKey) (event : CacheEvent) : Decidable (Uses key event) := by
  unfold Uses
  split <;> infer_instance

/-- When a key was used last, counted from 1. -/
def lastUse (key : CacheKey) : List CacheEvent → ℕ
  | [] => 0
  | event :: earlier => if Uses key event then earlier.length + 1 else lastUse key earlier

/-- The payload of the last accepted put of a key. -/
def lastPut (key : CacheKey) : List CacheEvent → Option Bytes
  | [] => none
  | (.put other payload, .put (.ok true)) :: earlier => if other = key then some payload else lastPut key earlier
  | _ :: earlier => lastPut key earlier

/-! ### The invariant -/

/-- What every call keeps. -/
structure Kept (sha256 : Bytes → Text) (history : List CacheEvent) (cache : SnapshotCache) : Prop where
  bytes : cache.bytesUsed = (cache.entries.entries.map entryBytes).sum
  fits : Fits entryBytes cache.maxEntries cache.maxBytes cache.entries.entries
  hashed : ∀ item ∈ cache.entries.entries, sha256 item.2 = item.1.shardSha256
  latest : ∀ item ∈ cache.entries.entries, lastPut item.1 history = some item.2
  ordered : cache.entries.entries.Pairwise fun a b => lastUse a.1 history < lastUse b.1 history

section Invariant

variable {py : Interpreter} {sha256 : Bytes → Text} {history : List CacheEvent} {cache after : SnapshotCache}
  {event : CacheEvent} {key : CacheKey} {payload : Bytes}

theorem lastUse_le (key : CacheKey) (history : List CacheEvent) : lastUse key history ≤ history.length := by
  induction history with
  | nil => exact le_rfl
  | cons event earlier ih =>
    rw [lastUse, List.length_cons]
    split
    · exact le_rfl
    · exact ih.trans (Nat.le_succ _)

theorem lastUse_cons_of_not (unused : ¬ Uses key event) : lastUse key (event :: history) = lastUse key history :=
  if_neg unused

theorem lastUse_cons_of_uses (used : Uses key event) : lastUse key (event :: history) = history.length + 1 :=
  if_pos used

theorem entryBytes_nonneg (item : CacheKey × Bytes) : 0 ≤ entryBytes item := Int.natCast_nonneg _

/-- A call that uses no key and takes some entries out keeps the invariant. -/
theorem Kept.sublist (kept : Kept sha256 history cache) (less : after.entries.entries.Sublist cache.entries.entries)
    (bytes : after.bytesUsed = (after.entries.entries.map entryBytes).sum)
    (entriesLimit : after.maxEntries = cache.maxEntries) (bytesLimit : after.maxBytes = cache.maxBytes)
    (unused : ∀ key, ¬ Uses key event) (unput : ∀ key, lastPut key (event :: history) = lastPut key history) :
    Kept sha256 (event :: history) after where
  bytes := bytes
  fits := by
    rw [entriesLimit, bytesLimit]
    exact kept.fits.sublist entryBytes_nonneg less
  hashed item member := kept.hashed item (less.subset member)
  latest item member := (unput item.1).trans (kept.latest item (less.subset member))
  ordered := by
    refine (kept.ordered.sublist less).imp fun {a b} earlier => ?_
    rwa [lastUse_cons_of_not (unused _), lastUse_cons_of_not (unused _)]

/-! ### Calls that take entries out -/

theorem entries_dropEntry (cache : SnapshotCache) (key : CacheKey) :
    (cache.dropEntry key).entries = cache.entries.erase key := by
  unfold SnapshotCache.dropEntry
  split
  · rfl
  · next absent => exact (Dict.erase_of_notMem (Dict.get?_eq_none.mp absent)).symm

theorem bytes_dropEntry (bytes : cache.bytesUsed = (cache.entries.entries.map entryBytes).sum) (key : CacheKey) :
    (cache.dropEntry key).bytesUsed = ((cache.entries.erase key).entries.map entryBytes).sum := by
  unfold SnapshotCache.dropEntry
  split
  · next payload found => rw [Dict.sum_erase entryBytes found, ← bytes, entryBytes]
  · next absent => rw [Dict.erase_of_notMem (Dict.get?_eq_none.mp absent), bytes]

theorem limits_dropEntry (cache : SnapshotCache) (key : CacheKey) :
    (cache.dropEntry key).maxEntries = cache.maxEntries ∧ (cache.dropEntry key).maxBytes = cache.maxBytes ∧
      (cache.dropEntry key).evictions = cache.evictions := by
  unfold SnapshotCache.dropEntry
  split <;> exact ⟨rfl, rfl, rfl⟩

/-- What takes entries out and keeps count. -/
structure Reduces (cache after : SnapshotCache) : Prop where
  less : after.entries.entries.Sublist cache.entries.entries
  bytes : cache.bytesUsed = (cache.entries.entries.map entryBytes).sum →
    after.bytesUsed = (after.entries.entries.map entryBytes).sum
  entriesLimit : after.maxEntries = cache.maxEntries
  bytesLimit : after.maxBytes = cache.maxBytes

theorem Reduces.refl (cache : SnapshotCache) : Reduces cache cache := ⟨.refl _, id, rfl, rfl⟩

theorem Reduces.trans {between : SnapshotCache} (first : Reduces cache between) (second : Reduces between after) :
    Reduces cache after :=
  ⟨second.less.trans first.less, fun bytes => second.bytes (first.bytes bytes),
    second.entriesLimit.trans first.entriesLimit, second.bytesLimit.trans first.bytesLimit⟩

theorem reduces_dropEntry (cache : SnapshotCache) (key : CacheKey) : Reduces cache (cache.dropEntry key) where
  less := by
    rw [entries_dropEntry]
    exact List.filter_sublist
  bytes bytes := by
    rw [entries_dropEntry]
    exact bytes_dropEntry bytes key
  entriesLimit := (limits_dropEntry cache key).1
  bytesLimit := (limits_dropEntry cache key).2.1

theorem reduces_evictGeneration (cache : SnapshotCache) (generationId : Text) :
    Reduces cache (cache.evictGeneration generationId).2 := by
  have loop (doomed : List CacheKey) (cache : SnapshotCache) :
      Reduces cache (doomed.foldl (fun cache key => (cache.invalidate key).2) cache) := by
    induction doomed generalizing cache with
    | nil => exact .refl cache
    | cons key rest ih => exact (reduces_dropEntry cache key).trans (ih _)
  exact loop _ cache

theorem reduces_clear (cache : SnapshotCache) : Reduces cache cache.clear :=
  ⟨List.nil_sublist _, fun _ => rfl, rfl, rfl⟩

theorem Kept.reduces (kept : Kept sha256 history cache) (reduces : Reduces cache after)
    (unused : ∀ key, ¬ Uses key event) (unput : ∀ key, lastPut key (event :: history) = lastPut key history) :
    Kept sha256 (event :: history) after :=
  kept.sublist reduces.less (reduces.bytes kept.bytes) reduces.entriesLimit reduces.bytesLimit unused unput

/-! ### Calls that use a key -/

/-- The entries with one of them stored anew. -/
def renewed (cache : SnapshotCache) (key : CacheKey) (payload : Bytes) : List (CacheKey × Bytes) :=
  (cache.entries.erase key).entries ++ [(key, payload)]

/-- A call that uses one key, under which a payload was put last. -/
structure Renews (history : List CacheEvent) (event : CacheEvent) (key : CacheKey) (payload : Bytes) : Prop where
  used : Uses key event
  others : ∀ other, other ≠ key → ¬ Uses other event
  put : lastPut key (event :: history) = some payload
  unput : ∀ other, other ≠ key → lastPut other (event :: history) = lastPut other history

theorem mem_renewed {item : CacheKey × Bytes} (member : item ∈ renewed cache key payload) :
    item ∈ cache.entries.entries ∧ item.1 ≠ key ∨ item = (key, payload) := by
  rcases List.mem_append.mp member with old | last
  · exact Or.inl (Dict.mem_entries_erase.mp old)
  · exact Or.inr (List.mem_singleton.mp last)

theorem renewed_hashed (kept : Kept sha256 history cache) (named : sha256 payload = key.shardSha256) :
    ∀ item ∈ renewed cache key payload, sha256 item.2 = item.1.shardSha256 := by
  intro item member
  rcases mem_renewed member with ⟨old, _⟩ | rfl
  · exact kept.hashed item old
  · exact named

theorem renewed_latest (kept : Kept sha256 history cache) (renews : Renews history event key payload) :
    ∀ item ∈ renewed cache key payload, lastPut item.1 (event :: history) = some item.2 := by
  intro item member
  rcases mem_renewed member with ⟨old, other⟩ | rfl
  · exact (renews.unput item.1 other).trans (kept.latest item old)
  · exact renews.put

/-- **The key that is used moves behind all others.** -/
theorem renewed_ordered (kept : Kept sha256 history cache) (renews : Renews history event key payload) :
    (renewed cache key payload).Pairwise fun a b =>
      lastUse a.1 (event :: history) < lastUse b.1 (event :: history) := by
  have unchanged {item : CacheKey × Bytes} (inside : item ∈ (cache.entries.erase key).entries) :
      lastUse item.1 (event :: history) = lastUse item.1 history :=
    lastUse_cons_of_not (renews.others _ (Dict.mem_entries_erase.mp inside).2)
  refine List.pairwise_append.mpr ⟨?_, List.pairwise_singleton _ _, ?_⟩
  · refine (kept.ordered.sublist List.filter_sublist).imp_of_mem fun {a b} left right earlier => ?_
    rwa [unchanged left, unchanged right]
  · intro a inside b last
    obtain rfl := List.mem_singleton.mp last
    rw [unchanged inside, lastUse_cons_of_uses renews.used]
    exact Nat.lt_succ_of_le (lastUse_le _ _)

/-- What is left of the renewed entries is as it should be. -/
theorem Kept.renews (kept : Kept sha256 history cache) (named : sha256 payload = key.shardSha256)
    (renews : Renews history event key payload)
    (less : after.entries.entries.Sublist (renewed cache key payload))
    (bytes : after.bytesUsed = (after.entries.entries.map entryBytes).sum)
    (fits : Fits entryBytes after.maxEntries after.maxBytes after.entries.entries) :
    Kept sha256 (event :: history) after where
  bytes := bytes
  fits := fits
  hashed item member := renewed_hashed kept named item (less.subset member)
  latest item member := renewed_latest kept renews item (less.subset member)
  ordered := (renewed_ordered kept renews).sublist less

theorem entries_storeEntry (cache : SnapshotCache) (key : CacheKey) (payload : Bytes) :
    (cache.storeEntry key payload).entries.entries = renewed cache key payload := by
  unfold SnapshotCache.storeEntry
  dsimp only
  rw [entries_dropEntry]
  exact Dict.entries_store cache.entries key payload

theorem sum_renewed (cache : SnapshotCache) (key : CacheKey) (payload : Bytes) :
    ((renewed cache key payload).map entryBytes).sum =
      ((cache.entries.erase key).entries.map entryBytes).sum + payload.length := by
  rw [renewed, List.map_append, List.sum_append, List.map_singleton, List.sum_singleton, entryBytes]

/-- What an accepted put leaves. -/
structure Accepted (cache : SnapshotCache) (key : CacheKey) (payload : Bytes) (after : SnapshotCache)
    (dropped : List (CacheKey × Bytes)) : Prop where
  shed : Shed (Fits entryBytes cache.maxEntries cache.maxBytes) (renewed cache key payload) dropped
    after.entries.entries
  bytes : after.bytesUsed = (after.entries.entries.map entryBytes).sum
  entriesLimit : after.maxEntries = cache.maxEntries
  bytesLimit : after.maxBytes = cache.maxBytes
  evictions : after.evictions = cache.evictions + dropped.length

/-- **An accepted put sheds no more than is needed**, from the front. -/
theorem accepted_put (bytes : cache.bytesUsed = (cache.entries.entries.map entryBytes).sum) (key : CacheKey)
    (payload : Bytes) : ∃ dropped, Accepted cache key payload (cache.storeEntry key payload).evict dropped := by
  have running : (cache.storeEntry key payload).bytesUsed = ((renewed cache key payload).map entryBytes).sum := by
    rw [sum_renewed, ← bytes_dropEntry bytes key]
    rfl
  have entries : (cache.storeEntry key payload).maxEntries = cache.maxEntries := (limits_dropEntry cache key).1
  have limit : (cache.storeEntry key payload).maxBytes = cache.maxBytes := (limits_dropEntry cache key).2.1
  have count : (cache.storeEntry key payload).evictions = cache.evictions := (limits_dropEntry cache key).2.2
  obtain ⟨dropped, left, ran, shed⟩ := @shedLoop_eq _ entryBytes cache.maxEntries cache.maxBytes
    (Int.natCast_nonneg _) (renewed cache key payload) cache.evictions
  have loop : shedLoop entryBytes (cache.storeEntry key payload).maxEntries (cache.storeEntry key payload).maxBytes
      (cache.storeEntry key payload).entries.entries (cache.storeEntry key payload).bytesUsed
      (cache.storeEntry key payload).evictions =
      (left, (left.map entryBytes).sum, cache.evictions + dropped.length) := by
    rw [entries_storeEntry, running, entries, limit, count, ran]
  refine ⟨dropped, ?_, ?_, entries, limit, ?_⟩
  · change Shed _ _ _ (shedLoop _ _ _ _ _ _).1
    rw [loop]
    exact shed
  · change (shedLoop _ _ _ _ _ _).2.1 = ((shedLoop _ _ _ _ _ _).1.map entryBytes).sum
    rw [loop]
  · change (shedLoop _ _ _ _ _ _).2.2 = _
    rw [loop]

/-- The three ways a put ends. -/
theorem put_cases (cache : SnapshotCache) (key : CacheKey) (payload : Bytes) :
    (cache.put py sha256 key payload = (.ok true, (cache.storeEntry key payload).evict) ∧
      sha256 payload = key.shardSha256 ∧ payload.length ≤ cache.maxBytes) ∨
    ∃ refused, cache.put py sha256 key payload = (refused, cache) ∧
      (refused = .ok false ∨ refused = .error (SnapshotCache.mismatch py key)) := by
  unfold SnapshotCache.put
  split
  · exact Or.inr ⟨_, rfl, Or.inr rfl⟩
  · next named =>
    split
    · exact Or.inr ⟨_, rfl, Or.inl rfl⟩
    · next small => exact Or.inl ⟨rfl, not_not.mp named, not_lt.mp small⟩

theorem renews_put (history : List CacheEvent) (key : CacheKey) (payload : Bytes) :
    Renews history (.put key payload, .put (.ok true)) key payload where
  used := rfl
  others _ other used := other used.symm
  put := if_pos rfl
  unput _ other := if_neg other.symm

theorem renews_get {history : List CacheEvent} {key : CacheKey} {payload : Bytes}
    (latest : lastPut key history = some payload) : Renews history (.get key, .got (some payload)) key payload where
  used := rfl
  others _ other used := other used.symm
  put := latest
  unput _ _ := rfl

/-- A hit renews its entry, which changes neither number nor weight. -/
theorem fits_renewed (fits : Fits entryBytes cache.maxEntries cache.maxBytes cache.entries.entries)
    (found : cache.entries.get? key = some payload) :
    Fits entryBytes cache.maxEntries cache.maxBytes (renewed cache key payload) ∧
      ((renewed cache key payload).map entryBytes).sum = (cache.entries.entries.map entryBytes).sum := by
  have weight := Dict.sum_erase entryBytes found
  have sum : ((renewed cache key payload).map entryBytes).sum = (cache.entries.entries.map entryBytes).sum := by
    rw [sum_renewed, weight, entryBytes]
    exact sub_add_cancel _ _
  have length : (renewed cache key payload).length = cache.entries.entries.length := by
    rw [renewed, List.length_append, List.length_singleton, Dict.length_erase found]
  exact ⟨⟨length ▸ fits.1, sum ▸ fits.2⟩, sum⟩

/-- What a get does to a cache that keeps the invariant. -/
theorem get_cases (kept : Kept sha256 history cache) (key : CacheKey) :
    (cache.entries.get? key = none ∧ cache.get sha256 key = (none, { cache with misses := cache.misses + 1 })) ∨
    ∃ payload, cache.entries.get? key = some payload ∧ lastPut key history = some payload ∧
      sha256 payload = key.shardSha256 ∧
      cache.get sha256 key =
        (some payload, { cache with entries := cache.entries.moveToEnd key, hits := cache.hits + 1 }) := by
  unfold SnapshotCache.get
  cases found : cache.entries.get? key with
  | none => exact Or.inl ⟨rfl, rfl⟩
  | some payload =>
    have stored := Dict.get?_eq_some.mp found
    have named := kept.hashed _ stored
    exact Or.inr ⟨payload, rfl, kept.latest _ stored, named, if_neg (not_not.mpr named)⟩

theorem entries_moveToEnd (found : cache.entries.get? key = some payload) :
    (cache.entries.moveToEnd key).entries = renewed cache key payload := by
  unfold Dict.moveToEnd
  rw [found]
  exact Dict.entries_store cache.entries key payload

/-- **Every call keeps the invariant.** -/
theorem Kept.perform (kept : Kept sha256 history cache) (call : CacheCall) :
    Kept sha256 ((call, (cache.perform py sha256 call).1) :: history) (cache.perform py sha256 call).2 := by
  cases call with
  | put key payload =>
    rcases @put_cases py sha256 cache key payload with ⟨ran, named, _⟩ | ⟨refused, ran, refusal⟩
    · obtain ⟨dropped, accepted⟩ := accepted_put kept.bytes key payload
      unfold SnapshotCache.perform
      dsimp only
      rw [ran]
      refine kept.renews named (renews_put history key payload) ?_ accepted.bytes ?_
      · rw [accepted.shed.split]
        exact List.sublist_append_right _ _
      · rw [accepted.entriesLimit, accepted.bytesLimit]
        exact accepted.shed.fitting
    · unfold SnapshotCache.perform
      dsimp only
      rw [ran]
      rcases refusal with rfl | rfl
      · exact kept.reduces (.refl cache) (fun _ => not_false) fun _ => rfl
      · exact kept.reduces (.refl cache) (fun _ => not_false) fun _ => rfl
  | get key =>
    rcases get_cases kept key with ⟨_, ran⟩ | ⟨payload, found, latest, named, ran⟩
    · unfold SnapshotCache.perform
      dsimp only
      rw [ran]
      exact kept.reduces ⟨.refl _, id, rfl, rfl⟩ (fun _ => not_false) fun _ => rfl
    · unfold SnapshotCache.perform
      dsimp only
      rw [ran]
      obtain ⟨fits, sum⟩ := fits_renewed kept.fits found
      refine kept.renews named (renews_get latest) ?_ ?_ ?_
      · dsimp only
        rw [entries_moveToEnd found]
      · dsimp only
        rw [entries_moveToEnd found, sum, kept.bytes]
      · dsimp only
        rw [entries_moveToEnd found]
        exact fits
  | invalidate key => exact kept.reduces (reduces_dropEntry cache key) (fun _ => not_false) fun _ => rfl
  | evictGeneration generationId =>
    exact kept.reduces (reduces_evictGeneration cache generationId) (fun _ => not_false) fun _ => rfl
  | clear => exact kept.reduces (reduces_clear cache) (fun _ => not_false) fun _ => rfl

/-! ### Any sequence of calls -/

variable {maxEntries maxBytes : ℤ}

theorem newCache_ok (made : newCache maxEntries maxBytes = .ok cache) :
    cache.entries = .empty ∧ cache.bytesUsed = 0 ∧ (cache.maxEntries : ℤ) = maxEntries ∧
      (cache.maxBytes : ℤ) = maxBytes := by
  have limit {name : Text} {value : ℤ} {checked : { limit : ℕ // 1 ≤ limit }}
      (accepted : cacheLimit name value = .ok checked) : (checked.val : ℤ) = value := by
    unfold cacheLimit at accepted
    split at accepted
    · obtain rfl := Except.ok.inj accepted
      exact Int.toNat_of_nonneg (by omega)
    · cases accepted
  obtain ⟨entries, first, made⟩ := bind_eq_ok.mp made
  obtain ⟨bytes, second, made⟩ := bind_eq_ok.mp made
  obtain rfl := Except.ok.inj made
  exact ⟨rfl, rfl, limit first, limit second⟩

/-- Calls keep the limits. -/
theorem limits_perform (cache : SnapshotCache) (call : CacheCall) :
    (cache.perform py sha256 call).2.maxEntries = cache.maxEntries ∧
      (cache.perform py sha256 call).2.maxBytes = cache.maxBytes := by
  have dropped (key : CacheKey) := limits_dropEntry cache key
  cases call with
  | put key payload =>
    rcases @put_cases py sha256 cache key payload with ⟨ran, _⟩ | ⟨_, ran, _⟩
    · unfold SnapshotCache.perform
      dsimp only
      rw [ran]
      exact ⟨(dropped key).1, (dropped key).2.1⟩
    · unfold SnapshotCache.perform
      dsimp only
      rw [ran]
      exact ⟨rfl, rfl⟩
  | get key =>
    unfold SnapshotCache.perform SnapshotCache.get
    dsimp only
    split
    · exact ⟨rfl, rfl⟩
    · split
      · exact ⟨(dropped key).1, (dropped key).2.1⟩
      · exact ⟨rfl, rfl⟩
  | invalidate key => exact ⟨(dropped key).1, (dropped key).2.1⟩
  | evictGeneration generationId =>
    have reduces := reduces_evictGeneration cache generationId
    exact ⟨reduces.entriesLimit, reduces.bytesLimit⟩
  | clear => exact ⟨rfl, rfl⟩

/-- **The invariant holds after any sequence of calls.** -/
theorem ran_kept (ran : Ran py sha256 maxEntries maxBytes history cache) :
    Kept sha256 history cache ∧ (cache.maxEntries : ℤ) = maxEntries ∧ (cache.maxBytes : ℤ) = maxBytes := by
  induction ran with
  | @new cache made =>
    obtain ⟨entries, bytes, limits⟩ := newCache_ok made
    refine ⟨⟨?_, ?_, ?_, ?_, ?_⟩, limits⟩
    · rw [bytes, entries]
      rfl
    · rw [entries]
      exact ⟨Nat.zero_le _, Int.natCast_nonneg _⟩
    · rw [entries]
      exact List.forall_mem_nil _
    · rw [entries]
      exact List.forall_mem_nil _
    · rw [entries]
      exact .nil
  | @call history cache call _ ih =>
    obtain ⟨entriesLimit, bytesLimit⟩ := @limits_perform py sha256 cache call
    refine ⟨ih.1.perform call, ?_, ?_⟩
    · rw [entriesLimit, ih.2.1]
    · rw [bytesLimit, ih.2.2]

/-- A put that is accepted keeps its entry, which fits alone. -/
theorem accepted_contains {dropped : List (CacheKey × Bytes)} (accepted : Accepted cache key payload after dropped)
    (small : payload.length ≤ cache.maxBytes) : after.contains key = true := by
  have alone : Fits entryBytes cache.maxEntries cache.maxBytes [(key, payload)] := by
    refine ⟨cache.maxEntries_pos, ?_⟩
    rw [List.map_singleton, List.sum_singleton, entryBytes]
    exact Int.ofNat_le.mpr small
  obtain ⟨rest, left⟩ := accepted.shed.last alone
  refine Dict.has_iff.mpr (List.mem_map.mpr ⟨(key, payload), ?_, rfl⟩)
  rw [left]
  exact List.mem_append_right _ List.mem_cons_self

/-- **What a caller may rely on, after any sequence of calls.** The counter is exact and both bounds hold; a get
gives what was put last; an accepted put is present, and what it dropped was used before everything that is
left and had to go; a put that is not accepted changes nothing. -/
theorem cache_invariant (ran : Ran py sha256 maxEntries maxBytes history cache) :
    (cache.bytesUsed = (cache.entries.entries.map entryBytes).sum ∧ cache.bytesUsed ≤ maxBytes ∧
      (cache.entries.size : ℤ) ≤ maxEntries ∧
      ∀ item ∈ cache.entries.entries, sha256 item.2 = item.1.shardSha256) ∧
    (∀ key payload, (cache.get sha256 key).1 = some payload → lastPut key history = some payload) ∧
    (∀ key item, item ∈ (cache.get sha256 key).2.entries.entries ↔ item ∈ cache.entries.entries) ∧
    (∀ key payload, (cache.put py sha256 key payload).1 = .ok true →
      (cache.put py sha256 key payload).2.contains key = true ∧
      ∃ dropped, Accepted cache key payload (cache.put py sha256 key payload).2 dropped ∧
        ∀ gone ∈ dropped, ∀ left ∈ (cache.put py sha256 key payload).2.entries.entries,
          lastUse gone.1 ((.put key payload, .put (.ok true)) :: history) <
            lastUse left.1 ((.put key payload, .put (.ok true)) :: history)) ∧
    ∀ key payload, (cache.put py sha256 key payload).1 ≠ .ok true →
      (cache.put py sha256 key payload).2 = cache := by
  obtain ⟨kept, entriesLimit, bytesLimit⟩ := ran_kept ran
  refine ⟨⟨kept.bytes, ?_, ?_, kept.hashed⟩, fun key payload hit => ?_, fun key item => ?_,
    fun key payload stored => ?_, fun key payload refused => ?_⟩
  · rw [kept.bytes, ← bytesLimit]
    exact kept.fits.2
  · rw [← entriesLimit]
    exact Int.ofNat_le.mpr kept.fits.1
  · rcases get_cases kept key with ⟨_, got⟩ | ⟨found, _, latest, _, got⟩
    · rw [got] at hit
      cases hit
    · rw [got] at hit
      rwa [← hit]
  · rcases get_cases kept key with ⟨_, got⟩ | ⟨payload, found, _, _, got⟩
    · rw [got]
    · rw [got]
      dsimp only
      rw [entries_moveToEnd found, renewed, List.mem_append, List.mem_singleton, Dict.mem_entries_erase]
      have stored := Dict.get?_eq_some.mp found
      refine ⟨?_, fun member => ?_⟩
      · rintro (⟨member, _⟩ | rfl)
        · exact member
        · exact stored
      · by_cases same : item.1 = key
        · refine Or.inr ?_
          have equal : cache.entries.get? key = some item.2 := Dict.get?_eq_some.mpr (same ▸ member)
          exact Prod.ext same (Option.some.inj (equal.symm.trans found))
        · exact Or.inl ⟨member, same⟩
  · rcases @put_cases py sha256 cache key payload with ⟨put, named, small⟩ | ⟨_, put, rfl | rfl⟩
    · obtain ⟨dropped, accepted⟩ := accepted_put kept.bytes key payload
      rw [put]
      refine ⟨accepted_contains accepted small, dropped, accepted, fun gone old left new => ?_⟩
      have ordered := renewed_ordered kept (renews_put history key payload)
      rw [accepted.shed.split] at ordered
      exact (List.pairwise_append.mp ordered).2.2 gone old left new
    · rw [put] at stored
      cases stored
    · rw [put] at stored
      cases stored
  · rcases @put_cases py sha256 cache key payload with ⟨put, _⟩ | ⟨_, put, _⟩
    · exact (refused (congrArg Prod.fst put)).elim
    · exact congrArg Prod.snd put

end Invariant

/-! ### Two puts where there is room for one -/

/-- The key of the sample's shard under a path. -/
def sampleKey (path : Text) (nonempty : path ≠ []) : CacheKey where
  schema := "graph-data.v1"
  profile := "p"
  generationId := sampleId
  shardSha256 := sampleShardDigest
  path := path
  schema_nonempty := by decide
  profile_nonempty := by decide
  path_nonempty := nonempty
  generationId_digest := by decide +kernel
  shardSha256_digest := by decide +kernel

/-- A cache of one entry and three bytes. -/
def smallCache : SnapshotCache := ⟨1, 3, .empty, 0, 0, 0, 0, 0, Nat.one_pos, by decide⟩

/-- The second put of three bytes drops the first. -/
theorem cache_invariant_small : ∃ history cache, Ran .ascii sampleSha256 1 3 history cache ∧
    history.length = 2 ∧ cache.evictions = 1 ∧ cache.bytesUsed ≤ 3 := by
  have one := Ran.call (.put (sampleKey "nodes" (by decide)) sampleShard)
    (@Ran.new .ascii sampleSha256 1 3 smallCache rfl)
  have two := Ran.call (.put (sampleKey "edges" (by decide)) sampleShard) one
  exact ⟨_, _, two, rfl, by decide +kernel, (cache_invariant two).1.2.1⟩

end AxiomMcp.Snapshot
