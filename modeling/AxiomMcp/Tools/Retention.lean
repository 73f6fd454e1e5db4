/-
**Retained generations (`retention.py`, `runtime.py`).**

A `GenerationRetention` keeps snapshots under the key that a `RegisteredSource` puts together, and drops what
was used least recently.

* `freeze`, `GenerationRetention.get`, `GenerationRetention.put`: the operations; what the interpreter measures
  of an object may be anything;
* `Threads`: the calls of loads, answered by one retention;
* `threads_bounded`: the retention counts what it holds and keeps to both limits after every call;
* `Keyed`: what is retained is the generation, of the lane, that its key names;
* `retention_transparent`: **a load with retention returns what one without returns for that location and
  generation**, whatever happens to the store in between.
-/

import AxiomMcp.Lib.Recency
import AxiomMcp.Snapshot.SameGeneration
import AxiomMcp.Tools.Binding

namespace AxiomMcp.Tools

open Lib Program
open Snapshot (Alike FileOp FileReply LoadedSnapshot MadeOfGeneration Manifest ReadsManifest Shard SnapshotLocation
  currentPointerName loadPointerBytes)

/-! ### Frozen documents -/

mutual
/-- `_freeze(value)` -/
def freeze : Json → Json
  | .obj entries => .obj (freezeEntries entries)
  | .arr items => .arr (freezeItems items)
  | value => value

def freezeItems : List Json → List Json
  | [] => []
  | item :: rest => freeze item :: freezeItems rest

def freezeEntries : JsonObject → JsonObject
  | [] => []
  | (key, value) :: rest => (key, freeze value) :: freezeEntries rest
end

mutual
/-- A frozen document is equal to what was frozen. -/
theorem freeze_eq : ∀ value : Json, freeze value = value
  | .null => rfl
  | .bool _ => rfl
  | .int _ => rfl
  | .float _ => rfl
  | .str _ => rfl
  | .arr items => congrArg Json.arr (freezeItems_eq items)
  | .obj entries => congrArg Json.obj (freezeEntries_eq entries)

theorem freezeItems_eq : ∀ items : List Json, freezeItems items = items
  | [] => rfl
  | item :: rest => congrArg₂ List.cons (freeze_eq item) (freezeItems_eq rest)

theorem freezeEntries_eq : ∀ entries : JsonObject, freezeEntries entries = entries
  | [] => rfl
  | (key, value) :: rest => congrArg₂ List.cons (congrArg (Prod.mk key) (freeze_eq value)) (freezeEntries_eq rest)
end

/-- The copy that is retained. -/
def owned (snapshot : LoadedSnapshot) : LoadedSnapshot :=
  { snapshot with shards := snapshot.shards.map fun shard => { shard with document := freeze shard.document } }

theorem owned_eq (snapshot : LoadedSnapshot) : owned snapshot = snapshot := by
  have shards : snapshot.shards.map (fun shard => { shard with document := freeze shard.document }) =
      snapshot.shards := by
    refine (List.map_congr_left fun shard _ => ?_).trans (List.map_id _)
    rw [freeze_eq]
    rfl
  unfold owned
  rw [shards]

/-! ### The retention -/

/-- A `GenerationRetention`. -/
structure GenerationRetention where
  maxBytes : ℕ
  maxEntries : ℕ
  entries : Dict RetentionKey (LoadedSnapshot × ℕ)
  bytes : ℤ
  hits : ℕ
  misses : ℕ
  evictions : ℕ
  maxBytes_pos : 1 ≤ maxBytes
  maxEntries_pos : 1 ≤ maxEntries

/-- `GenerationRetention(max_bytes, max_entries)`, or the message of its `ValueError`. -/
def newRetention (maxBytes maxEntries : ℤ) : Except Text GenerationRetention :=
  if positive : 1 ≤ min maxBytes maxEntries then
    .ok ⟨maxBytes.toNat, maxEntries.toNat, .empty, 0, 0, 0, 0, by omega, by omega⟩
  else .error "cache budgets must be positive"

/-- The size that is recorded with an entry. -/
def recordedSize (item : RetentionKey × LoadedSnapshot × ℕ) : ℤ := item.2.2

namespace GenerationRetention

variable (retention : GenerationRetention)

/-- `retention.get(key)` -/
def get (key : RetentionKey) : Option LoadedSnapshot × GenerationRetention :=
  match retention.entries.get? key with
  | none => (none, { retention with misses := retention.misses + 1 })
  | some value =>
    (some value.1, { retention with entries := retention.entries.moveToEnd key, hits := retention.hits + 1 })

/-- The loop that pops entries, and the `KeyError` of popping from an empty dictionary. -/
def shed : Option Text × GenerationRetention :=
  let left := shedLoop recordedSize retention.maxEntries retention.maxBytes retention.entries.entries
    retention.bytes retention.evictions
  (if left.1.isEmpty ∧ left.2.1 > retention.maxBytes then some "KeyError" else none,
    { retention with
      entries := ⟨left.1, retention.entries.nodup.sublist ((shedLoop_suffix _ _ _).sublist.map _)⟩
      bytes := left.2.1
      evictions := left.2.2 })

/-- The owned copy is stored as the last entry. -/
def storeOwned (key : RetentionKey) (value : LoadedSnapshot) (size : ℕ) : GenerationRetention :=
  let without :=
    match retention.entries.get? key with
    | some previous =>
      { retention with entries := retention.entries.erase key, bytes := retention.bytes - previous.2 }
    | none => retention
  { without with entries := without.entries.set key (owned value, size), bytes := without.bytes + size }

/-- `retention.put(key, value)`: what it raises, and the retention after it. `measured` and `size` are what
`retained_size` makes of the value and of the owned copy, each with its key. -/
def put (key : RetentionKey) (value : LoadedSnapshot) (measured size : ℕ) : Option Text × GenerationRetention :=
  if measured > retention.maxBytes then (none, retention)
  else if size > retention.maxBytes then (none, retention)
  else (retention.storeOwned key value size).shed

end GenerationRetention

/-! ### Bounds -/

/-- The retention counts what it holds and keeps to its limits. -/
structure Bounded (retention : GenerationRetention) : Prop where
  bytes : retention.bytes = (retention.entries.entries.map recordedSize).sum
  fits : Fits recordedSize retention.maxEntries retention.maxBytes retention.entries.entries

section Bounds

variable {retention after : GenerationRetention} {key : RetentionKey} {value : LoadedSnapshot}
  {measured size : ℕ}

/-- The entries with one of them stored anew. -/
def storedAnew (retention : GenerationRetention) (key : RetentionKey) (entry : LoadedSnapshot × ℕ) :
    List (RetentionKey × LoadedSnapshot × ℕ) :=
  (retention.entries.erase key).entries ++ [(key, entry)]

theorem entries_storeOwned (retention : GenerationRetention) (key : RetentionKey) (value : LoadedSnapshot)
    (size : ℕ) : (retention.storeOwned key value size).entries.entries =
      storedAnew retention key (owned value, size) := by
  unfold GenerationRetention.storeOwned
  dsimp only
  split
  · exact Dict.entries_store retention.entries key _
  · next absent =>
    have same := Dict.erase_of_notMem (Dict.get?_eq_none.mp absent)
    have stored := Dict.entries_store retention.entries key (owned value, size)
    unfold Dict.store at stored
    rw [storedAnew, same]
    rwa [same] at stored

theorem sum_storedAnew (retention : GenerationRetention) (key : RetentionKey) (entry : LoadedSnapshot × ℕ) :
    ((storedAnew retention key entry).map recordedSize).sum =
      ((retention.entries.erase key).entries.map recordedSize).sum + entry.2 := by
  rw [storedAnew, List.map_append, List.sum_append, List.map_singleton, List.sum_singleton, recordedSize]

theorem bytes_storeOwned (bounded : Bounded retention) (key : RetentionKey) (value : LoadedSnapshot) (size : ℕ) :
    (retention.storeOwned key value size).bytes =
      ((storedAnew retention key (owned value, size)).map recordedSize).sum := by
  rw [sum_storedAnew]
  unfold GenerationRetention.storeOwned
  dsimp only
  split
  · next previous found => rw [Dict.sum_erase recordedSize found, ← bounded.bytes, recordedSize]
  · next absent => rw [Dict.erase_of_notMem (Dict.get?_eq_none.mp absent), bounded.bytes]

theorem limits_storeOwned (retention : GenerationRetention) (key : RetentionKey) (value : LoadedSnapshot)
    (size : ℕ) : (retention.storeOwned key value size).maxEntries = retention.maxEntries ∧
      (retention.storeOwned key value size).maxBytes = retention.maxBytes := by
  unfold GenerationRetention.storeOwned
  dsimp only
  split <;> exact ⟨rfl, rfl⟩

/-- What a put may leave: the retention as it was, or an end of the entries with its own stored anew. -/
structure Put (retention : GenerationRetention) (key : RetentionKey) (value : LoadedSnapshot)
    (raised : Option Text) (after : GenerationRetention) : Prop where
  raises : raised = none
  bounded : Bounded after
  entriesLimit : after.maxEntries = retention.maxEntries
  bytesLimit : after.maxBytes = retention.maxBytes
  entries : after = retention ∨
    ∃ size, after.entries.entries.Sublist (storedAnew retention key (value, size))

/-- **A put raises nothing and keeps to the limits.** -/
theorem put_spec (bounded : Bounded retention) (key : RetentionKey) (value : LoadedSnapshot) (measured size : ℕ) :
    Put retention key value (retention.put key value measured size).1
      (retention.put key value measured size).2 := by
  unfold GenerationRetention.put
  split
  · exact ⟨rfl, bounded, rfl, rfl, Or.inl rfl⟩
  split
  · exact ⟨rfl, bounded, rfl, rfl, Or.inl rfl⟩
  obtain ⟨entriesLimit, bytesLimit⟩ := limits_storeOwned retention key value size
  obtain ⟨dropped, left, ran, shed⟩ := @shedLoop_eq _ recordedSize retention.maxEntries retention.maxBytes
    (Int.natCast_nonneg _) (storedAnew retention key (owned value, size))
    (retention.storeOwned key value size).evictions
  have loop : shedLoop recordedSize (retention.storeOwned key value size).maxEntries
      (retention.storeOwned key value size).maxBytes (retention.storeOwned key value size).entries.entries
      (retention.storeOwned key value size).bytes (retention.storeOwned key value size).evictions =
      (left, (left.map recordedSize).sum, (retention.storeOwned key value size).evictions + dropped.length) := by
    rw [entries_storeOwned, bytes_storeOwned bounded, entriesLimit, bytesLimit, ran]
  refine ⟨?_, ⟨?_, ?_⟩, entriesLimit, bytesLimit, Or.inr ⟨size, ?_⟩⟩
  · unfold GenerationRetention.shed
    dsimp only
    rw [loop, bytesLimit]
    refine if_neg fun beyond => ?_
    exact absurd shed.fitting.2 (not_le.mpr beyond.2)
  · change (shedLoop _ _ _ _ _ _).2.1 = ((shedLoop _ _ _ _ _ _).1.map recordedSize).sum
    rw [loop]
  · change Fits recordedSize (retention.storeOwned key value size).maxEntries
      (retention.storeOwned key value size).maxBytes (shedLoop _ _ _ _ _ _).1
    rw [loop, entriesLimit, bytesLimit]
    exact shed.fitting
  · change (shedLoop _ _ _ _ _ _).1.Sublist _
    rw [loop, ← owned_eq value, shed.split]
    exact List.sublist_append_right _ _

/-- What a get does. -/
structure Got (retention : GenerationRetention) (key : RetentionKey) (reply : Option LoadedSnapshot)
    (after : GenerationRetention) : Prop where
  bounded : Bounded retention → Bounded after
  entriesLimit : after.maxEntries = retention.maxEntries
  bytesLimit : after.maxBytes = retention.maxBytes
  entries : ∀ item ∈ after.entries.entries, item ∈ retention.entries.entries
  reply : ∀ snapshot, reply = some snapshot → ∃ size, (key, snapshot, size) ∈ retention.entries.entries

theorem get_spec (retention : GenerationRetention) (key : RetentionKey) :
    Got retention key (retention.get key).1 (retention.get key).2 := by
  unfold GenerationRetention.get
  cases found : retention.entries.get? key with
  | none =>
    exact ⟨(fun bounded => ⟨bounded.bytes, bounded.fits⟩), rfl, rfl, (fun _ member => member),
      fun _ wrong => nomatch wrong⟩
  | some value =>
    have stored := Dict.get?_eq_some.mp found
    have moved : (retention.entries.moveToEnd key).entries = storedAnew retention key value := by
      unfold Dict.moveToEnd
      rw [found]
      exact Dict.entries_store retention.entries key value
    have sum : ((storedAnew retention key value).map recordedSize).sum =
        (retention.entries.entries.map recordedSize).sum := by
      rw [sum_storedAnew, Dict.sum_erase recordedSize found, recordedSize]
      exact sub_add_cancel _ _
    have length : (storedAnew retention key value).length = retention.entries.entries.length := by
      rw [storedAnew, List.length_append, List.length_singleton, Dict.length_erase found]
    refine ⟨fun bounded => ⟨?_, ?_⟩, rfl, rfl, fun item member => ?_, ?_⟩
    · dsimp only
      rw [moved, sum, bounded.bytes]
    · dsimp only
      rw [moved]
      exact ⟨length ▸ bounded.fits.1, sum ▸ bounded.fits.2⟩
    · dsimp only at member
      rw [moved] at member
      rcases List.mem_append.mp member with old | last
      · exact (Dict.mem_entries_erase.mp old).1
      · exact List.mem_singleton.mp last ▸ stored
    · rintro _ ⟨rfl⟩
      exact ⟨value.2, stored⟩

end Bounds

/-! ### Calls over one retention -/

/-- An operation that the retention does not answer. -/
def ToolOp.Elsewhere : ToolOp → Prop
  | .retained _ => False
  | .retain _ _ => False
  | _ => True

/-- The calls find a retention as it is, and leave another; sizes may be measured as anything. -/
inductive Threads : GenerationRetention → List (Call ToolOp ToolReply) → GenerationRetention → Prop
  | nil (retention : GenerationRetention) : Threads retention [] retention
  | get {retention after : GenerationRetention} {rest : List (Call ToolOp ToolReply)} {key : RetentionKey}
    (later : Threads (retention.get key).2 rest after) :
    Threads retention (⟨.retained key, (retention.get key).1⟩ :: rest) after
  | put {retention after : GenerationRetention} {rest : List (Call ToolOp ToolReply)} {key : RetentionKey}
    {value : LoadedSnapshot} {done : ToolReply (.retain key value)} (measured size : ℕ)
    (later : Threads (retention.put key value measured size).2 rest after) :
    Threads retention (⟨.retain key value, done⟩ :: rest) after
  | other {retention after : GenerationRetention} {rest : List (Call ToolOp ToolReply)} {op : ToolOp}
    {reply : ToolReply op} (elsewhere : op.Elsewhere) (later : Threads retention rest after) :
    Threads retention (⟨op, reply⟩ :: rest) after

section Threads

variable {retention after : GenerationRetention} {calls one two : List (Call ToolOp ToolReply)}

theorem threads_append (threads : Threads retention (one ++ two) after) :
    ∃ between, Threads retention one between ∧ Threads between two after := by
  induction one generalizing retention with
  | nil => exact ⟨retention, .nil retention, threads⟩
  | cons call rest ih =>
    rw [List.cons_append] at threads
    cases threads with
    | get later =>
      obtain ⟨between, first, second⟩ := ih later
      exact ⟨between, .get first, second⟩
    | put measured size later =>
      obtain ⟨between, first, second⟩ := ih later
      exact ⟨between, .put measured size first, second⟩
    | other elsewhere later =>
      obtain ⟨between, first, second⟩ := ih later
      exact ⟨between, .other elsewhere first, second⟩

theorem Threads.append {between : GenerationRetention} (first : Threads retention one between)
    (second : Threads between two after) : Threads retention (one ++ two) after := by
  induction first with
  | nil => exact second
  | get _ ih => exact .get (ih second)
  | put measured size _ ih => exact .put measured size (ih second)
  | other elsewhere _ ih => exact .other elsewhere (ih second)

/-- Calls that the retention does not answer leave it. -/
theorem threads_elsewhere (threads : Threads retention calls after)
    (elsewhere : ∀ call ∈ calls, call.op.Elsewhere) : after = retention := by
  induction threads with
  | nil => rfl
  | get later => exact (elsewhere _ List.mem_cons_self).elim
  | put measured size later => exact (elsewhere _ List.mem_cons_self).elim
  | other _ later ih => exact ih fun call member => elsewhere call (List.mem_cons_of_mem _ member)

/-- **After every call the retention counts what it holds and keeps to its limits.** -/
theorem threads_bounded (threads : Threads retention calls after) (bounded : Bounded retention) :
    Bounded after ∧ after.maxEntries = retention.maxEntries ∧ after.maxBytes = retention.maxBytes := by
  induction threads with
  | nil => exact ⟨bounded, rfl, rfl⟩
  | @get retention after rest key later ih =>
    have got := get_spec retention key
    obtain ⟨bounded, entries, bytes⟩ := ih (got.bounded bounded)
    exact ⟨bounded, entries.trans got.entriesLimit, bytes.trans got.bytesLimit⟩
  | @put retention after rest key value done measured size later ih =>
    have put := put_spec bounded key value measured size
    obtain ⟨bounded, entries, bytes⟩ := ih put.bounded
    exact ⟨bounded, entries.trans put.entriesLimit, bytes.trans put.bytesLimit⟩
  | other _ later ih => exact ih bounded

theorem newRetention_bounded {maxBytes maxEntries : ℤ} {fresh : GenerationRetention}
    (made : newRetention maxBytes maxEntries = .ok fresh) :
    Bounded fresh ∧ fresh.entries = .empty ∧ (fresh.maxEntries : ℤ) = maxEntries ∧
      (fresh.maxBytes : ℤ) = maxBytes := by
  unfold newRetention at made
  split at made
  · obtain rfl := Except.ok.inj made
    exact ⟨⟨rfl, Nat.zero_le _, Int.natCast_nonneg _⟩, rfl, Int.toNat_of_nonneg (by omega),
      Int.toNat_of_nonneg (by omega)⟩
  · cases made

end Threads

/-! ### What is retained -/

section Loads

variable {Time : Type} {context : ToolContext Time} {location : SnapshotLocation} {generationId : Text}
  {calls : List (Call ToolOp ToolReply)} {snapshot : LoadedSnapshot} {payloads : List Bytes}
  {retention after : GenerationRetention}

/-- A snapshot is the one generation of one lane, with the ids that it is asked for by. -/
structure IsGeneration (context : ToolContext Time) (payloads : List Bytes)
    (solutionId projectId lane generationId : Text) (snapshot : LoadedSnapshot) : Prop where
  made : MadeOfGeneration context.interpreter context.sha256 none payloads lane snapshot
  generation : snapshot.generationId = generationId
  solution : snapshot.solutionId = solutionId
  project : snapshot.projectId = projectId

/-- What is retained is what its key names. -/
def Keyed (context : ToolContext Time) (payloads : List Bytes) (retention : GenerationRetention) : Prop :=
  ∀ item ∈ retention.entries.entries,
    IsGeneration context payloads item.1.solutionId item.1.projectId item.1.lane item.1.generationId item.2.1

/-- A guarded load returns the generation of a lane. -/
theorem guardedLoad_made {directory : Snapshot.Path} {pinned : Option Text}
    (trace : Trace (guardedLoad context directory location pinned) calls (.ok snapshot)) :
    MadeOfGeneration context.interpreter context.sha256 none (payloadsRead calls) location.lane snapshot := by
  obtain ⟨inner, made, kept⟩ := guardedLoad_ok trace
  rw [payloadsRead, ← kept]
  exact Snapshot.load_made made

/-- A key is put together from its location and generation. -/
theorem retentionKey_names {directory : Snapshot.Path} {key : RetentionKey} {manifest : Manifest}
    (trace : Trace (readingFiles (retentionKey directory location manifest generationId)) calls (.ok key)) :
    key.solutionId = location.solutionId ∧ key.projectId = location.projectId ∧ key.lane = location.lane ∧
      key.generationId = generationId := by
  obtain ⟨inner, ended, made, same, _⟩ := trace_reading trace
  obtain rfl := mapError_eq_ok.mp same.symm
  have made := Snapshot.trace_onFiles made
  rcases trace_bind_iff.mp made with ⟨_, _, wrong⟩ | ⟨root, _, _, _, _, made⟩
  · cases wrong
  rcases trace_bind_iff.mp made with ⟨_, _, wrong⟩ | ⟨guardDir, _, _, _, _, made⟩
  · cases wrong
  obtain ⟨_, same⟩ := trace_done_iff.mp made
  obtain rfl := Except.ok.inj same
  exact ⟨rfl, rfl, rfl, rfl⟩

theorem elsewhere_reading {α : Type} (p : Snapshot.ReadProgram α) : (reading p).Only ToolOp.Elsewhere :=
  (only_embed p fun _ => trivial).resume fun _ => only_ofExcept _

theorem elsewhere_withGuard {α : Type} (directory : Snapshot.Path) (block : Snapshot.ReadProgram α) :
    (withGuard directory block).Only ToolOp.Elsewhere :=
  ⟨trivial, fun _ => elsewhere_reading _⟩

/-- A part that asks no retention leaves it. -/
theorem threads_only {α : Type} {p : ToolProgram α} {outcome : Except ToolError α}
    (trace : Trace p calls outcome) (only : p.Only ToolOp.Elsewhere) (threads : Threads retention calls after) :
    after = retention :=
  threads_elsewhere threads (trace.only only)

/-- What one load over a retention returns and leaves there. -/
structure Step (context : ToolContext Time) (payloads : List Bytes) (location : SnapshotLocation)
    (generationId : Text) (outcome : Except ToolError LoadedSnapshot) (after : GenerationRetention) : Prop where
  keyed : Keyed context payloads after
  returns : ∀ snapshot, outcome = .ok snapshot →
    IsGeneration context payloads location.solutionId location.projectId location.lane generationId snapshot

/-- A load that is not retained is the generation that the guarded manifest names. -/
theorem loaded_isGeneration {directory : Snapshot.Path} {manifest : Manifest}
    {one other : List (Call ToolOp ToolReply)} (free : CollisionFree context.sha256 payloads)
    (selects : Trace (withGuard directory (asReader context directory
      (selectedManifest context location generationId))) one (.ok manifest))
    (loads : Trace (guardedLoad context directory location (some generationId)) other (.ok snapshot))
    (among : payloadsRead one ⊆ payloads) (among' : payloadsRead other ⊆ payloads) :
    IsGeneration context payloads location.solutionId location.projectId location.lane generationId snapshot := by
  obtain ⟨⟨_, _, raw, _, _, read, digest, loaded⟩, solution, project⟩ := guardedManifest_ok selects
  have pinned := guardedLoad_generation loads
  have made := (guardedLoad_made loads).mono among'
  obtain ⟨raw', member', manifest', _, digest', loaded', _, _, solution', project', _⟩ := made.made
  have member : raw ∈ payloads := among (List.mem_flatMap.mpr ⟨_, read, List.mem_cons_self⟩)
  obtain rfl := free raw member raw' member' (digest.trans (pinned.symm.trans digest'.symm))
  obtain ⟨solutions, projects⟩ := manifest_ids_eq loaded loaded'
  exact ⟨made, pinned, solution'.trans (solutions.symm.trans solution),
    project'.trans (projects.symm.trans project)⟩

/-- **One pinned load over a retention.** -/
theorem sourceLoadPinned_keyed (retaining : context.retaining = true)
    (free : CollisionFree context.sha256 payloads) (among : payloadsRead calls ⊆ payloads)
    {outcome : Except ToolError LoadedSnapshot} (keyed : Keyed context payloads retention)
    (bounded : Bounded retention) (threads : Threads retention calls after)
    (trace : Trace (sourceLoadPinned context location generationId) calls outcome) :
    Step context payloads location generationId outcome after := by
  rcases trace_ofExcept_bind_iff.mp trace with ⟨_, _, rfl, rfl⟩ | ⟨directory, _, trace⟩
  · cases threads
    exact ⟨keyed, fun _ wrong => nomatch wrong⟩
  rw [if_pos retaining] at trace
  rcases trace_bind_iff.mp trace with ⟨_, selects, rfl⟩ | ⟨manifest, one, rest, rfl, selects, trace⟩
  · obtain rfl := threads_only selects (elsewhere_withGuard _ _) threads
    exact ⟨keyed, fun _ wrong => nomatch wrong⟩
  obtain ⟨between, first, later⟩ := threads_append threads
  obtain rfl := threads_only selects (elsewhere_withGuard _ _) first
  rcases trace_bind_iff.mp trace with ⟨_, keys, rfl⟩ | ⟨key, two, rest, rfl, keys, trace⟩
  · obtain rfl := threads_only keys (elsewhere_reading _) later
    exact ⟨keyed, fun _ wrong => nomatch wrong⟩
  obtain ⟨lookedUp, second, last⟩ := threads_append later
  obtain rfl := threads_only keys (elsewhere_reading _) second
  obtain ⟨solution, project, lane, generation⟩ := retentionKey_names keys
  obtain ⟨cached, rest, rfl, ended⟩ := trace_call_iff.mp trace
  cases last with
  | other elsewhere _ => exact elsewhere.elim
  | @get _ _ _ _ final =>
    have got := get_spec lookedUp key
    have keyed' : Keyed context payloads (lookedUp.get key).2 := fun item member =>
      keyed item (got.entries item member)
    cases found : (lookedUp.get key).1 with
    | some value =>
      rw [found] at ended
      obtain ⟨rfl, rfl⟩ := trace_done_iff.mp ended
      cases final
      refine ⟨keyed', fun snapshot same => ?_⟩
      obtain rfl := Except.ok.inj same
      obtain ⟨size, stored⟩ := got.reply _ found
      have retained := keyed _ stored
      dsimp only at retained
      rwa [solution, project, lane, generation] at retained
    | none =>
      rw [found] at ended
      rcases trace_bind_iff.mp ended with ⟨_, loads, rfl⟩ | ⟨loaded, three, four, rfl, loads, ended⟩
      · obtain rfl := threads_only loads (elsewhere_withGuard _ _) final
        exact ⟨keyed', fun _ wrong => nomatch wrong⟩
      obtain ⟨reloaded, third, putting⟩ := threads_append final
      obtain rfl := threads_only loads (elsewhere_withGuard _ _) third
      obtain ⟨done, nothing, rfl, finished⟩ := trace_call_iff.mp ended
      obtain ⟨rfl, rfl⟩ := trace_done_iff.mp finished
      have inOne : payloadsRead one ⊆ payloads := List.Subset.trans
        (payloadsRead_subset (by rw [fileCallsOf_append]; exact List.subset_append_left _ _)) among
      have inThree : payloadsRead three ⊆ payloads := by
        refine List.Subset.trans (payloadsRead_subset ?_) among
        rw [fileCallsOf_append, fileCallsOf_append]
        refine List.subset_append_of_subset_right _ (List.subset_append_of_subset_right _ ?_)
        show fileCallsOf three ⊆ fileCallsOf (three ++ [⟨.retain key loaded, done⟩])
        rw [fileCallsOf_append]
        exact List.subset_append_left _ _
      have loadedHere := loaded_isGeneration free selects loads inOne inThree
      cases putting with
      | other elsewhere _ => exact elsewhere.elim
      | put measured size nothing =>
        cases nothing
        refine ⟨fun item member => ?_, fun snapshot same => ?_⟩
        · rcases (put_spec (got.bounded bounded) key loaded measured size).entries with same | ⟨recorded, less⟩
          · rw [same] at member
            exact keyed' item member
          · rcases List.mem_append.mp (less.subset member) with old | new
            · exact keyed' item (Dict.mem_entries_erase.mp old).1
            · obtain rfl := List.mem_singleton.mp new
              dsimp only
              rwa [solution, project, lane, generation]
        · obtain rfl := Except.ok.inj same
          exact loadedHere

/-- What selects the generation of a load: the request itself, or a pointer of its lane that was read. -/
def SelectsGeneration (context : ToolContext Time) (calls : List (Call ToolOp ToolReply)) (generationId : Text) :
    LoadRequest → Prop
  | .pinned _ asked => generationId = asked
  | .current location => ∃ cap raw pointer,
    (⟨.read location.pointer cap, .ok raw⟩ : Call FileOp FileReply) ∈ fileCallsOf calls ∧
      loadPointerBytes context.interpreter raw currentPointerName = .ok pointer ∧
      pointer.generationId = generationId

theorem selectedGeneration_ok {inner : List (Call FileOp FileReply)}
    (trace : Trace (selectedGeneration context location) inner (.ok generationId)) :
    ∃ cap raw pointer, (⟨.read location.pointer cap, .ok raw⟩ : Call FileOp FileReply) ∈ inner ∧
      loadPointerBytes context.interpreter raw currentPointerName = .ok pointer ∧
      pointer.generationId = generationId := by
  rcases trace_bind_iff.mp trace with ⟨_, _, wrong⟩ | ⟨raw, one, rest, rfl, read, trace⟩
  · cases wrong
  rcases trace_ofExcept_bind_iff.mp trace with ⟨_, _, _, wrong⟩ | ⟨pointer, loaded, trace⟩
  · cases wrong
  obtain ⟨rfl, same⟩ := trace_done_iff.mp trace
  obtain rfl := Except.ok.inj same
  obtain ⟨reply, nothing, rfl, given⟩ := trace_call_iff.mp read
  obtain ⟨rfl, rfl⟩ := trace_ofExcept_iff.mp given
  exact ⟨_, raw, pointer, List.mem_cons_self, loaded, rfl⟩

/-- **One load over a retention.** -/
theorem load_keyed (retaining : context.retaining = true) (free : CollisionFree context.sha256 payloads)
    (among : payloadsRead calls ⊆ payloads) {request : LoadRequest} {outcome : Except ToolError LoadedSnapshot}
    (keyed : Keyed context payloads retention) (bounded : Bounded retention)
    (threads : Threads retention calls after) (trace : Trace (request.program context) calls outcome) :
    Keyed context payloads after ∧ ∀ snapshot, outcome = .ok snapshot →
      IsGeneration context payloads request.location.solutionId request.location.projectId request.location.lane
        snapshot.generationId snapshot ∧ SelectsGeneration context calls snapshot.generationId request := by
  cases request with
  | pinned location generationId =>
    obtain ⟨keyed, returns⟩ := sourceLoadPinned_keyed retaining free among keyed bounded threads trace
    refine ⟨keyed, fun snapshot same => ?_⟩
    have generation := (returns snapshot same).generation
    exact ⟨generation.symm ▸ returns snapshot same, generation⟩
  | current location =>
    rcases trace_ofExcept_bind_iff.mp trace with ⟨_, _, rfl, rfl⟩ | ⟨directory, _, trace⟩
    · cases threads
      exact ⟨keyed, fun _ wrong => nomatch wrong⟩
    rw [if_pos retaining] at trace
    rcases trace_bind_iff.mp trace with ⟨_, points, rfl⟩ | ⟨generationId, one, rest, rfl, points, loads⟩
    · obtain rfl := threads_only points (elsewhere_withGuard _ _) threads
      exact ⟨keyed, fun _ wrong => nomatch wrong⟩
    obtain ⟨between, first, later⟩ := threads_append threads
    obtain rfl := threads_only points (elsewhere_withGuard _ _) first
    have inRest : payloadsRead rest ⊆ payloads := by
      rw [payloadsRead_append] at among
      exact List.Subset.trans (List.subset_append_right _ _) among
    obtain ⟨keyed', returns⟩ := sourceLoadPinned_keyed retaining free inRest keyed bounded later loads
    refine ⟨keyed', fun snapshot same => ?_⟩
    have generation := (returns snapshot same).generation
    refine ⟨generation.symm ▸ returns snapshot same, ?_⟩
    obtain ⟨inner, made, kept⟩ := withGuard_ok points
    rcases trace_bind_iff.mp made with ⟨_, _, wrong⟩ | ⟨_, entering, body, rfl, _, ensured⟩
    · cases wrong
    obtain ⟨two, leaving, rfl, returned, _⟩ := trace_ensure_ok.mp ensured
    obtain ⟨cap, raw, pointer, read, loaded, named⟩ := selectedGeneration_ok (Snapshot.trace_onFiles returned)
    refine ⟨cap, raw, pointer, ?_, loaded, named.trans generation.symm⟩
    rw [fileCallsOf_append, ← kept]
    refine List.mem_append_left _ ?_
    simp only [Snapshot.fileCalls_append, List.mem_append]
    exact Or.inr (Or.inl read)

/-- A load without retention returns the generation of its lane. -/
theorem plain_made (plain : context.retaining = false) {request : LoadRequest}
    (trace : Trace (request.program context) calls (.ok snapshot)) :
    MadeOfGeneration context.interpreter context.sha256 none
      (payloadsRead calls) request.location.lane snapshot := by
  cases request with
  | pinned location generationId =>
    rcases trace_ofExcept_bind_iff.mp trace with ⟨_, _, _, wrong⟩ | ⟨directory, _, trace⟩
    · cases wrong
    rw [plain] at trace
    exact guardedLoad_made trace
  | current location =>
    rcases trace_ofExcept_bind_iff.mp trace with ⟨_, _, _, wrong⟩ | ⟨directory, _, trace⟩
    · cases wrong
    rw [plain] at trace
    exact guardedLoad_made trace

/-- **What a run of loads over one retention has retained.** -/
theorem run_keyed (retaining : context.retaining = true) {served : List (LoadRequest × LoadedSnapshot)}
    (run : LoadRun context calls served) (free : CollisionFree context.sha256 payloads)
    (among : payloadsRead calls ⊆ payloads) (keyed : Keyed context payloads retention)
    (bounded : Bounded retention) (threads : Threads retention calls after) : Keyed context payloads after := by
  induction run generalizing after with
  | start =>
    cases threads
    exact keyed
  | @returned calls more served request snapshot before trace ih =>
    rw [payloadsRead_append] at among
    obtain ⟨between, first, later⟩ := threads_append threads
    exact (load_keyed retaining free (List.Subset.trans (List.subset_append_right _ _) among)
      (ih (List.Subset.trans (List.subset_append_left _ _) among) first) (threads_bounded first bounded).1 later
      trace).1
  | @raised calls more served request raised before trace ih =>
    rw [payloadsRead_append] at among
    obtain ⟨between, first, later⟩ := threads_append threads
    exact (load_keyed retaining free (List.Subset.trans (List.subset_append_right _ _) among)
      (ih (List.Subset.trans (List.subset_append_left _ _) among) first) (threads_bounded first bounded).1 later
      trace).1

end Loads

/-! ### Retention is transparent -/

section Transparent

variable {Time : Type}

/-- The context whose source retains nothing. -/
def withoutRetention (context : ToolContext Time) : ToolContext Time := { context with retaining := false }

/-- **Retention is transparent and bounded.** After every call it counts what it holds, keeps to its limits and
raises nothing. And whatever loads went before over whatever store, a load returns a snapshot of its own
location and of the generation it was asked for or was pointed to, which is alike to every snapshot that a load
of this location without retention returns for this generation. -/
theorem retention_transparent (context : ToolContext Time) (retaining : context.retaining = true)
    {maxBytes maxEntries : ℤ} {fresh : GenerationRetention} (made : newRetention maxBytes maxEntries = .ok fresh) :
    (∀ calls retention, Threads fresh calls retention →
      retention.bytes = (retention.entries.entries.map recordedSize).sum ∧ retention.bytes ≤ maxBytes ∧
        (retention.entries.size : ℤ) ≤ maxEntries ∧
        ∀ key value measured size, (retention.put key value measured size).1 = none) ∧
    ∀ calls served retention, LoadRun context calls served → Threads fresh calls retention →
      ∀ request more snapshot after, Trace (LoadRequest.program context request) more (.ok snapshot) →
        Threads retention more after → CollisionFree context.sha256 (payloadsRead (calls ++ more)) →
        BoundTo request.location snapshot ∧ snapshot.lane = request.location.lane ∧
        SelectsGeneration context more snapshot.generationId request ∧
        ∀ request' others snapshot', LoadRequest.location request' = request.location →
          Trace (LoadRequest.program (withoutRetention context) request') others (.ok snapshot') →
          snapshot'.generationId = snapshot.generationId →
          CollisionFree context.sha256 (payloadsRead (calls ++ more) ++ payloadsRead others) →
          Alike snapshot snapshot' := by
  obtain ⟨bounded, empty, entriesLimit, bytesLimit⟩ := newRetention_bounded made
  refine ⟨fun calls retention threads => ?_,
    fun calls served retention run threads request more snapshot after trace
    threads' free => ?_⟩
  · obtain ⟨still, entries, bytes⟩ := threads_bounded threads bounded
    refine ⟨still.bytes, ?_, ?_, fun key value measured size => (put_spec still key value measured size).raises⟩
    · rw [still.bytes, ← bytesLimit, ← bytes]
      exact still.fits.2
    · rw [← entriesLimit, ← entries]
      exact Int.ofNat_le.mpr still.fits.1
  · have keyed : Keyed context (payloadsRead (calls ++ more)) fresh := by
      intro item member
      rw [empty] at member
      cases member
    have among : payloadsRead calls ⊆ payloadsRead (calls ++ more) ∧
        payloadsRead more ⊆ payloadsRead (calls ++ more) := by
      rw [payloadsRead_append]
      exact ⟨List.subset_append_left _ _, List.subset_append_right _ _⟩
    have kept := run_keyed retaining run free among.1 keyed bounded threads
    have counted := (threads_bounded threads bounded).1
    obtain ⟨is, selects⟩ := (load_keyed retaining free among.2 kept counted threads' trace).2 snapshot rfl
    refine ⟨⟨is.solution, is.project⟩, is.made.lane, selects,
      fun request' others snapshot' same trace' generation free' => ?_⟩
    have plain := @plain_made Time (withoutRetention context) others snapshot' rfl request' trace'
    rw [same] at plain
    exact Snapshot.made_alike free' (is.made.mono (List.subset_append_left _ _))
      (plain.mono (List.subset_append_right _ _)) generation.symm

end Transparent

/-! ### A load that is repeated -/

/-- The guard and the retention that a handler has in use. Sizes are counted in shards. -/
def retainingMachine : Machine ToolOp ToolReply (Guard.SolutionGuard × GenerationRetention) where
  permits _ _ _ := True
  after state op reply :=
    match op, reply with
    | .retained key, _ => (state.1, (state.2.get key).2)
    | .retain key value, _ => (state.1, (state.2.put key value value.shards.length value.shards.length).2)
    | op, reply => (toolMachine.after state.1 op reply, state.2)

/-- The replies to a handler that runs alone over a retention. -/
def aloneRetaining (files : Snapshot.Files) (state : Guard.SolutionGuard × GenerationRetention) :
    (op : ToolOp) → ToolReply op
  | .retained key => (state.2.get key).1
  | op => alone files state.1 op

/-- How a handler ends that runs alone over a retention. -/
def outcomeRetaining {α : Type} (files : Snapshot.Files) (retention : GenerationRetention) (p : ToolProgram α) :
    Option (Except ToolError α × GenerationRetention × List Bytes) :=
  (retainingMachine.run (fun _ state => aloneRetaining files state) p [] (.initial, retention)).map
    fun ended => (ended.1, ended.2.2.2, payloadsRead ended.2.1)

/-- It makes a trace that the retention threads. -/
theorem threads_of_run {α : Type} {files : Snapshot.Files} {p : ToolProgram α}
    {calls made : List (Call ToolOp ToolReply)} {state state' : Guard.SolutionGuard × GenerationRetention}
    {outcome : Except ToolError α}
    (ran : retainingMachine.run (fun _ state => aloneRetaining files state) p calls state =
      some (outcome, made, state')) :
    ∃ later, made = calls ++ later ∧ Trace p later outcome ∧ Threads state.2 later state'.2 := by
  induction p generalizing calls state with
  | done a =>
    cases ran
    exact ⟨[], (List.append_nil _).symm, .done a, .nil _⟩
  | raise raised =>
    cases ran
    exact ⟨[], (List.append_nil _).symm, .raise raised, .nil _⟩
  | stuck op => cases ran
  | call op next ih =>
    obtain ⟨later, rfl, rest, threads⟩ := ih _ ran
    refine ⟨⟨op, aloneRetaining files state op⟩ :: later, ?_, .call rest, ?_⟩
    · rw [List.append_assoc]
      rfl
    · cases op with
      | retained key => exact .get threads
      | retain key value => exact .put _ _ threads
      | read op => exact .other trivial threads
      | newGuard directory => exact .other trivial threads
      | control op => exact .other trivial threads
      | installation components checkUpdate => exact .other trivial threads

theorem trace_retaining {α : Type} {files : Snapshot.Files} {retention after : GenerationRetention}
    {p : ToolProgram α} {outcome : Except ToolError α} {payloads : List Bytes}
    (ended : outcomeRetaining files retention p = some (outcome, after, payloads)) :
    ∃ calls, Trace p calls outcome ∧ Threads retention calls after ∧ payloadsRead calls = payloads := by
  obtain ⟨⟨outcome, made, guard, left⟩, ran, same⟩ := Option.map_eq_some_iff.mp ended
  cases same
  obtain ⟨later, split, trace, threads⟩ := threads_of_run ran
  rw [List.nil_append] at split
  exact ⟨later, trace, threads, congrArg payloadsRead split.symm⟩

/-- A caller of the shop, whose source retains. -/
def retainingReader : ToolContext ℕ := { shopReader with retaining := true }

/-- A retention of one entry. -/
def oneEntry : GenerationRetention := ⟨4096, 1, .empty, 0, 0, 0, 0, by decide, Nat.one_pos⟩

/-- What a load of `core` may read. -/
def corePayloads : List Bytes :=
  [Snapshot.samplePointer Snapshot.sampleId, Snapshot.sampleManifest "core", Snapshot.sampleShard]

/-- A load of the generation of `core`. -/
def coreRequest : LoadRequest := .pinned coreLocation Snapshot.sampleId

/-- It runs twice over the retention, and once without: the second load is found there. -/
theorem loaded_twice : ∃ calls snapshot held more snapshot' after others plain,
    Trace (coreRequest.program retainingReader) calls (.ok snapshot) ∧ Threads oneEntry calls held ∧
      Trace (coreRequest.program retainingReader) more (.ok snapshot') ∧ Threads held more after ∧
      after.hits = 1 ∧ Trace (coreRequest.program (withoutRetention retainingReader)) others (.ok plain) ∧
      snapshot'.generationId = plain.generationId ∧
      payloadsRead (calls ++ more) ++ payloadsRead others ⊆ corePayloads := by
  have seen : ((outcomeRetaining Snapshot.coreFiles oneEntry
    (coreRequest.program retainingReader)).bind fun first =>
      (outcomeRetaining Snapshot.coreFiles first.2.1 (coreRequest.program retainingReader)).bind fun second =>
        (outcomeRetaining Snapshot.coreFiles oneEntry
          (coreRequest.program (withoutRetention retainingReader))).map fun other =>
            decide (first.1.isOk = true ∧ second.2.1.hits = 1 ∧
              second.1.toOption.map LoadedSnapshot.generationId = some Snapshot.sampleId ∧
              other.1.toOption.map LoadedSnapshot.generationId = some Snapshot.sampleId ∧
              ∀ payload ∈ first.2.2 ++ second.2.2 ++ other.2.2, payload ∈ corePayloads)) = some true := by
    decide +kernel
  obtain ⟨⟨first, held, read⟩, one, seen⟩ := Option.bind_eq_some_iff.mp seen
  obtain ⟨⟨second, after, read'⟩, two, seen⟩ := Option.bind_eq_some_iff.mp seen
  obtain ⟨⟨other, _, read''⟩, three, same⟩ := Option.map_eq_some_iff.mp seen
  obtain ⟨calls, trace, threads, rfl⟩ := trace_retaining one
  obtain ⟨more, trace', threads', rfl⟩ := trace_retaining two
  obtain ⟨others, trace'', _, rfl⟩ := trace_retaining three
  obtain ⟨isOk, hits, generation, generation', within⟩ := of_decide_eq_true same
  cases first with
  | error raised => cases isOk
  | ok snapshot =>
  cases second with
  | error raised => cases generation
  | ok snapshot' =>
  cases other with
  | error raised => cases generation'
  | ok plain =>
    refine ⟨calls, snapshot, held, more, snapshot', after, others, plain, trace, threads, trace', threads', hits,
      trace'', (Option.some.inj generation).trans (Option.some.inj generation').symm, fun payload here => ?_⟩
    rw [payloadsRead_append] at here
    exact within payload here

/-- What was retained is returned, and alike to what a load without retention returns. -/
theorem retained_core : ∃ calls more snapshot after others plain,
    Trace (coreRequest.program retainingReader) more (.ok snapshot) ∧ Threads oneEntry (calls ++ more) after ∧
      after.hits = 1 ∧ after.bytes ≤ 4096 ∧
      Trace (coreRequest.program (withoutRetention retainingReader)) others (.ok plain) ∧ Alike snapshot plain := by
  obtain ⟨calls, first, held, more, snapshot, after, others, plain, trace, threads, trace', threads', hits, trace'',
    generation, among⟩ := loaded_twice
  have free : CollisionFree Snapshot.sampleSha256 corePayloads := by
    unfold CollisionFree
    decide +kernel
  have transparent := retention_transparent retainingReader rfl
    (show newRetention 4096 1 = .ok oneEntry from rfl)
  have both := threads.append threads'
  have served := transparent.2 calls [(coreRequest, first)] held (LoadRun.returned .start trace) threads coreRequest
    more snapshot after trace' threads' (free.mono (List.Subset.trans (List.subset_append_left _ _) among))
  exact ⟨calls, more, snapshot, after, others, plain, trace', both, hits, (transparent.1 _ _ both).2.1, trace'',
    served.2.2.2 coreRequest others plain rfl trace'' generation.symm (free.mono among)⟩

end AxiomMcp.Tools
