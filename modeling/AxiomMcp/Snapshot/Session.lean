/-
**The read session (`read_session.py`).**

`ReadSession.load` copies a pointer, a manifest and the required shards through its byte source, while it
holds the shared guard, and verifies and parses the copies after it let the guard go. The source is asked
once for each of them and may answer anything each time.

* `ReadOp`: what a session asks, of the engine of its guard, of the file system and of the clock;
* `Reading`: the guard and all payloads the source has returned, and `readMachine`, which moves them;
* `load_along`: what a load that returned has read (`Served`), and that its guard is free.
-/

import AxiomMcp.Guard.Invariant
import AxiomMcp.Snapshot.Pins
import AxiomMcp.Snapshot.Shards

namespace AxiomMcp.Snapshot

open Lib Program Machine
open Guard (GuardOp GuardReply GuardProgram SolutionGuard)

/-! ### Limits and results -/

/-- The hard caps of a bounded copy. -/
structure ReadLimits where
  maxPointerBytes : ℕ := 64 * 1024
  maxManifestBytes : ℕ := 4 * 1024 * 1024
  shardLimits : ShardLimits := {}
  positive : 1 ≤ maxPointerBytes ∧ 1 ≤ maxManifestBytes := by decide

/-- The default limits. -/
def defaultReadLimits : ReadLimits := {}

/-- What was copied while the guard was held. -/
structure CopiedGeneration where
  solutionId : Text
  projectId : Text
  lane : Text
  generationId : Text
  pointerBytes : Bytes
  manifest : Manifest
  shards : List CopiedShard
  bytesCopied : ℤ

/-- A verified and parsed generation. -/
structure LoadedSnapshot where
  solutionId : Text
  projectId : Text
  lane : Text
  generationId : Text
  analysisProfile : Text
  sourceFingerprint : Text
  coverageStatus : Text
  records : ℤ
  shards : List Shard
  bytesCopied : ℤ
  copyMs : ℤ
  guardHeldDuringCopy : Bool
  parsedAfterGuardRelease : Bool
  verification : Text := "manifest_hash"
  freshness : Text := "unknown"

/-! ### What a session asks -/

/-- The operations of a session. -/
inductive ReadOp
  /-- A step of the engine of its guard. -/
  | guard (op : GuardOp)
  | file (op : FileOp)
  /-- `self._clock()` -/
  | clock
  deriving DecidableEq

/-- What they are answered. -/
abbrev ReadReply : ReadOp → Type
  | .guard op => GuardReply op
  | .file op => FileReply op
  | .clock => ℚ

/-- A part of a session. -/
abbrev ReadProgram (α : Type) := Program ReadOp ReadReply Raised α

/-- A part of the engine of the guard. -/
def onGuard {α : Type} : GuardProgram α → ReadProgram α := embed ReadOp.guard fun _ reply => reply

/-- A part that asks the file system only. -/
def onFiles {α : Type} : FileProgram α → ReadProgram α := embed ReadOp.file fun _ reply => reply

/-- `self._clock()` -/
def readClock : ReadProgram ℚ := .call .clock .done

/-- `self._guard.held_names` -/
def heldNames : ReadProgram (List Text) :=
  .call (.guard .heldTable) fun (table : List Guard.HeldLock) => .done (table.map Guard.HeldLock.name)

/-- A `ReadSessionError`. -/
def sessionError (message : Text) : Raised := .session .sessionError message

/-- One bounded copy, for one generation of one location. -/
structure ReadSession where
  interpreter : Interpreter
  sha256 : Bytes → Text
  guard : Guard.Settings
  location : SnapshotLocation
  limits : ReadLimits := defaultReadLimits
  roles : Option (List Text) := none
  attempts : ℤ := 1
  pinnedGenerationId : Option Text := none

namespace ReadSession

variable (session : ReadSession)

/-- `self._bounded(path, cap, what)` -/
def bounded (path : Path) (cap : ℕ) (what : Text) : FileProgram Bytes :=
  .call (.read path cap) fun reply =>
    match reply with
    | .error raised => .raise raised
    | .ok payload =>
      if cap < payload.length then
        .raise (.session .boundedCopyExceeded (Text.format [what, " is larger than the hard cap ",
          Text.ofNat cap, " bytes"]))
      else .done payload

/-- The pointer of a session that is not pinned, with its bytes. -/
def copyPointer : FileProgram (Option Pointer × Bytes) :=
  match session.pinnedGenerationId with
  | some _ => .done (none, [])
  | none => do
    let raw ← bounded session.location.pointer session.limits.maxPointerBytes "the lane pointer"
    let pointer ← ofExcept (loadPointerBytes session.interpreter raw currentPointerName)
    .done (some pointer, raw)

/-- The generation that a session reads: the one its pointer names, or the pinned one. -/
def selectedId (pointer : Option Pointer) : Text :=
  match pointer with
  | some pointer => pointer.directoryName
  | none => session.pinnedGenerationId.getD []

/-- The checks of the manifest against the directory it was read from and against the pointer. -/
def checkManifest (pointer : Option Pointer) (generationDir : Path) (manifest : Manifest) :
    Except Raised Unit :=
  if generationDir.name ≠ manifest.generationId session.sha256 then
    .error (.manifest .digestMismatch (Text.format ["generation directory ", generationDir.name,
      " does not match the manifest bytes ", manifest.generationId session.sha256]))
  else
    match pointer with
    | some pointer => manifest.verifyPointer session.sha256 pointer
    | none =>
      if manifest.generationId session.sha256 ≠ session.selectedId none then
        .error (.manifest .digestMismatch (Text.format ["generation directory ",
          session.selectedId none, " does not match manifest bytes ",
          manifest.generationId session.sha256]))
      else .ok ()

/-- `self._copy_generation()` -/
def copyGeneration : FileProgram CopiedGeneration := do
  let (pointer, pointerBytes) ← session.copyPointer
  let generationDir ← ofExcept (session.location.generationRoot session.interpreter
    (session.selectedId pointer))
  let label := manifestLabel (session.selectedId pointer)
  let manifestBytes ← bounded (generationDir.child manifestFilename) session.limits.maxManifestBytes label
  let manifest ← ofExcept (loadManifestBytes session.interpreter manifestBytes label)
  ofExcept (session.checkManifest pointer generationDir manifest)
  let copied ← copyShards session.interpreter session.sha256 session.location manifest session.roles
    session.limits.shardLimits
  .done {
    solutionId := manifest.solutionId
    projectId := manifest.projectId
    lane := session.location.lane
    generationId := manifest.generationId session.sha256
    pointerBytes, manifest
    shards := copied
    bytesCopied := pointerBytes.length + manifestBytes.length + (copied.map CopiedShard.bytes).sum }

/-- The block of `load` inside its reader context. -/
def copyGuarded : ReadProgram CopiedGeneration := do
  let held ← heldNames
  if ("data.lock" : Text) ∉ held then
    .raise (sessionError (Text.format ["the reader context did not hold the data guard; held=",
      namesRepr session.interpreter held]))
  else onFiles session.copyGeneration

/-- The snapshot of a copy. -/
def snapshotOf (copied : CopiedGeneration) (verified : List Shard) (started ended : ℚ) :
    LoadedSnapshot where
  solutionId := copied.solutionId
  projectId := copied.projectId
  lane := copied.lane
  generationId := copied.generationId
  analysisProfile := copied.manifest.analysisProfile
  sourceFingerprint := copied.manifest.sourceFingerprint
  coverageStatus := copied.manifest.coverageStatus session.interpreter
  records := (verified.map Shard.records).sum
  shards := verified
  bytesCopied := copied.bytesCopied
  copyMs := max ⌊(ended - started) * 1000⌋ 0
  guardHeldDuringCopy := true
  parsedAfterGuardRelease := true

/-- `self.load()`; the waits of the guard are unrolled `rounds` times. -/
def load (rounds : ℕ) : ReadProgram LoadedSnapshot := do
  let started ← readClock
  let copied ← Guard.ordered session.interpreter session.guard rounds onGuard Guard.readerSpecs
    Guard.readerEarly session.attempts session.copyGuarded
  let held ← heldNames
  if held ≠ [] then
    .raise (sessionError (Text.format ["the read session still holds ",
      namesRepr session.interpreter held, " after the copy"]))
  else do
    let verified ← ofExcept (verifyCopied session.interpreter session.sha256 copied.manifest copied.shards)
    let ended ← readClock
    .done (session.snapshotOf copied verified started ended)

end ReadSession

/-! ### What a session sees -/

/-- The guard of a session, and the payloads its source has returned. -/
structure Reading where
  guard : SolutionGuard
  payloads : List Bytes

/-- A session's surroundings, which may answer anything but the guard's own table. -/
def readMachine : Machine ReadOp ReadReply Reading where
  permits s op reply :=
    match op, reply with
    | .guard op, reply => Guard.permits s.guard op reply
    | .file _, _ => True
    | .clock, _ => True
  after s op reply :=
    match op, reply with
    | .guard op, reply => { s with guard := Guard.after s.guard op reply }
    | .file op, reply => { s with payloads := s.payloads ++ op.payload reply }
    | .clock, _ => s

/-- The file system is a part of a session's surroundings. -/
theorem part_files : Part fileMachine readMachine Reading.payloads ReadOp.file fun _ reply => reply where
  permits _ _ _ _ := trivial
  after _ _ _ := rfl

/-! ### What a load has read -/

section Loads

variable {session : ReadSession}

/-- A copy that was made from the payloads. -/
structure CopiedFrom (session : ReadSession) (payloads : List Bytes) (copied : CopiedGeneration) :
    Prop where
  raw : ∃ raw ∈ payloads, session.sha256 raw = copied.generationId ∧
    loadManifestBytes session.interpreter raw (manifestLabel copied.generationId) = .ok copied.manifest
  shards : ∃ entries, selectedEntries session.interpreter session.sha256 copied.manifest session.roles =
    .ok entries ∧ List.Forall₂ (CopyOf payloads) entries copied.shards

/-- A snapshot that was served from the payloads. -/
structure Served (session : ReadSession) (payloads : List Bytes) (snapshot : LoadedSnapshot) : Prop where
  raw : ∃ raw ∈ payloads, ∃ manifest, session.sha256 raw = snapshot.generationId ∧
    loadManifestBytes session.interpreter raw (manifestLabel snapshot.generationId) = .ok manifest ∧
    ∃ entries, selectedEntries session.interpreter session.sha256 manifest session.roles = .ok entries ∧
      List.Forall₂ (ShardOf session.interpreter session.sha256 payloads) entries snapshot.shards

theorem bounded_along (path : Path) (cap : ℕ) (what : Text) (payloads : List Bytes) :
    fileMachine.Along (fun _ _ => True)
      (fun outcome after => payloads ⊆ after ∧ ∀ raw, outcome = .ok raw → raw ∈ after)
      (ReadSession.bounded path cap what) payloads := by
  refine along_call trivial fun reply _ => ?_
  have kept : payloads ⊆ fileMachine.after payloads (.read path cap) reply :=
    List.subset_append_left _ _
  cases reply with
  | error raised => exact ⟨kept, fun _ none => nomatch none⟩
  | ok payload =>
    show fileMachine.Along _ _ (if _ then _ else _) _
    split
    · exact ⟨kept, fun _ none => nomatch none⟩
    · refine ⟨kept, fun raw same => ?_⟩
      obtain rfl := Except.ok.inj same
      exact List.mem_append_right _ List.mem_cons_self

theorem copyPointer_along (payloads : List Bytes) :
    fileMachine.Along (fun _ _ => True) (fun _ after => payloads ⊆ after) session.copyPointer payloads := by
  unfold ReadSession.copyPointer
  split
  · exact List.Subset.refl _
  · refine (bounded_along _ _ _ payloads).bind (fun raw after read => ?_) fun _ _ read => read.1
    exact along_ofExcept_bind (fun _ _ => read.1) fun _ _ => read.1

/-- The directory of a generation has its name. -/
theorem generationRoot_name {py : Interpreter} {location : SnapshotLocation} {generationId : Text}
    {directory : Path} (rooted : location.generationRoot py generationId = .ok directory) :
    directory.name = generationId := by
  obtain ⟨name, named, rooted⟩ := bind_eq_ok.mp rooted
  cases rooted
  rw [Path.name_child]
  unfold generationDirectoryName at named
  split at named
  · exact (Except.ok.inj named).symm
  · cases named

theorem checkManifest_ok {pointer : Option Pointer} {generationDir : Path} {manifest : Manifest}
    (checked : session.checkManifest pointer generationDir manifest = .ok ()) :
    generationDir.name = manifest.generationId session.sha256 := by
  unfold ReadSession.checkManifest at checked
  split at checked
  · cases checked
  · next same => exact not_not.mp same

theorem copyGeneration_along (session : ReadSession) (payloads : List Bytes) :
    fileMachine.Along (fun _ _ => True)
      (fun outcome after => ∀ copied, outcome = .ok copied → CopiedFrom session after copied)
      session.copyGeneration payloads := by
  have fails : ∀ {after : List Bytes} (raised : Raised) copied,
      (.error raised : Except Raised CopiedGeneration) = .ok copied → CopiedFrom session after copied :=
    fun _ _ none => nomatch none
  refine (copyPointer_along payloads).bind (fun pointed after _ => ?_) fun raised _ _ => fails raised
  obtain ⟨pointer, pointerBytes⟩ := pointed
  refine along_ofExcept_bind (fun generationDir rooted => ?_) fun raised _ => fails raised
  refine (bounded_along _ _ _ after).bind (fun raw later read => ?_) fun raised _ _ => fails raised
  refine along_ofExcept_bind (fun manifest loaded => ?_) fun raised _ => fails raised
  refine along_ofExcept_bind (fun _ checked => ?_) fun raised _ => fails raised
  refine (copyShards_along session.roles later).bind (fun copied final ends => ?_)
    fun raised _ _ => fails raised
  rintro _ ⟨rfl⟩
  -- the manifest was read below the directory of its own digest
  have named : session.selectedId pointer = manifest.generationId session.sha256 :=
    (generationRoot_name rooted).symm.trans (checkManifest_ok checked)
  obtain ⟨_, _, _, _, _, _, _, same, _⟩ := loadManifestBytes_ok loaded
  refine ⟨⟨raw, ends.1 (read.2 raw rfl), ?_, ?_⟩, ends.2 copied rfl⟩
  · exact congrArg session.sha256 same.symm
  · rw [← named]
    exact loaded

/-- A part of the engine of the guard leaves the payloads. -/
theorem onGuard_along {α : Type} (p : GuardProgram α) (s : Reading) :
    readMachine.Along (fun _ _ => True) (fun _ after => after.payloads = s.payloads) (onGuard p) s := by
  have guards : (onGuard p).Only fun op => ∃ asked, op = .guard asked :=
    only_embed p fun asked => ⟨asked, rfl⟩
  refine (along_of_only (fun after => after.payloads = s.payloads) guards rfl ?_).mono
    (fun _ _ _ => trivial) fun _ _ same => same
  rintro between _ reply same ⟨asked, rfl⟩ _
  exact same

/-- The table of the guard as it stands. -/
theorem heldNames_along (s : Reading) :
    readMachine.Along (fun _ _ => True)
      (fun outcome after => after = s ∧ outcome = .ok (s.guard.held.map Guard.HeldLock.name)) heldNames
      s := by
  refine along_call trivial fun reply permitted => ⟨rfl, ?_⟩
  rw [show reply = s.guard.held from permitted]

theorem copyGuarded_along (s : Reading) :
    readMachine.Along (fun _ _ => True)
      (fun outcome after => ∀ copied, outcome = .ok copied → CopiedFrom session after.payloads copied)
      session.copyGuarded s := by
  refine (heldNames_along s).bind (fun held after _ => ?_) fun _ _ _ _ none => nomatch none
  split
  · exact fun _ none => nomatch none
  · have along := copyGeneration_along session after.payloads
    refine (along.embed part_files (fun _ => True) (fun _ _ _ _ _ _ => trivial)
      (fun _ _ _ _ => trivial) trivial).post fun outcome final ends => ends.1

/-- The copy inside its reader context. -/
theorem ordered_along (rounds : ℕ) (s : Reading) :
    readMachine.Along (fun _ _ => True)
      (fun outcome after => ∀ copied, outcome = .ok copied → CopiedFrom session after.payloads copied)
      (Guard.ordered session.interpreter session.guard rounds onGuard Guard.readerSpecs Guard.readerEarly
        session.attempts session.copyGuarded) s := by
  refine (onGuard_along _ s).bind (fun _ entered _ => ?_) fun _ _ _ _ none => nomatch none
  refine (copyGuarded_along entered).ensure fun outcome after copies => ?_
  refine (onGuard_along _ after).post fun closing final same => ?_
  cases closing with
  | error raised => exact fun _ none => nomatch none
  | ok _ =>
    intro copied returned
    rw [same]
    exact copies copied returned

/-- **What a load that returned has read**, and that its guard is free. -/
theorem load_along (rounds : ℕ) (s : Reading) :
    readMachine.Along (fun _ _ => True)
      (fun outcome after => ∀ snapshot, outcome = .ok snapshot →
        Served session after.payloads snapshot ∧ after.guard.held = [])
      (session.load rounds) s := by
  refine along_call trivial fun started _ => ?_
  refine (ordered_along rounds _).bind (fun copied after copies => ?_) fun _ _ _ _ none => nomatch none
  obtain ⟨⟨raw, read, digest, loaded⟩, entries, selected, each⟩ := copies copied rfl
  refine (heldNames_along after).bind (fun held between same => ?_) fun _ _ _ _ none => nomatch none
  obtain ⟨rfl, listed⟩ := same
  obtain rfl := Except.ok.inj listed
  split
  · exact fun _ none => nomatch none
  · next free =>
    refine along_ofExcept_bind (fun verified checked => ?_) fun _ _ _ none => nomatch none
    refine along_call trivial fun ended _ => ?_
    rintro _ ⟨rfl⟩
    refine ⟨⟨raw, read, copied.manifest, digest, loaded, entries, selected, ?_⟩, ?_⟩
    · exact verifyCopied_ok loaded (selectedEntries_subset selected) each checked
    · exact List.map_eq_nil_iff.mp (not_not.mp free)

/-! ### Two loads of one generation -/

variable {py : Interpreter} {sha256 : Bytes → Text} {payloads payloads' : List Bytes}

/-- Shards that were verified against one entry hold the same document. -/
theorem ShardOf.document_eq {entry : ManifestEntry} {shard shard' : Shard}
    (free : CollisionFree sha256 (payloads ++ payloads')) (one : ShardOf py sha256 payloads entry shard)
    (other : ShardOf py sha256 payloads' entry shard') : shard.document = shard'.document := by
  obtain ⟨payload, here, digest, parsed⟩ := one.parsed
  obtain ⟨payload', here', digest', parsed'⟩ := other.parsed
  obtain rfl := free payload (List.mem_append_left _ here) payload' (List.mem_append_right _ here')
    (digest.trans digest'.symm)
  exact Except.ok.inj ((parsed []).symm.trans (parsed' []))

theorem shards_eq {entries : List ManifestEntry} {shards shards' : List Shard}
    (free : CollisionFree sha256 (payloads ++ payloads'))
    (one : List.Forall₂ (ShardOf py sha256 payloads) entries shards)
    (other : List.Forall₂ (ShardOf py sha256 payloads') entries shards') :
    shards.map Shard.document = shards'.map Shard.document := by
  induction one generalizing shards' with
  | nil =>
    cases other
    rfl
  | cons here _ ih =>
    cases other with
    | cons there later => exact List.cons_eq_cons.mpr ⟨here.document_eq free there, ih later⟩

/-- Two snapshots of one generation hold the same documents. -/
theorem Served.documents_eq {session' : ReadSession} {snapshot snapshot' : LoadedSnapshot}
    (interpreter : session'.interpreter = session.interpreter)
    (digests : session'.sha256 = session.sha256) (roles : session'.roles = session.roles)
    (one : Served session payloads snapshot) (other : Served session' payloads' snapshot')
    (free : CollisionFree session.sha256 (payloads ++ payloads'))
    (same : snapshot.generationId = snapshot'.generationId) :
    snapshot.shards.map Shard.document = snapshot'.shards.map Shard.document := by
  obtain ⟨raw, here, manifest, digest, loaded, entries, selected, each⟩ := one.raw
  obtain ⟨raw', here', manifest', digest', loaded', entries', selected', each'⟩ := other.raw
  rw [interpreter, digests] at *
  rw [roles] at selected'
  obtain rfl := free raw (List.mem_append_left _ here) raw' (List.mem_append_right _ here')
    (digest.trans (same.trans digest'.symm))
  rw [← same] at loaded'
  obtain rfl := Except.ok.inj (loaded.symm.trans loaded')
  obtain rfl := Except.ok.inj (selected.symm.trans selected')
  exact shards_eq free each each'

/-- Surroundings of a session, which answer by all they were asked before. -/
abbrev Source := List (Call ReadOp ReadReply) → Reading → (op : ReadOp) → ReadReply op

/-- A load that returned, from a source that may have answered anything. -/
def Loaded (session : ReadSession) (snapshot : LoadedSnapshot) (after : Reading) : Prop :=
  ∃ (rounds : ℕ) (source : Source) (guard : SolutionGuard) (made : List (Call ReadOp ReadReply)),
    (∀ calls s op, readMachine.permits s op (source calls s op)) ∧
      readMachine.run source (session.load rounds) [] ⟨guard, []⟩ = some (.ok snapshot, made, after)

theorem Loaded.served {snapshot : LoadedSnapshot} {after : Reading}
    (loaded : Loaded session snapshot after) :
    Served session after.payloads snapshot ∧ after.guard.held = [] := by
  obtain ⟨rounds, source, guard, made, legal, ran⟩ := loaded
  exact (load_along rounds ⟨guard, []⟩).run ran (fun _ _ => trivial)
    (fun calls s op (_ : True) => legal calls s op) snapshot rfl

/-- **A session serves one immutable generation**: what it returns was read once, and verified as it was
read, so two loads of one generation hold the same documents whatever happened to the bytes between. -/
theorem loads_serve_one_generation {session session' : ReadSession}
    (interpreter : session'.interpreter = session.interpreter)
    (digests : session'.sha256 = session.sha256) (roles : session'.roles = session.roles)
    {snapshot snapshot' : LoadedSnapshot} {after after' : Reading}
    (loaded : Loaded session snapshot after) (loaded' : Loaded session' snapshot' after') :
    (Served session after.payloads snapshot ∧ after.guard.held = []) ∧
      (Served session' after'.payloads snapshot' ∧ after'.guard.held = []) ∧
        (CollisionFree session.sha256 (after.payloads ++ after'.payloads) →
          snapshot.generationId = snapshot'.generationId →
            snapshot.shards.map Shard.document = snapshot'.shards.map Shard.document) :=
  ⟨loaded.served, loaded'.served, fun free same =>
    loaded.served.1.documents_eq interpreter digests roles loaded'.served.1 free same⟩

/-! ### A generation that is copied twice -/

/-- The lane of `core`, with its pointer, its manifest and its shard. -/
def coreFiles : Files := .plain
  [((sampleRoot "core").child currentPointerName, samplePointer sampleId),
    ((sampleRoot "core").joined ["generations", sampleId, "manifest.json"], sampleManifest "core"),
    ((sampleRoot "core").joined ["generations", sampleId, "coverage.json"], sampleShard)]

/-- Nobody changes the files, and the guard is free. -/
def quietSource : Source := fun _ s op =>
  match op with
  | .guard op => Guard.surroundings (fun _ => none) [] s.guard op
  | .file op => coreFiles.reply op
  | .clock => 0

theorem quietSource_legal (calls : List (Call ReadOp ReadReply)) (s : Reading) (op : ReadOp) :
    readMachine.permits s op (quietSource calls s op) := by
  cases op with
  | guard op => exact Guard.surroundings_legal (fun _ => none) [] s.guard op
  | file op => exact trivial
  | clock => exact trivial

/-- A session on the lane of `core`. -/
def coreSession (pinned : Option Text) : ReadSession where
  interpreter := .ascii
  sha256 := sampleSha256
  guard := Guard.defaultSettings
  location := ⟨"shop", "core", liveLane, sampleRoot "core"⟩
  pinnedGenerationId := pinned

/-- A load of the lane of `core`: the generation it reports, and what it has read. -/
theorem loaded_core {pinned : Option Text} (either : pinned = none ∨ pinned = some sampleId) :
    ∃ snapshot after, Loaded (coreSession pinned) snapshot after ∧ snapshot.generationId = sampleId ∧
      after.payloads ⊆ [samplePointer sampleId, sampleManifest "core", sampleShard] := by
  have seen : (readMachine.run quietSource ((coreSession pinned).load 1) [] ⟨.initial, []⟩).map
      (fun ended => (ended.1.toOption.map LoadedSnapshot.generationId, ended.2.2.payloads.all
        fun payload => payload ∈ [samplePointer sampleId, sampleManifest "core", sampleShard])) =
        some (some sampleId, true) := by
    rcases either with rfl | rfl
    · decide +kernel
    · decide +kernel
  obtain ⟨⟨outcome, made, after⟩, ran, same⟩ := Option.map_eq_some_iff.mp seen
  obtain ⟨returned, within⟩ := Prod.mk.inj same
  cases outcome with
  | error raised => cases returned
  | ok snapshot =>
    refine ⟨snapshot, after, ⟨1, quietSource, .initial, made, quietSource_legal, ran⟩,
      Option.some.inj returned, fun payload here => ?_⟩
    exact of_decide_eq_true (List.all_eq_true.mp within payload here)

/-- The current generation, and the same one pinned. -/
theorem loads_serve_core : ∃ snapshot snapshot' after after',
    Loaded (coreSession none) snapshot after ∧ Loaded (coreSession (some sampleId)) snapshot' after' ∧
      after.guard.held = [] ∧ snapshot.shards.map Shard.document = snapshot'.shards.map Shard.document := by
  obtain ⟨snapshot, after, loaded, generation, within⟩ := loaded_core (Or.inl rfl)
  obtain ⟨snapshot', after', loaded', generation', within'⟩ := loaded_core (Or.inr rfl)
  have served := @loads_serve_one_generation (coreSession none) (coreSession (some sampleId)) rfl rfl rfl
    _ _ _ _ loaded loaded'
  have free : CollisionFree sampleSha256
      [samplePointer sampleId, sampleManifest "core", sampleShard] := by
    unfold CollisionFree
    decide +kernel
  refine ⟨snapshot, snapshot', after, after', loaded, loaded', served.1.2, served.2.2 ?_ ?_⟩
  · intro one here other there same
    refine free one ?_ other ?_ same
    · exact (List.mem_append.mp here).elim (fun first => within first) fun second => within' second
    · exact (List.mem_append.mp there).elim (fun first => within first) fun second => within' second
  · rw [generation, generation']

end Loads

end AxiomMcp.Snapshot
