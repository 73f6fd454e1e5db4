/-
**The sources of snapshots (`runtime.py`, `tools/context.py`).**

A handler reads a project through the source of its context. The source makes a guard over the directory of
the project's instance and lets a read session copy the generation. One that retains generations checks the
manifest under the guard first, and copies only what it has not retained.

* `guardedLoad`: `GuardedSnapshotSource`, by the current pointer or pinned;
* `sourceLoad` and `sourceLoadPinned`: `RegisteredSource`, with retention or without;
* `loadProject` and `loadPinnedProject`: the two loads of a `ToolContext`, with the errors they translate;
* `only_loadPinnedProject`: a load asks the guard, the files and the retention, and nothing else.
-/

import AxiomMcp.Lib.Traces
import AxiomMcp.Snapshot.Loads
import AxiomMcp.Tools.Context

namespace AxiomMcp.Tools

open Lib Program
open Security (capabilityRead)
open Snapshot (LoadedSnapshot Manifest ReadProgram ReadSession SnapshotLocation FileProgram FileOp
  FileReply onGuard onFiles manifestFilename loadManifestBytes loadPointerBytes currentPointerName supportedSchemaMajor)

/-! ### Reads of a handler -/

/-- A part of a read session. -/
def reading {α : Type} (p : ReadProgram α) : ToolProgram α :=
  (p.embed ToolOp.read fun _ reply => reply).resume fun outcome => ofExcept (outcome.mapError .snapshot)

/-- A part that asks the file system only. -/
def readingFiles {α : Type} (p : FileProgram α) : ToolProgram α := reading (onFiles p)

/-- A value or an exception of the snapshot modules. -/
def ofRaised {α : Type} (ended : Except Raised α) : ToolProgram α := ofExcept (ended.mapError .snapshot)

/-- `SolutionGuard(directory, timeout_ms=5000)` -/
def guardSettings (directory : Snapshot.Path) : Guard.Settings where
  directory := directory.text
  timeoutMs := 5000
  cancellable := false
  bounded := by decide

section Sources

variable {Time : Type} (context : ToolContext Time)

/-- A block with a guard of its own, whose directory is made before it and which is closed after it. -/
def withGuard {α : Type} (directory : Snapshot.Path) (block : ReadProgram α) : ToolProgram α :=
  .call (.newGuard directory.text) fun _ => reading do
    onGuard Guard.makeDirectory
    block.ensure (onGuard Guard.close)

/-- `with guard.reader(): body` -/
def asReader {α : Type} (directory : Snapshot.Path) (body : FileProgram α) : ReadProgram α :=
  Guard.ordered context.interpreter (guardSettings directory) context.rounds onGuard Guard.readerSpecs
    Guard.readerEarly 1 (onFiles body)

/-- The session of a `GuardedSnapshotSource`, pinned or not. -/
def sessionOf (directory : Snapshot.Path) (location : SnapshotLocation) (pinned : Option Text) :
    ReadSession where
  interpreter := context.interpreter
  sha256 := context.sha256
  guard := guardSettings directory
  location
  pinnedGenerationId := pinned

/-- `GuardedSnapshotSource(directory).load(location)`, or `load_pinned(location, generation_id)`. -/
def guardedLoad (directory : Snapshot.Path) (location : SnapshotLocation) (pinned : Option Text) :
    ToolProgram LoadedSnapshot :=
  withGuard directory ((sessionOf context directory location pinned).load context.rounds)

/-- The directory of `self.source(location)`. -/
def sourceDirectory (location : SnapshotLocation) : Except Raised Snapshot.Path :=
  (context.registry.solution context.interpreter location.solutionId).map fun binding =>
    context.registry.guardDirectory binding.instanceId

/-- The check of a retained generation: its manifest is that of the location. -/
def checkSelected (location : SnapshotLocation) (generationId : Text) (manifest : Manifest) :
    Except Raised Unit :=
  if manifest.generationId context.sha256 ≠ generationId ∨ manifest.solutionId ≠ location.solutionId ∨
      manifest.projectId ≠ location.projectId then
    .error (.manifest .digestMismatch "selected generation identity differs")
  else .ok ()

/-- The manifest of a selected generation, read and checked. -/
def selectedManifest (location : SnapshotLocation) (generationId : Text) : FileProgram Manifest := do
  let directory ← ofExcept (location.generationRoot context.interpreter generationId)
  let raw ← (.call (.read (directory.child manifestFilename) (4 * 1024 * 1024)) ofExcept :
    FileProgram Bytes)
  let manifest ← ofExcept (loadManifestBytes context.interpreter raw manifestFilename)
  ofExcept (checkSelected context location generationId manifest)
  .done manifest

/-- The key a generation is retained under. -/
def retentionKey (directory : Snapshot.Path) (location : SnapshotLocation) (manifest : Manifest)
    (generationId : Text) : FileProgram RetentionKey := do
  let root ← Snapshot.resolvePath location.root .os
  let guardDir ← Snapshot.resolvePath directory .os
  .done {
    root := root.text
    guardDir := guardDir.text
    solutionId := location.solutionId
    projectId := location.projectId
    lane := location.lane
    schemaMajor := supportedSchemaMajor
    analysisProfile := manifest.analysisProfile
    generationId }

/-- What is retained under a key, or else loaded and retained. -/
def retainedLoad (directory : Snapshot.Path) (location : SnapshotLocation) (generationId : Text)
    (key : RetentionKey) : ToolProgram LoadedSnapshot :=
  .call (.retained key) fun cached =>
    match cached with
    | some snapshot => .done snapshot
    | none => do
      let loaded ← guardedLoad context directory location (some generationId)
      .call (.retain key loaded) fun _ => .done loaded

/-- `source.load_pinned(location, generation_id)` -/
def sourceLoadPinned (location : SnapshotLocation) (generationId : Text) : ToolProgram LoadedSnapshot := do
  let directory ← ofRaised (sourceDirectory context location)
  if context.retaining then do
    let manifest ← withGuard directory (asReader context directory
      (selectedManifest context location generationId))
    let key ← readingFiles (retentionKey directory location manifest generationId)
    retainedLoad context directory location generationId key
  else guardedLoad context directory location (some generationId)

/-- The generation a lane points at. -/
def selectedGeneration (location : SnapshotLocation) : FileProgram Text := do
  let raw ← (.call (.read location.pointer (64 * 1024)) ofExcept : FileProgram Bytes)
  let pointer ← ofExcept (loadPointerBytes context.interpreter raw currentPointerName)
  .done pointer.generationId

/-- `source.load(location)` -/
def sourceLoad (location : SnapshotLocation) : ToolProgram LoadedSnapshot := do
  let directory ← ofRaised (sourceDirectory context location)
  if context.retaining then do
    let generationId ← withGuard directory (asReader context directory (selectedGeneration context location))
    sourceLoadPinned context location generationId
  else guardedLoad context directory location none

/-! ### The loads of a context -/

/-- `isinstance(exc, FileNotFoundError)` -/
def isFileNotFound : ToolError → Bool
  | .snapshot (.os fault) => decide (fault.name = "FileNotFoundError")
  | _ => false

/-- The refusal of a generation that is not there. -/
def snapshotMissing (projectId message : Text) : ToolError :=
  refusal .snapshotUnavailable message [("project_id", .str projectId)]

/-- What `load_project` makes of an exception of its source. -/
def translateLoad (projectId : Text) (raised : ToolError) : ToolError :=
  if isFileNotFound raised then
    snapshotMissing projectId "the registered lane has no published generation"
  else raised

/-- What `load_pinned_project` makes of an exception. -/
def translatePinned (projectId : Text) : ToolError → ToolError
  | .snapshot (.registry _ message) => refusal .notFound message []
  | raised =>
    if isFileNotFound raised then
      snapshotMissing projectId "the catalog-pinned generation is unavailable"
    else raised

/-- `context.load_project(solution_id, project_id, lane)` -/
def loadProject (solutionId projectId lane : Text) : ToolProgram LoadedSnapshot := do
  ofExcept (context.principal.require capabilityRead solutionId [projectId])
  let location ← ofExcept ((context.registry.location context.interpreter solutionId projectId lane).mapError
    translateRegistry)
  (sourceLoad context location).rescue fun raised => .raise (translateLoad projectId raised)

/-- `context.load_pinned_project(solution_id, project_id, lane, generation_id)` -/
def loadPinnedProject (solutionId projectId lane generationId : Text) : ToolProgram LoadedSnapshot := do
  ofExcept (context.principal.require capabilityRead solutionId [projectId])
  let load : ToolProgram LoadedSnapshot := do
    let location ← ofRaised (context.registry.location context.interpreter solutionId projectId lane)
    sourceLoadPinned context location generationId
  load.rescue fun raised => .raise (translatePinned projectId raised)

/-! ### What a load asks -/

variable {context}

/-- What a source asks: anything but the control plane and the installation. -/
def ToolOp.OfSource : ToolOp → Prop
  | .control _ => False
  | .installation _ _ => False
  | _ => True

theorem only_reading {α : Type} (p : ReadProgram α) : (reading p).Only ToolOp.OfSource :=
  (only_embed p fun _ => trivial).resume fun _ => only_ofExcept _

theorem only_withGuard {α : Type} (directory : Snapshot.Path) (block : ReadProgram α) :
    (withGuard directory block).Only ToolOp.OfSource :=
  ⟨trivial, fun _ => only_reading _⟩

theorem only_sourceLoadPinned (location : SnapshotLocation) (generationId : Text) :
    (sourceLoadPinned context location generationId).Only ToolOp.OfSource := by
  refine (only_ofExcept _).bind fun directory => ?_
  split
  · refine (only_withGuard _ _).bind fun manifest => (only_reading _).bind fun key => ?_
    refine ⟨trivial, fun cached => ?_⟩
    cases cached with
    | some snapshot => exact trivial
    | none => exact (only_withGuard _ _).bind fun loaded => ⟨trivial, fun _ => trivial⟩
  · exact only_withGuard _ _

theorem only_loadPinnedProject (solutionId projectId lane generationId : Text) :
    (loadPinnedProject context solutionId projectId lane generationId).Only ToolOp.OfSource := by
  refine (only_ofExcept _).bind fun _ => Only.rescue ?_ fun _ => trivial
  exact (only_ofExcept _).bind fun location => only_sourceLoadPinned location generationId

/-! ### What a load returns -/

/-- The calls of a handler to the file system. -/
def fileCallsOf (calls : List (Call ToolOp ToolReply)) : List (Call FileOp FileReply) :=
  calls.filterMap fun call =>
    match call with
    | ⟨.read (.file op), reply⟩ => some ⟨op, reply⟩
    | _ => none

theorem fileCallsOf_append (one other : List (Call ToolOp ToolReply)) :
    fileCallsOf (one ++ other) = fileCallsOf one ++ fileCallsOf other := List.filterMap_append

/-- A part of a read session. -/
theorem trace_reading {α : Type} {p : ReadProgram α} {calls : List (Call ToolOp ToolReply)}
    {outcome : Except ToolError α} (trace : Trace (reading p) calls outcome) :
    ∃ inner ended, Trace p inner ended ∧ outcome = ended.mapError .snapshot ∧
      fileCallsOf calls = Snapshot.fileCalls inner := by
  obtain ⟨ended, one, other, rfl, first, second⟩ := trace_resume_iff.mp trace
  obtain ⟨rfl, rfl⟩ := trace_ofExcept_iff.mp second
  obtain ⟨asked, rfl, made⟩ := trace_embed_iff.mp first
  refine ⟨_, ended, made, rfl, ?_⟩
  rw [List.append_nil]
  unfold fileCallsOf Snapshot.fileCalls
  rw [List.filterMap_map, List.filterMap_map]
  refine List.filterMap_congr fun call _ => ?_
  obtain ⟨op, reply⟩ := call
  cases op <;> rfl

/-- A block that returns under its guard was a block that returned, and the guard asks for no files. -/
theorem withGuard_ok {α : Type} {directory : Snapshot.Path} {block : ReadProgram α}
    {calls : List (Call ToolOp ToolReply)} {a : α}
    (trace : Trace (withGuard directory block) calls (.ok a)) :
    ∃ inner, Trace block inner (.ok a) ∧ Snapshot.fileCalls inner = fileCallsOf calls := by
  obtain ⟨reply, rest, rfl, after⟩ := trace_call_iff.mp trace
  obtain ⟨inner, ended, made, same, read⟩ := trace_reading after
  obtain rfl := mapError_eq_ok.mp same.symm
  rcases trace_bind_iff.mp made with ⟨_, _, wrong⟩ | ⟨_, making, body, rfl, makes, ensured⟩
  · cases wrong
  obtain ⟨one, closing, rfl, returned, closes⟩ := trace_ensure_ok.mp ensured
  refine ⟨one, returned, ?_⟩
  show _ = fileCallsOf rest
  rw [read, Snapshot.fileCalls_append, Snapshot.fileCalls_append, Snapshot.fileCalls_onGuard makes,
    Snapshot.fileCalls_onGuard closes, List.nil_append, List.append_nil]

/-- A guarded load returns what its session does. -/
theorem guardedLoad_ok {directory : Snapshot.Path} {location : SnapshotLocation} {pinned : Option Text}
    {calls : List (Call ToolOp ToolReply)} {snapshot : LoadedSnapshot}
    (trace : Trace (guardedLoad context directory location pinned) calls (.ok snapshot)) :
    ∃ inner, Trace ((sessionOf context directory location pinned).load context.rounds) inner (.ok snapshot) ∧
      Snapshot.fileCalls inner = fileCallsOf calls := withGuard_ok trace

/-- What `load_project` returns comes from its source. -/
theorem loadProject_ok {solutionId projectId lane : Text} {calls : List (Call ToolOp ToolReply)}
    {snapshot : LoadedSnapshot}
    (trace : Trace (loadProject context solutionId projectId lane) calls (.ok snapshot)) :
    ∃ location, context.registry.location context.interpreter solutionId projectId lane = .ok location ∧
      Trace (sourceLoad context location) calls (.ok snapshot) := by
  rcases trace_ofExcept_bind_iff.mp trace with ⟨_, _, _, wrong⟩ | ⟨_, _, trace⟩
  · cases wrong
  rcases trace_ofExcept_bind_iff.mp trace with ⟨_, _, _, wrong⟩ | ⟨location, located, trace⟩
  · cases wrong
  refine ⟨location, mapError_eq_ok.mp located, ?_⟩
  rcases trace_rescue_iff.mp trace with ⟨a, loads, same⟩ | ⟨raised, _, _, _, _, handled⟩
  · cases same
    exact loads
  · cases (trace_raise_iff.mp handled).2

end Sources

end AxiomMcp.Tools
