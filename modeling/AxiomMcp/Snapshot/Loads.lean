/-
**What a load returns, whatever its surroundings answer.**

A snapshot is made of one manifest, which the load has read in the directory of its generation.

* `ReadsManifest`: some calls have read the manifest of a generation of a location;
* `firstRead`: the bytes of the first file of a name that some calls have read;
* `Pinned`: a snapshot says of itself what its manifest says, and is of the lane of its session;
* `load_copies`: a load returns the snapshot of what it has copied;
* `load_pinned`: what any trace of a load returns is pinned by a manifest that the load has read.
-/

import AxiomMcp.Lib.Traces
import AxiomMcp.Snapshot.Session

namespace AxiomMcp.Snapshot

open Lib Program

/-- Some calls have read bytes of this digest as the manifest in the directory of the generation. -/
def ReadsManifest (py : Interpreter) (sha256 : Bytes → Text) (location : SnapshotLocation)
    (calls : List (Call FileOp FileReply)) (generationId : Text) (manifest : Manifest) : Prop :=
  ∃ directory cap raw label, location.generationRoot py generationId = .ok directory ∧
    (⟨.read (directory.child manifestFilename) cap, .ok raw⟩ : Call FileOp FileReply) ∈ calls ∧
    sha256 raw = generationId ∧ loadManifestBytes py raw label = .ok manifest

theorem ReadsManifest.mono {py : Interpreter} {sha256 : Bytes → Text} {location : SnapshotLocation}
    {calls more : List (Call FileOp FileReply)} {generationId : Text} {manifest : Manifest}
    (reads : ReadsManifest py sha256 location calls generationId manifest) (kept : calls ⊆ more) :
    ReadsManifest py sha256 location more generationId manifest := by
  obtain ⟨directory, cap, raw, label, rooted, read, digest, loaded⟩ := reads
  exact ⟨directory, cap, raw, label, rooted, kept read, digest, loaded⟩

/-- The bytes that were read of a file of this name. -/
def bytesOfFile (name : Text) : Call FileOp FileReply → Option Bytes
  | ⟨.read path _, .ok raw⟩ => if path.name = name then some raw else none
  | ⟨.readBytes path, .ok raw⟩ => if path.name = name then some raw else none
  | _ => none

/-- The bytes of the first file of this name that some calls have read. -/
def firstRead (name : Text) (calls : List (Call FileOp FileReply)) : Option Bytes :=
  calls.findSome? (bytesOfFile name)

section Loads

variable {session : ReadSession}

/-! ### The manifest of a copy -/

theorem bounded_ok {path : Path} {cap : ℕ} {what : Text} {calls : List (Call FileOp FileReply)} {raw : Bytes}
    (trace : Trace (ReadSession.bounded path cap what) calls (.ok raw)) :
    calls = [⟨.read path cap, .ok raw⟩] := by
  obtain ⟨reply, rest, rfl, after⟩ := trace_call_iff.mp trace
  cases reply with
  | error raised => cases (trace_raise_iff.mp after).2
  | ok payload =>
    dsimp only at after
    split at after
    · cases (trace_raise_iff.mp after).2
    · obtain ⟨rfl, same⟩ := trace_done_iff.mp after
      obtain rfl := Except.ok.inj same
      rfl

theorem copyPointer_pinned {generationId : Text} (pinned : session.pinnedGenerationId = some generationId) :
    session.copyPointer = .done (none, []) := by
  unfold ReadSession.copyPointer
  rw [pinned]

/-- The pointer of a session is no manifest. -/
theorem copyPointer_reads {calls : List (Call FileOp FileReply)} {pointed : Option Pointer × Bytes}
    (trace : Trace session.copyPointer calls (.ok pointed)) : firstRead manifestFilename calls = none := by
  unfold ReadSession.copyPointer at trace
  split at trace
  · obtain ⟨rfl, _⟩ := trace_done_iff.mp trace
    rfl
  rcases trace_bind_iff.mp trace with ⟨_, _, wrong⟩ | ⟨raw, one, rest, rfl, read, trace⟩
  · cases wrong
  rcases trace_ofExcept_bind_iff.mp trace with ⟨_, _, _, wrong⟩ | ⟨pointer, _, trace⟩
  · cases wrong
  obtain ⟨rfl, _⟩ := trace_done_iff.mp trace
  obtain rfl := bounded_ok read
  have other : session.location.pointer.name ≠ manifestFilename := by
    rw [show session.location.pointer.name = currentPointerName from Path.name_child _ _]
    decide
  unfold firstRead bytesOfFile
  rw [List.append_nil, List.findSome?_singleton]
  exact if_neg other

/-- A copy repeats the manifest that it has read first, and is of the generation that its session was pinned to. -/
structure Repeats (session : ReadSession) (calls : List (Call FileOp FileReply)) (copied : CopiedGeneration) :
    Prop where
  read : ReadsManifest session.interpreter session.sha256 session.location calls copied.generationId
    copied.manifest
  first : ∃ raw label, firstRead manifestFilename calls = some raw ∧
    loadManifestBytes session.interpreter raw label = .ok copied.manifest
  solutionId : copied.solutionId = copied.manifest.solutionId
  projectId : copied.projectId = copied.manifest.projectId
  lane : copied.lane = session.location.lane
  generation : ∀ generationId, session.pinnedGenerationId = some generationId →
    copied.generationId = generationId

theorem copyGeneration_repeats {calls : List (Call FileOp FileReply)} {copied : CopiedGeneration}
    (trace : Trace session.copyGeneration calls (.ok copied)) : Repeats session calls copied := by
  rcases trace_bind_iff.mp trace with ⟨_, _, wrong⟩ | ⟨⟨pointer, pointerBytes⟩, one, rest, rfl, pointed, trace⟩
  · cases wrong
  rcases trace_ofExcept_bind_iff.mp trace with ⟨_, _, _, wrong⟩ | ⟨generationDir, rooted, trace⟩
  · cases wrong
  rcases trace_bind_iff.mp trace with ⟨_, _, wrong⟩ | ⟨raw, two, rest, rfl, read, trace⟩
  · cases wrong
  rcases trace_ofExcept_bind_iff.mp trace with ⟨_, _, _, wrong⟩ | ⟨manifest, loaded, trace⟩
  · cases wrong
  rcases trace_ofExcept_bind_iff.mp trace with ⟨_, _, _, wrong⟩ | ⟨_, checked, trace⟩
  · cases wrong
  rcases trace_bind_iff.mp trace with ⟨_, _, wrong⟩ | ⟨shards, three, rest, rfl, _, trace⟩
  · cases wrong
  obtain ⟨_, same⟩ := trace_done_iff.mp trace
  cases same
  obtain rfl := bounded_ok read
  obtain ⟨_, _, _, _, _, _, _, bytes, _⟩ := loadManifestBytes_ok loaded
  -- the manifest was read below the directory of its own digest
  have named : session.selectedId pointer = manifest.generationId session.sha256 :=
    (generationRoot_name rooted).symm.trans (checkManifest_ok checked)
  refine ⟨⟨generationDir, session.limits.maxManifestBytes, raw, _, named ▸ rooted, ?_,
    congrArg session.sha256 bytes.symm, loaded⟩, ⟨raw, _, ?_, loaded⟩, rfl, rfl,
    rfl, fun generationId pinned => ?_⟩
  · exact List.mem_append_right _ (List.mem_append_left _ List.mem_cons_self)
  · unfold firstRead
    rw [List.findSome?_append, show one.findSome? _ = none from copyPointer_reads pointed, Option.none_or]
    exact List.findSome?_cons.trans (by rw [bytesOfFile, if_pos (Path.name_child _ _)])
  · -- a pinned session reads no pointer
    rw [copyPointer_pinned pinned] at pointed
    obtain ⟨_, same⟩ := trace_done_iff.mp pointed
    cases same
    unfold ReadSession.selectedId at named
    rw [pinned] at named
    exact named.symm

/-! ### The manifest of a snapshot -/

/-- The calls of a session to the file system. -/
def fileCalls (calls : List (Call ReadOp ReadReply)) : List (Call FileOp FileReply) :=
  calls.filterMap fun call =>
    match call with
    | ⟨.file op, reply⟩ => some ⟨op, reply⟩
    | _ => none

theorem fileCalls_append (one other : List (Call ReadOp ReadReply)) :
    fileCalls (one ++ other) = fileCalls one ++ fileCalls other := List.filterMap_append

theorem fileCalls_map (asked : List ((op : FileOp) × ReadReply (.file op))) :
    fileCalls (asked.map fun call => ⟨.file call.1, call.2⟩) = asked.map fun call => ⟨call.1, call.2⟩ := by
  induction asked with
  | nil => rfl
  | cons call rest ih => exact congrArg (List.cons _) ih

/-- The calls of a part that asks the file system only. -/
theorem trace_onFiles {α : Type} {p : FileProgram α} {calls : List (Call ReadOp ReadReply)}
    {outcome : Except Raised α} (trace : Trace (onFiles p) calls outcome) :
    Trace p (fileCalls calls) outcome := by
  obtain ⟨asked, rfl, made⟩ := trace_embed_iff.mp trace
  rw [fileCalls_map]
  exact made

/-- A snapshot that a session has made, and the manifest it is of. -/
structure Pinned (session : ReadSession) (calls : List (Call ReadOp ReadReply)) (snapshot : LoadedSnapshot)
    (manifest : Manifest) : Prop where
  read : ReadsManifest session.interpreter session.sha256 session.location (fileCalls calls)
    snapshot.generationId manifest
  first : ∃ raw label, firstRead manifestFilename (fileCalls calls) = some raw ∧
    loadManifestBytes session.interpreter raw label = .ok manifest
  solutionId : snapshot.solutionId = manifest.solutionId
  projectId : snapshot.projectId = manifest.projectId
  lane : snapshot.lane = session.location.lane
  coverage : snapshot.coverageStatus = manifest.coverageStatus session.interpreter
  generation : ∀ generationId, session.pinnedGenerationId = some generationId →
    snapshot.generationId = generationId

/-- A part that asks for no files makes no calls to the file system. -/
theorem fileCalls_of_only {α : Type} {p : ReadProgram α} {calls : List (Call ReadOp ReadReply)}
    {outcome : Except Raised α} (trace : Trace p calls outcome)
    (only : p.Only fun op => ∀ asked, op ≠ .file asked) :
    fileCalls calls = [] := by
  refine List.filterMap_eq_nil_iff.mpr fun call member => ?_
  obtain ⟨op, reply⟩ := call
  cases op with
  | file asked => exact (trace.only only _ member asked rfl).elim
  | _ => rfl

theorem fileCalls_onGuard {α : Type} {p : Guard.GuardProgram α} {calls : List (Call ReadOp ReadReply)}
    {outcome : Except Raised α} (trace : Trace (onGuard p) calls outcome) : fileCalls calls = [] :=
  fileCalls_of_only trace (only_embed p fun _ _ wrong => nomatch wrong)

theorem fileCalls_readClock {calls : List (Call ReadOp ReadReply)} {outcome : Except Raised ℚ}
    (trace : Trace readClock calls outcome) : fileCalls calls = [] :=
  fileCalls_of_only trace ⟨(fun _ wrong => nomatch wrong), fun _ => trivial⟩

theorem fileCalls_heldNames {calls : List (Call ReadOp ReadReply)} {outcome : Except Raised (List Text)}
    (trace : Trace heldNames calls outcome) : fileCalls calls = [] :=
  fileCalls_of_only trace ⟨(fun _ wrong => nomatch wrong), fun _ => trivial⟩

/-- **A load returns the snapshot of what it has copied**, and reads no other files. -/
theorem load_copies {rounds : ℕ} {calls : List (Call ReadOp ReadReply)} {snapshot : LoadedSnapshot}
    (trace : Trace (session.load rounds) calls (.ok snapshot)) :
    ∃ copied verified started ended, Trace session.copyGeneration (fileCalls calls) (.ok copied) ∧
      verifyCopied session.interpreter session.sha256 copied.manifest copied.shards = .ok verified ∧
      snapshot = session.snapshotOf copied verified started ended := by
  rcases trace_bind_iff.mp trace with ⟨_, _, wrong⟩ | ⟨started, clock, rest, rfl, reads, after⟩
  · cases wrong
  rcases trace_bind_iff.mp after with ⟨_, _, wrong⟩ | ⟨copied, one, other, rfl, copies, final⟩
  · cases wrong
  rcases trace_bind_iff.mp copies with ⟨_, _, wrong⟩ | ⟨_, entering, inside, rfl, enters, ensured⟩
  · cases wrong
  obtain ⟨body, leaving, rfl, guarded, leaves⟩ := trace_ensure_ok.mp ensured
  rcases trace_bind_iff.mp guarded with ⟨_, _, wrong⟩ | ⟨table, looking, within, rfl, looks, guarded⟩
  · cases wrong
  split at guarded
  · cases (trace_raise_iff.mp guarded).2
  rcases trace_bind_iff.mp final with ⟨_, _, wrong⟩ | ⟨held, again, last, rfl, looks', final⟩
  · cases wrong
  split at final
  · cases (trace_raise_iff.mp final).2
  rcases trace_ofExcept_bind_iff.mp final with ⟨_, _, _, wrong⟩ | ⟨verified, checked, final⟩
  · cases wrong
  rcases trace_bind_iff.mp final with ⟨_, _, wrong⟩ | ⟨ended, clock', none, rfl, reads', final⟩
  · cases wrong
  obtain ⟨rfl, same⟩ := trace_done_iff.mp final
  refine ⟨copied, verified, started, ended, ?_, checked, Except.ok.inj same⟩
  have files : fileCalls (clock ++ ((entering ++ ((looking ++ within) ++ leaving)) ++ (again ++ (clock' ++ [])))) =
      fileCalls within := by
    simp only [fileCalls_append, fileCalls_readClock reads, fileCalls_onGuard enters, fileCalls_heldNames looks,
      fileCalls_onGuard leaves, fileCalls_heldNames looks', fileCalls_readClock reads', List.nil_append,
      List.append_nil]
  rw [files]
  exact trace_onFiles guarded

/-- **A load returns what is pinned by a manifest that it has read.** -/
theorem load_pinned {rounds : ℕ} {calls : List (Call ReadOp ReadReply)} {snapshot : LoadedSnapshot}
    (trace : Trace (session.load rounds) calls (.ok snapshot)) :
    ∃ manifest, Pinned session calls snapshot manifest := by
  obtain ⟨copied, verified, started, ended, copies, _, rfl⟩ := load_copies trace
  have repeats := copyGeneration_repeats copies
  exact ⟨copied.manifest, repeats.read, repeats.first, repeats.solutionId, repeats.projectId, repeats.lane, rfl,
    repeats.generation⟩

end Loads

end AxiomMcp.Snapshot
