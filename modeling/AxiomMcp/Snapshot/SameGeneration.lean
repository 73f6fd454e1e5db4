/-
**A snapshot is determined by its generation.**

The digest of a generation covers its manifest, and the manifest covers its shards. So what a load returns
depends on nothing but the generation and the lane, apart from what it measures while it copies.

* `copyShards_ok`, `copyGeneration_made`: what a copy consists of, in any trace;
* `MadeOfGeneration`: a snapshot says of itself what the manifest of its generation says, and its shards are
  what the manifest pins;
* `load_made`: what a load returns is so;
* `made_alike`: **two snapshots of one generation and one lane are alike**, as long as no two payloads that
  were read collide.
-/

import AxiomMcp.Snapshot.Loads

namespace AxiomMcp.Snapshot

open Lib Program

/-- The payloads that some calls have read. -/
def readPayloads (calls : List (Call FileOp FileReply)) : List Bytes :=
  calls.flatMap fun call => call.op.payload call.reply

theorem readPayloads_append (one other : List (Call FileOp FileReply)) :
    readPayloads (one ++ other) = readPayloads one ++ readPayloads other := List.flatMap_append

/-! ### Copies -/

section Copies

variable {py : Interpreter} {sha256 : Bytes → Text} {location : SnapshotLocation} {manifest : Manifest}
  {limits : ShardLimits} {entry : ManifestEntry} {payloads more : List Bytes}

/-- The copy of an entry is a payload with what the entry says of it. -/
def CopiedAs (payloads : List Bytes) (entry : ManifestEntry) (copied : CopiedShard) : Prop :=
  ∃ payload ∈ payloads, copied = ⟨entry.path, entry.role, entry.sha256, entry.bytes, entry.records, payload⟩

theorem CopiedAs.mono {copied : CopiedShard} (made : CopiedAs payloads entry copied) (kept : payloads ⊆ more) :
    CopiedAs more entry copied := by
  obtain ⟨payload, member, same⟩ := made
  exact ⟨payload, kept member, same⟩

theorem copyShard_ok {calls : List (Call FileOp FileReply)} {copied : CopiedShard}
    (trace : Trace (copyShard py sha256 location manifest limits entry) calls (.ok copied)) :
    CopiedAs (readPayloads calls) entry copied := by
  rcases trace_ofExcept_bind_iff.mp trace with ⟨_, _, _, wrong⟩ | ⟨_, _, trace⟩
  · cases wrong
  rcases trace_ofExcept_bind_iff.mp trace with ⟨_, _, _, wrong⟩ | ⟨_, _, trace⟩
  · cases wrong
  rcases trace_bind_iff.mp trace with ⟨_, _, wrong⟩ | ⟨resolved, one, other, rfl, _, trace⟩
  · cases wrong
  obtain ⟨reply, rest, rfl, after⟩ := trace_call_iff.mp trace
  rcases trace_ofExcept_bind_iff.mp after with ⟨_, _, _, wrong⟩ | ⟨payload, answered, after⟩
  · cases wrong
  obtain ⟨rfl, checked⟩ := trace_ofExcept_iff.mp after
  obtain rfl := mapError_eq_ok.mp answered
  refine ⟨payload, ?_, checkPayload_ok checked.symm⟩
  rw [readPayloads_append]
  exact List.mem_append_right _ List.mem_cons_self

theorem copyEach_ok {entries : List ManifestEntry} {calls : List (Call FileOp FileReply)}
    {copied : List CopiedShard}
    (trace : Trace (copyEach py sha256 location manifest limits entries) calls (.ok copied)) :
    List.Forall₂ (CopiedAs (readPayloads calls)) entries copied := by
  induction entries generalizing calls copied with
  | nil =>
    obtain ⟨_, same⟩ := trace_done_iff.mp trace
    obtain rfl := Except.ok.inj same
    exact .nil
  | cons entry rest ih =>
    rcases trace_bind_iff.mp trace with ⟨_, _, wrong⟩ | ⟨first, one, other, rfl, here, trace⟩
    · cases wrong
    rcases trace_bind_iff.mp trace with ⟨_, _, wrong⟩ | ⟨later, two, last, rfl, there, trace⟩
    · cases wrong
    obtain ⟨rfl, same⟩ := trace_done_iff.mp trace
    obtain rfl := Except.ok.inj same
    rw [readPayloads_append, readPayloads_append]
    refine .cons ((copyShard_ok here).mono (List.subset_append_left _ _)) ((ih there).imp fun _ _ made => ?_)
    exact made.mono (List.subset_append_of_subset_right _ (List.subset_append_left _ _))

theorem copyShards_ok {roles : Option (List Text)} {calls : List (Call FileOp FileReply)}
    {copied : List CopiedShard}
    (trace : Trace (copyShards py sha256 location manifest roles limits) calls (.ok copied)) :
    ∃ entries, selectedEntries py sha256 manifest roles = .ok entries ∧
      List.Forall₂ (CopiedAs (readPayloads calls)) entries copied := by
  rcases trace_ofExcept_bind_iff.mp trace with ⟨_, _, _, wrong⟩ | ⟨entries, selected, trace⟩
  · cases wrong
  rcases trace_ofExcept_bind_iff.mp trace with ⟨_, _, _, wrong⟩ | ⟨_, _, trace⟩
  · cases wrong
  exact ⟨entries, selected, copyEach_ok trace⟩

/-! ### Shards -/

/-- The shard of an entry is the document of a payload with its digest. -/
def ParsedAs (py : Interpreter) (sha256 : Bytes → Text) (payloads : List Bytes) (entry : ManifestEntry)
    (shard : Shard) : Prop :=
  ∃ payload ∈ payloads, ∃ document, sha256 payload = entry.sha256 ∧
    (∀ what, parseBytes py payload what = .ok document) ∧
    shard = ⟨entry.path, entry.role, entry.sha256, entry.bytes, entry.records, document⟩

theorem ParsedAs.mono {shard : Shard} (made : ParsedAs py sha256 payloads entry shard) (kept : payloads ⊆ more) :
    ParsedAs py sha256 more entry shard := by
  obtain ⟨payload, member, document, digest, parsed, same⟩ := made
  exact ⟨payload, kept member, document, digest, parsed, same⟩

/-- What is verified is the document of each copy. -/
theorem verifyCopied_made {raw : Bytes} {what : Text} (loaded : loadManifestBytes py raw what = .ok manifest)
    {entries : List ManifestEntry} {copied : List CopiedShard} {shards : List Shard}
    (within : ∀ entry ∈ entries, entry ∈ manifest.files)
    (copies : List.Forall₂ (CopiedAs payloads) entries copied)
    (verified : verifyCopied py sha256 manifest copied = .ok shards) :
    List.Forall₂ (ParsedAs py sha256 payloads) entries shards := by
  have each := mapM_ok.mp verified
  clear verified
  induction copies generalizing shards with
  | nil =>
    cases each
    exact .nil
  | @cons entry item entries copied copy _ ih =>
    cases each with
    | cons one later =>
      rw [List.forall_mem_cons] at within
      refine .cons ?_ (ih within.2 later)
      obtain ⟨payload, member, rfl⟩ := copy
      obtain ⟨found, lookup, one⟩ := bind_eq_ok.mp one
      obtain rfl := Except.ok.inj ((entry_of_mem loaded within.1).symm.trans lookup)
      obtain ⟨document, parsed, one⟩ := bind_eq_ok.mp one
      obtain rfl := Except.ok.inj one
      obtain ⟨digest, reads⟩ := verifyShard_ok parsed
      exact ⟨payload, member, document, digest, reads, rfl⟩

/-- A digest pins its shard. -/
theorem shards_unique {entries : List ManifestEntry} {shards shards' : List Shard}
    (free : CollisionFree sha256 payloads) (one : List.Forall₂ (ParsedAs py sha256 payloads) entries shards)
    (other : List.Forall₂ (ParsedAs py sha256 payloads) entries shards') : shards = shards' := by
  induction one generalizing shards' with
  | nil =>
    cases other
    rfl
  | cons here _ ih =>
    cases other with
    | cons there later =>
      obtain ⟨payload, member, document, digest, parsed, rfl⟩ := here
      obtain ⟨payload', member', document', digest', parsed', rfl⟩ := there
      obtain rfl := free payload member payload' member' (digest.trans digest'.symm)
      obtain rfl := Except.ok.inj ((parsed []).symm.trans (parsed' []))
      rw [ih later]

end Copies

/-! ### Generations -/

section Generations

variable {session : ReadSession}

/-- A copy of a generation consists of its manifest and of what that pins. -/
structure CopyOfGeneration (session : ReadSession) (payloads : List Bytes) (copied : CopiedGeneration) : Prop where
  raw : ∃ raw ∈ payloads, session.sha256 raw = copied.generationId ∧
    loadManifestBytes session.interpreter raw (manifestLabel copied.generationId) = .ok copied.manifest
  shards : ∃ entries, selectedEntries session.interpreter session.sha256 copied.manifest session.roles =
    .ok entries ∧ List.Forall₂ (CopiedAs payloads) entries copied.shards

theorem copyGeneration_made {calls : List (Call FileOp FileReply)} {copied : CopiedGeneration}
    (trace : Trace session.copyGeneration calls (.ok copied)) :
    CopyOfGeneration session (readPayloads calls) copied := by
  rcases trace_bind_iff.mp trace with ⟨_, _, wrong⟩ | ⟨⟨pointer, pointerBytes⟩, one, rest, rfl, _, trace⟩
  · cases wrong
  rcases trace_ofExcept_bind_iff.mp trace with ⟨_, _, _, wrong⟩ | ⟨generationDir, rooted, trace⟩
  · cases wrong
  rcases trace_bind_iff.mp trace with ⟨_, _, wrong⟩ | ⟨raw, two, rest, rfl, read, trace⟩
  · cases wrong
  rcases trace_ofExcept_bind_iff.mp trace with ⟨_, _, _, wrong⟩ | ⟨manifest, loaded, trace⟩
  · cases wrong
  rcases trace_ofExcept_bind_iff.mp trace with ⟨_, _, _, wrong⟩ | ⟨_, checked, trace⟩
  · cases wrong
  rcases trace_bind_iff.mp trace with ⟨_, _, wrong⟩ | ⟨shards, three, rest, rfl, copies, trace⟩
  · cases wrong
  obtain ⟨rfl, same⟩ := trace_done_iff.mp trace
  cases same
  obtain rfl := bounded_ok read
  obtain ⟨_, _, _, _, _, _, _, bytes, _⟩ := loadManifestBytes_ok loaded
  -- the manifest was read below the directory of its own digest
  have named : session.selectedId pointer = manifest.generationId session.sha256 :=
    (generationRoot_name rooted).symm.trans (checkManifest_ok checked)
  obtain ⟨entries, selected, each⟩ := copyShards_ok copies
  simp only [readPayloads_append]
  refine ⟨⟨raw, ?_, congrArg session.sha256 bytes.symm, named ▸ loaded⟩, entries, selected,
    each.imp fun _ _ copy => copy.mono ?_⟩
  · exact List.mem_append_right _ (List.mem_append_left _ List.mem_cons_self)
  · exact List.subset_append_of_subset_right _
      (List.subset_append_of_subset_right _ (List.subset_append_left _ _))

/-- A snapshot of a lane that is what the manifest of its generation says. -/
structure MadeOfGeneration (py : Interpreter) (sha256 : Bytes → Text) (roles : Option (List Text))
    (payloads : List Bytes) (lane : Text) (snapshot : LoadedSnapshot) : Prop where
  made : ∃ raw ∈ payloads, ∃ manifest entries, sha256 raw = snapshot.generationId ∧
    loadManifestBytes py raw (manifestLabel snapshot.generationId) = .ok manifest ∧
    selectedEntries py sha256 manifest roles = .ok entries ∧
    List.Forall₂ (ParsedAs py sha256 payloads) entries snapshot.shards ∧
    snapshot.solutionId = manifest.solutionId ∧ snapshot.projectId = manifest.projectId ∧
    snapshot.analysisProfile = manifest.analysisProfile ∧
    snapshot.sourceFingerprint = manifest.sourceFingerprint ∧
    snapshot.coverageStatus = manifest.coverageStatus py
  lane : snapshot.lane = lane
  records : snapshot.records = (snapshot.shards.map Shard.records).sum

theorem MadeOfGeneration.mono {py : Interpreter} {sha256 : Bytes → Text} {roles : Option (List Text)}
    {payloads more : List Bytes} {lane : Text} {snapshot : LoadedSnapshot}
    (generation : MadeOfGeneration py sha256 roles payloads lane snapshot) (kept : payloads ⊆ more) :
    MadeOfGeneration py sha256 roles more lane snapshot := by
  obtain ⟨⟨raw, member, manifest, entries, digest, loaded, selected, each, ids⟩, lane, records⟩ := generation
  exact ⟨⟨raw, kept member, manifest, entries, digest, loaded, selected,
    each.imp fun _ _ made => made.mono kept, ids⟩, lane, records⟩

/-- **What a load returns is what the manifest of its generation says.** -/
theorem load_made {rounds : ℕ} {calls : List (Call ReadOp ReadReply)} {snapshot : LoadedSnapshot}
    (trace : Trace (session.load rounds) calls (.ok snapshot)) :
    MadeOfGeneration session.interpreter session.sha256 session.roles (readPayloads (fileCalls calls))
      session.location.lane snapshot := by
  obtain ⟨copied, verified, started, ended, copies, checked, rfl⟩ := load_copies trace
  have repeats := copyGeneration_repeats copies
  obtain ⟨⟨raw, member, digest, loaded⟩, entries, selected, each⟩ := copyGeneration_made copies
  have shards := verifyCopied_made loaded (selectedEntries_subset selected) each checked
  exact ⟨⟨raw, member, copied.manifest, entries, digest, loaded, selected, shards, repeats.solutionId,
    repeats.projectId, rfl, rfl, rfl⟩, repeats.lane, rfl⟩

/-! ### Alike snapshots -/

/-- Two snapshots of one identity with the same documents. What a load measures while it copies may differ. -/
structure Alike (one other : LoadedSnapshot) : Prop where
  solutionId : one.solutionId = other.solutionId
  projectId : one.projectId = other.projectId
  lane : one.lane = other.lane
  generationId : one.generationId = other.generationId
  analysisProfile : one.analysisProfile = other.analysisProfile
  sourceFingerprint : one.sourceFingerprint = other.sourceFingerprint
  coverageStatus : one.coverageStatus = other.coverageStatus
  records : one.records = other.records
  shards : one.shards = other.shards

/-- **Two snapshots of one generation and lane are alike.** -/
theorem made_alike {py : Interpreter} {sha256 : Bytes → Text} {roles : Option (List Text)} {payloads : List Bytes}
    {lane : Text} {one other : LoadedSnapshot} (free : CollisionFree sha256 payloads)
    (made : MadeOfGeneration py sha256 roles payloads lane one)
    (made' : MadeOfGeneration py sha256 roles payloads lane other) (same : one.generationId = other.generationId) :
    Alike one other := by
  obtain ⟨⟨raw, member, manifest, entries, digest, loaded, selected, each, solution, project, profile, fingerprint,
    coverage⟩, here, records⟩ := made
  obtain ⟨⟨raw', member', manifest', entries', digest', loaded', selected', each', solution', project', profile',
    fingerprint', coverage'⟩, here', records'⟩ := made'
  obtain rfl := free raw member raw' member' (digest.trans (same.trans digest'.symm))
  rw [← same] at loaded'
  obtain rfl := Except.ok.inj (loaded.symm.trans loaded')
  obtain rfl := Except.ok.inj (selected.symm.trans selected')
  have shards := shards_unique free each each'
  exact ⟨solution.trans solution'.symm, project.trans project'.symm, here.trans here'.symm, same,
    profile.trans profile'.symm, fingerprint.trans fingerprint'.symm, coverage.trans coverage'.symm,
    by rw [records, records', shards], shards⟩

end Generations

end AxiomMcp.Snapshot
