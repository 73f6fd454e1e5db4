/-
**A handler over a store that nobody changes.**

The files stay as they are during a call, the guards are free, and a retaining source replies what it holds. The
control plane, the installation and the clock may answer anything. What a source loads is then described by the
store.

* `Store`: the files and what is retained, and `storeMachine`, the replies they permit;
* `load_ends`: a session ends with what it copies and verifies;
* `SourceStored`, `sourceLoadPinned_ends`: **a pinned load returns what is stored or retained, and else fails with
  what is not translated**.
-/

import AxiomMcp.Snapshot.Stored
import AxiomMcp.Tools.Alone
import AxiomMcp.Tools.Source

namespace AxiomMcp.Tools

open Lib Program Machine
open Guard (GuardOp GuardReply GuardProgram SolutionGuard)
open Snapshot (Files LoadedSnapshot Manifest ReadOp ReadReply ReadProgram FileProgram Shard SnapshotLocation onGuard
  onFiles)

/-! ### A free guard -/

/-- What a free guard replies. -/
def replyAlone (guard : SolutionGuard) (op : GuardOp) : GuardReply op :=
  Guard.surroundings (fun _ => none) [] guard op

/-- A guard that nobody else holds and none of whose questions fails. -/
def guardAlone : Machine GuardOp GuardReply SolutionGuard where
  permits guard op reply := reply = replyAlone guard op
  after := Guard.after

/-- A guard inside its reader context. -/
def enteredGuard : SolutionGuard where
  held := [⟨"data.lock", .shared, 1⟩]
  closed := false
  handles := [⟨"admission.lock", none, false, false, none⟩, ⟨"data.lock", some .shared, true, false, none⟩]

/-- The same guard after it. -/
def releasedGuard : SolutionGuard where
  held := []
  closed := false
  handles := [⟨"admission.lock", none, false, false, none⟩, ⟨"data.lock", none, false, false, none⟩]

/-- The one end of a part of the engine. -/
theorem guardAlone_ends {α : Type} {p : GuardProgram α} {guard after : SolutionGuard} {outcome : Except Raised α}
    (ends : guardAlone.Ends p guard outcome after) : guardAlone.play replyAlone p guard = some (outcome, after) :=
  ends.played fun _ _ _ permitted => permitted

/-- A reader gets in, unless its waits are not unrolled at all. -/
theorem enter_alone {py : Interpreter} {settings : Guard.Settings} (plain : settings.cancellable = false)
    {rounds : ℕ} {outcome : Except Raised Unit} {after : SolutionGuard}
    (ends : guardAlone.Ends (Guard.enter py settings rounds Guard.readerSpecs Guard.readerEarly 1) .initial outcome
      after) : outcome = .ok () ∧ after = enteredGuard := by
  obtain ⟨directory, timeoutMs, cancellable, bounded⟩ := settings
  obtain rfl : cancellable = false := plain
  have played := guardAlone_ends ends
  cases rounds with
  | zero => cases played
  | succ rounds =>
    have entering : guardAlone.play replyAlone (Guard.enter py ⟨directory, timeoutMs, false, bounded⟩ (rounds + 1)
        Guard.readerSpecs Guard.readerEarly 1) .initial = some (.ok (), enteredGuard) := rfl
    obtain ⟨rfl, rfl⟩ := Prod.mk.inj (Option.some.inj (entering.symm.trans played))
    exact ⟨rfl, rfl⟩

theorem release_alone {outcome : Except Raised Unit} {after : SolutionGuard}
    (ends : guardAlone.Ends Guard.releaseAll enteredGuard outcome after) :
    outcome = .ok () ∧ after = releasedGuard := by
  have leaving : guardAlone.play replyAlone Guard.releaseAll enteredGuard = some (.ok (), releasedGuard) := rfl
  obtain ⟨rfl, rfl⟩ := Prod.mk.inj (Option.some.inj (leaving.symm.trans (guardAlone_ends ends)))
  exact ⟨rfl, rfl⟩

theorem close_alone {outcome : Except Raised Unit} {after : SolutionGuard}
    (ends : guardAlone.Ends Guard.close releasedGuard outcome after) : outcome = .ok () := by
  have closing : guardAlone.play replyAlone Guard.close releasedGuard =
      some (.ok (), { releasedGuard with closed := true }) := rfl
  exact (Prod.mk.inj (Option.some.inj (closing.symm.trans (guardAlone_ends ends)))).1.symm

theorem makeDirectory_alone {outcome : Except Raised Unit} {guard after : SolutionGuard}
    (ends : guardAlone.Ends Guard.makeDirectory guard outcome after) : outcome = .ok () ∧ after = guard := by
  have making : guardAlone.play replyAlone Guard.makeDirectory guard = some (.ok (), guard) := rfl
  obtain ⟨rfl, rfl⟩ := Prod.mk.inj (Option.some.inj (making.symm.trans (guardAlone_ends ends)))
  exact ⟨rfl, rfl⟩

/-! ### A store -/

/-- The files of a store, and what a retaining source replies for a key. -/
structure Store where
  files : Files
  kept : RetentionKey → Option LoadedSnapshot
  lenient : files.Lenient
  formed : ∀ key snapshot, kept key = some snapshot → ∀ shard ∈ snapshot.shards, shard.document.WellFormed

/-- The replies to a read session. -/
def readsMachine (files : Files) : Machine ReadOp ReadReply SolutionGuard where
  permits guard op reply :=
    match op, reply with
    | .guard op, reply => reply = replyAlone guard op
    | .file op, reply => reply = files.reply op
    | .clock, _ => True
  after guard op reply :=
    match op, reply with
    | .guard op, reply => Guard.after guard op reply
    | _, _ => guard

/-- The replies to a handler. -/
def storeMachine (store : Store) : Machine ToolOp ToolReply SolutionGuard where
  permits guard op reply :=
    match op, reply with
    | .read op, reply => (readsMachine store.files).permits guard op reply
    | .retained key, reply => reply = store.kept key
    | _, _ => True
  after := toolMachine.after

section Reads

variable {files : Files} {guard after : SolutionGuard}

theorem part_guard : Part guardAlone (readsMachine files) id ReadOp.guard fun _ reply => reply where
  permits _ _ _ permitted := permitted
  after _ _ _ := rfl

theorem part_steady : Part (steady files.reply) (readsMachine files) (fun _ => ()) ReadOp.file
    fun _ reply => reply where
  permits _ _ _ permitted := permitted
  after _ _ _ := rfl

/-- A part of the engine ends as it does with a free guard. -/
theorem onGuard_ends {α : Type} {p : GuardProgram α} {outcome : Except Raised α}
    (ends : (readsMachine files).Ends (onGuard p) guard outcome after) : guardAlone.Ends p guard outcome after :=
  ends_embed part_guard ends

/-- What asks the files only comes to its one end. -/
theorem onFiles_ends {α : Type} {p : FileProgram α} {outcome : Except Raised α}
    (ends : (readsMachine files).Ends (onFiles p) guard outcome after) :
    p.against files.reply = some outcome ∧ after = guard := by
  refine ⟨against_of_ends (ends_embed part_steady ends), ?_⟩
  have asks : (onFiles p).Only fun op => ∃ asked, op = ReadOp.file asked := only_embed p fun asked => ⟨asked, rfl⟩
  have kept : id after = id guard := by
    refine ends.keeps asks ?_
    rintro guard _ reply ⟨asked, rfl⟩ _
    rfl
  exact kept

theorem heldNames_ends {outcome : Except Raised (List Text)}
    (ends : (readsMachine files).Ends Snapshot.heldNames guard outcome after) :
    outcome = .ok (guard.held.map Guard.HeldLock.name) ∧ after = guard := by
  obtain ⟨reply, rfl, ended⟩ := ends
  exact ended

/-- A block inside the reader context of a free guard. -/
theorem ordered_ends {α : Type} {py : Interpreter} {settings : Guard.Settings}
    (plain : settings.cancellable = false)
    {rounds : ℕ} {block : ReadProgram α} {outcome : Except Raised α}
    (stays : ∀ ended between, (readsMachine files).Ends block enteredGuard ended between → between = enteredGuard)
    (ends : (readsMachine files).Ends
      (Guard.ordered py settings rounds onGuard Guard.readerSpecs Guard.readerEarly 1
      block) .initial outcome after) :
    (readsMachine files).Ends block enteredGuard outcome enteredGuard ∧ after = releasedGuard := by
  obtain ⟨entered, between, enters, rest⟩ := ends_resume.mp ends
  obtain ⟨rfl, rfl⟩ := enter_alone plain (onGuard_ends enters)
  obtain ⟨ended, inner, blocked, rest⟩ := ends_resume.mp rest
  obtain rfl := stays ended inner blocked
  obtain ⟨closing, last, releases, rest⟩ := ends_resume.mp rest
  obtain ⟨rfl, rfl⟩ := release_alone (onGuard_ends releases)
  obtain ⟨rfl, rfl⟩ := ends_ofExcept.mp rest
  exact ⟨blocked, rfl⟩

/-- The ends of a load: those of what its session copies and verifies. -/
theorem load_ends {session : Snapshot.ReadSession} (plain : session.guard.cancellable = false)
    (once : session.attempts = 1) {rounds : ℕ} {outcome : Except Raised LoadedSnapshot}
    (ends : (readsMachine files).Ends (session.load rounds) .initial outcome after) :
    after = releasedGuard ∧
      ((∃ raised, (Snapshot.pinnedShards session).against files.reply = some (.error raised) ∧
          outcome = .error raised) ∨
        ∃ copied shards started ended, session.copyGeneration.against files.reply = some (.ok copied) ∧
          (Snapshot.pinnedShards session).against files.reply = some (.ok (copied.manifest, shards)) ∧
          outcome = .ok (session.snapshotOf copied shards started ended)) := by
  obtain ⟨_, _, ⟨started, _, rfl, rfl⟩, ends⟩ := ends_resume.mp ends
  rw [once] at ends
  obtain ⟨copying, between, copies, rest⟩ := ends_resume.mp ends
  have copied : session.copyGeneration.against files.reply = some copying ∧ between = releasedGuard := by
    have inside {ended : Except Raised Snapshot.CopiedGeneration} {final : SolutionGuard}
        (block : (readsMachine files).Ends session.copyGuarded enteredGuard ended final) :
        session.copyGeneration.against files.reply = some ended ∧ final = enteredGuard := by
      obtain ⟨held, _, names, block⟩ := ends_resume.mp block
      obtain ⟨rfl, rfl⟩ := heldNames_ends names
      exact onFiles_ends block
    obtain ⟨block, rfl⟩ := ordered_ends plain (fun _ _ block => (inside block).2) copies
    exact ⟨(inside block).1, rfl⟩
  obtain ⟨copied, rfl⟩ := copied
  have shared := against_bind copied fun copied => Program.ofExcept
    (Snapshot.verifyCopied session.interpreter session.sha256 copied.manifest copied.shards) >>= fun shards =>
      (.done (copied.manifest, shards) : FileProgram (Manifest × List Shard))
  cases copying with
  | error raised =>
    obtain ⟨rfl, rfl⟩ := rest
    exact ⟨rfl, .inl ⟨raised, shared, rfl⟩⟩
  | ok copied' =>
    obtain ⟨held, _, names, rest⟩ := ends_resume.mp rest
    obtain ⟨rfl, rfl⟩ := heldNames_ends names
    obtain ⟨verifying, _, verifies, rest⟩ := ends_resume.mp rest
    obtain ⟨rfl, rfl⟩ := ends_ofExcept.mp verifies
    have verified {x : Except Raised (List Shard)} (same : Snapshot.verifyCopied session.interpreter session.sha256
        copied'.manifest copied'.shards = x) : (Snapshot.pinnedShards session).against files.reply =
          (andThen (fun shards =>
            (.done (copied'.manifest, shards) : FileProgram (Manifest × List Shard))) x).against
            files.reply := by
      subst same
      exact shared.trans (against_bind (against_ofExcept _) _)
    cases checked : Snapshot.verifyCopied session.interpreter session.sha256 copied'.manifest copied'.shards with
    | error raised =>
      rw [checked] at rest
      obtain ⟨rfl, rfl⟩ := rest
      exact ⟨rfl, .inl ⟨raised, verified checked, rfl⟩⟩
    | ok shards =>
      rw [checked] at rest
      obtain ⟨_, _, ⟨ended, _, rfl, rfl⟩, rest⟩ := ends_resume.mp rest
      obtain ⟨rfl, rfl⟩ := rest
      exact ⟨rfl, .inr ⟨copied', shards, started, ended, copied, verified checked, rfl⟩⟩

end Reads

section Handler

variable {store : Store} {guard after : SolutionGuard}

theorem part_reads : Part (readsMachine store.files) (storeMachine store) id ToolOp.read fun _ reply => reply where
  permits _ _ _ permitted := permitted
  after _ op _ := by cases op <;> rfl

/-- A part of a read session ends as it does on its own. -/
theorem reading_ends {α : Type} {p : ReadProgram α} {outcome : Except ToolError α}
    (ends : (storeMachine store).Ends (reading p) guard outcome after) :
    ∃ ended, (readsMachine store.files).Ends p guard ended after ∧ outcome = ended.mapError .snapshot := by
  obtain ⟨ended, between, embedded, rest⟩ := ends_resume.mp ends
  obtain ⟨rfl, rfl⟩ := ends_ofExcept.mp rest
  exact ⟨ended, ends_embed part_reads embedded, rfl⟩

/-- What asks the files only comes to its one end, in a handler as well. -/
theorem readingFiles_ends {α : Type} {p : FileProgram α} {outcome : Except ToolError α}
    (ends : (storeMachine store).Ends (readingFiles p) guard outcome after) :
    ∃ ended, p.against store.files.reply = some ended ∧ outcome = ended.mapError .snapshot := by
  obtain ⟨ended, asked, same⟩ := reading_ends ends
  exact ⟨ended, (onFiles_ends asked).1, same⟩

/-- A block that leaves its guard free ends as it does on its own. -/
theorem withGuard_ends {α : Type} {directory : Snapshot.Path} {block : ReadProgram α} {outcome : Except ToolError α}
    (frees : ∀ ended final, (readsMachine store.files).Ends block .initial ended final → final = releasedGuard)
    (ends : (storeMachine store).Ends (withGuard directory block) guard outcome after) :
    ∃ ended, (readsMachine store.files).Ends block .initial ended releasedGuard ∧
      outcome = ended.mapError .snapshot := by
  obtain ⟨_, _, ends⟩ := ends
  obtain ⟨ended, read, rfl⟩ := reading_ends ends
  obtain ⟨making, between, makes, rest⟩ := ends_resume.mp read
  obtain ⟨rfl, rfl⟩ := makeDirectory_alone (onGuard_ends makes)
  obtain ⟨inner, final, blocked, rest⟩ := ends_resume.mp rest
  obtain rfl := frees inner final blocked
  obtain ⟨closing, last, closes, rest⟩ := ends_resume.mp rest
  obtain rfl := close_alone (onGuard_ends closes)
  obtain ⟨rfl, rfl⟩ := ends_ofExcept.mp rest
  exact ⟨_, blocked, rfl⟩

variable {Time : Type} {context : ToolContext Time}

theorem asReader_ends {α : Type} {directory : Snapshot.Path} {body : FileProgram α} {files : Files}
    {outcome : Except Raised α}
    (ends : (readsMachine files).Ends (asReader context directory body) .initial outcome after) :
    body.against files.reply = some outcome ∧ after = releasedGuard := by
  have plain : (guardSettings directory).cancellable = false := rfl
  obtain ⟨block, rfl⟩ := ordered_ends plain (fun _ _ block => (onFiles_ends block).2) ends
  exact ⟨(onFiles_ends block).1, rfl⟩

end Handler

/-! ### Stored members -/

/-- What a query reads of a loaded generation. -/
@[ext] structure StoredMember where
  projectId : Text
  generationId : Text
  shards : List Shard

/-- What a query reads of a snapshot. -/
def viewOf (snapshot : LoadedSnapshot) : StoredMember :=
  ⟨snapshot.projectId, snapshot.generationId, snapshot.shards⟩

section Members

variable {Time : Type} (context : ToolContext Time) (store : Store) (location : SnapshotLocation)
  (generationId : Text)

/-- A generation that a guarded source loads. -/
def MemberStored (stored : StoredMember) : Prop :=
  ∃ manifest, Snapshot.GenerationStored context.interpreter context.sha256 store.files location
    generationId manifest stored.shards ∧ stored.projectId = manifest.projectId ∧ stored.generationId = generationId

/-- The manifest that a retaining source reads of a selected generation. -/
def SelectedStored (manifest : Manifest) : Prop :=
  ∃ bytes, store.files.contents ((location.generationsRoot.child generationId).child Snapshot.manifestFilename) =
      .ok bytes ∧
    Snapshot.loadManifestBytes context.interpreter (bytes.take (4 * 1024 * 1024 + 1)) Snapshot.manifestFilename =
      .ok manifest ∧
    manifest.generationId context.sha256 = generationId ∧ manifest.solutionId = location.solutionId ∧
      manifest.projectId = location.projectId

/-- The key of a selected generation: its root and the directory of its guard resolve. -/
def KeyStored (directory : Snapshot.Path) (manifest : Manifest) (key : RetentionKey) : Prop :=
  ∃ root guardDir, store.files.resolve location.root = .ok root ∧ store.files.resolve directory = .ok guardDir ∧
    key = {
      root := root.text
      guardDir := guardDir.text
      solutionId := location.solutionId
      projectId := location.projectId
      lane := location.lane
      schemaMajor := Snapshot.supportedSchemaMajor
      analysisProfile := manifest.analysisProfile
      generationId }

/-- A generation that is retained under a key, or else stored. -/
def Retained (key : RetentionKey) (stored : StoredMember) : Prop :=
  (∃ snapshot, store.kept key = some snapshot ∧ stored = viewOf snapshot) ∨
    store.kept key = none ∧ MemberStored context store location generationId stored

/-- A generation that a source loads: stored, or selected and retained. -/
def SourceStored (directory : Snapshot.Path) (stored : StoredMember) : Prop :=
  if context.retaining then
    ∃ manifest key, SelectedStored context store location generationId manifest ∧
      KeyStored store location generationId directory manifest key ∧
        Retained context store location generationId key stored
  else MemberStored context store location generationId stored

end Members

/-! ### Loads -/

section Loads

variable {Time : Type} {context : ToolContext Time} {store : Store} {location : SnapshotLocation}
  {generationId : Text} {directory : Snapshot.Path} {guard after : SolutionGuard}

theorem decides_guarded (digest : Query.isSha256 generationId = true) :
    Decides store.files.reply (Snapshot.pinnedShards (sessionOf context directory location (some generationId)))
      (fun found => Snapshot.GenerationStored context.interpreter context.sha256 store.files location generationId
        found.1 found.2) Snapshot.Foreign :=
  Snapshot.decides_pinnedShards store.lenient ⟨rfl, rfl, rfl⟩ digest

/-- A guarded load returns what is stored, and else fails with what is not translated. -/
theorem guardedLoad_ends (digest : Query.isSha256 generationId = true) {outcome : Except ToolError LoadedSnapshot}
    (ends : (storeMachine store).Ends (guardedLoad context directory location (some generationId)) guard outcome
      after) :
    (∃ snapshot, outcome = .ok snapshot ∧ MemberStored context store location generationId (viewOf snapshot)) ∨
      ∃ raised, outcome = .error (.snapshot raised) ∧ Snapshot.Foreign raised ∧
        ∀ stored, ¬ MemberStored context store location generationId stored := by
  have plain : (sessionOf context directory location (some generationId)).guard.cancellable = false := rfl
  obtain ⟨ended, loads, rfl⟩ := withGuard_ends (fun _ _ block => (load_ends plain rfl block).1) ends
  have decides : Decides store.files.reply
      (Snapshot.pinnedShards (sessionOf context directory location (some generationId))) _ _ :=
        decides_guarded digest
  rcases (load_ends plain rfl loads).2 with ⟨raised, failed, rfl⟩ |
    ⟨copied, shards, started, stopped, copies, found, rfl⟩
  · refine .inr ⟨raised, rfl, decides.raised _ failed, ?_⟩
    rintro stored ⟨manifest, here, _⟩
    exact decides.none_returned failed (manifest, stored.shards) here
  · obtain ⟨raw, manifest, copying, stored, rfl⟩ := ((Snapshot.decides_copyGeneration store.lenient
      ⟨rfl, rfl, rfl⟩ digest).returned copied).mp copies
    exact .inl ⟨_, rfl, manifest, (decides.returned _).mp found, rfl, stored.digest⟩

theorem checkSelected_ok {manifest : Manifest} :
    checkSelected context location generationId manifest = .ok () ↔
      manifest.generationId context.sha256 = generationId ∧ manifest.solutionId = location.solutionId ∧
        manifest.projectId = location.projectId := by
  unfold checkSelected
  rw [guarded_ok, and_iff_left rfl, not_or, not_or, not_not, not_not, not_not]

/-- The manifest of a selected generation is read exactly where it is stored. -/
theorem decides_selectedManifest (digest : Query.isSha256 generationId = true) :
    Decides store.files.reply (selectedManifest context location generationId)
      (SelectedStored context store location generationId) Snapshot.Foreign := by
  have checked (manifest : Manifest) :
      Raises Snapshot.Foreign (checkSelected context location generationId manifest) := by
    unfold checkSelected
    split
    · exact .error trivial
    · exact .ok _
  have read (path : Snapshot.Path) : Decides store.files.reply
      (.call (.read path (4 * 1024 * 1024)) Program.ofExcept : FileProgram Bytes)
      (fun raw => ∃ bytes, store.files.contents path = .ok bytes ∧ bytes.take (4 * 1024 * 1024 + 1) = raw)
      Snapshot.Foreign := by
    refine decides_call ((decides_ofExcept (Snapshot.raises_readBounded _ _)).congr fun raw => ?_)
    unfold Snapshot.Files.readBounded
    cases store.files.contents path with
    | error fault => exact iff_of_false (fun wrong => nomatch wrong) fun ⟨_, wrong, _⟩ => nomatch wrong
    | ok bytes =>
      constructor
      · exact fun same => ⟨bytes, rfl, Except.ok.inj same⟩
      · rintro ⟨_, same, rfl⟩
        rw [Except.ok.inj same]
  unfold selectedManifest
  rw [Snapshot.generationRoot_ok digest]
  refine ((read _).bind fun raw _ =>
    (decides_ofExcept ((Snapshot.raises_loadManifestBytes raw _).mono fun _ => Snapshot.OfDocument.foreign)).bind
      fun manifest _ => (decides_ofExcept (checked manifest)).bind fun _ _ =>
        decides_done manifest).congr fun manifest => ?_
  constructor
  · rintro ⟨_, ⟨bytes, held, rfl⟩, _, loaded, _, passed, rfl⟩
    exact ⟨bytes, held, loaded, checkSelected_ok.mp passed⟩
  · rintro ⟨bytes, held, loaded, passed⟩
    exact ⟨_, ⟨bytes, held, rfl⟩, manifest, loaded, (), checkSelected_ok.mpr passed, rfl⟩

/-- The key of a selected generation. -/
theorem decides_retentionKey {manifest : Manifest} :
    Decides store.files.reply (retentionKey directory location manifest generationId)
      (KeyStored store location generationId directory manifest) Snapshot.Foreign := by
  refine ((Snapshot.decides_resolvePath fun _ fails => store.lenient.resolve _ _ fails).bind fun root _ =>
    (Snapshot.decides_resolvePath fun _ fails => store.lenient.resolve _ _ fails).bind fun guardDir _ =>
      decides_done _).congr fun key => ?_
  constructor
  · rintro ⟨root, resolved, guardDir, guarded, rfl⟩
    exact ⟨root, guardDir, resolved, guarded, rfl⟩
  · rintro ⟨root, guardDir, resolved, guarded, rfl⟩
    exact ⟨root, resolved, guardDir, guarded, rfl⟩

/-- A load behind a retention key returns what is retained, or else stored. -/
theorem retainedLoad_ends (digest : Query.isSha256 generationId = true) {key : RetentionKey}
    {outcome : Except ToolError LoadedSnapshot}
    (ends : (storeMachine store).Ends (retainedLoad context directory location generationId key) guard outcome
      after) :
    (∃ snapshot, outcome = .ok snapshot ∧ Retained context store location generationId key (viewOf snapshot)) ∨
      ∃ raised, outcome = .error (.snapshot raised) ∧ Snapshot.Foreign raised ∧
        ∀ stored, ¬ Retained context store location generationId key stored := by
  obtain ⟨cached, kept, rest⟩ := ends
  obtain rfl : cached = store.kept key := kept
  cases held : store.kept key with
  | some snapshot =>
    rw [held] at rest
    obtain ⟨rfl, rfl⟩ := rest
    exact .inl ⟨snapshot, rfl, .inl ⟨snapshot, held, rfl⟩⟩
  | none =>
    rw [held] at rest
    obtain ⟨loading, final, loads, rest⟩ := ends_resume.mp rest
    rcases guardedLoad_ends digest loads with ⟨snapshot, rfl, stored⟩ | ⟨raised, rfl, foreign, missing⟩
    · obtain ⟨_, _, rfl, rfl⟩ := rest
      exact .inl ⟨snapshot, rfl, .inr ⟨held, stored⟩⟩
    · obtain ⟨rfl, rfl⟩ := rest
      refine .inr ⟨raised, rfl, foreign, ?_⟩
      rintro stored (⟨_, wrong, _⟩ | ⟨_, stored'⟩)
      · cases held.symm.trans wrong
      · exact missing _ stored'

/-- **A pinned load returns what is stored or retained, and else fails with what is not translated.** -/
theorem sourceLoadPinned_ends (digest : Query.isSha256 generationId = true)
    (sourced : sourceDirectory context location = .ok directory) {outcome : Except ToolError LoadedSnapshot}
    (ends : (storeMachine store).Ends (sourceLoadPinned context location generationId) guard outcome after) :
    (∃ snapshot, outcome = .ok snapshot ∧
        SourceStored context store location generationId directory (viewOf snapshot)) ∨
      ∃ raised, outcome = .error (.snapshot raised) ∧ Snapshot.Foreign raised ∧
        ∀ stored, ¬ SourceStored context store location generationId directory stored := by
  unfold sourceLoadPinned at ends
  rw [sourced] at ends
  change (storeMachine store).Ends (if context.retaining then _ else _) guard outcome after at ends
  unfold SourceStored
  by_cases retaining : context.retaining = true
  · rw [if_pos retaining] at ends
    simp only [if_pos retaining]
    obtain ⟨selecting, between, selects, rest⟩ := ends_resume.mp ends
    obtain ⟨selecting, read, rfl⟩ := withGuard_ends (fun _ _ block => (asReader_ends block).2) selects
    have selected := (asReader_ends read).1
    have selection : Decides store.files.reply (selectedManifest context location generationId) _ _ :=
      decides_selectedManifest digest
    cases selecting with
    | error raised =>
      obtain ⟨rfl, rfl⟩ := rest
      refine .inr ⟨raised, rfl, selection.raised _ selected, ?_⟩
      rintro stored ⟨manifest, key, here, _⟩
      exact selection.none_returned selected manifest here
    | ok manifest =>
      have here := (selection.returned manifest).mp selected
      obtain ⟨keying, between, keys, rest⟩ := ends_resume.mp rest
      obtain ⟨keying, keyed, rfl⟩ := readingFiles_ends keys
      have naming : Decides store.files.reply (retentionKey directory location manifest generationId) _ _ :=
        decides_retentionKey
      cases keying with
      | error raised =>
        obtain ⟨rfl, rfl⟩ := rest
        refine .inr ⟨raised, rfl, naming.raised _ keyed, ?_⟩
        rintro stored ⟨other, key, there, named, _⟩
        obtain rfl := selection.unique here there
        exact naming.none_returned keyed key named
      | ok key =>
        have named := (naming.returned key).mp keyed
        rcases retainedLoad_ends digest rest with ⟨snapshot, rfl, holds⟩ | ⟨raised, rfl, foreign, missing⟩
        · exact .inl ⟨snapshot, rfl, manifest, key, here, named, holds⟩
        · refine .inr ⟨raised, rfl, foreign, ?_⟩
          rintro stored ⟨other, key', there, named', holds⟩
          obtain rfl := selection.unique here there
          obtain rfl := naming.unique named named'
          exact missing stored holds
  · rw [if_neg retaining] at ends
    simp only [if_neg retaining]
    exact guardedLoad_ends digest ends

theorem MemberStored.unique (digest : Query.isSha256 generationId = true) {stored stored' : StoredMember}
    (one : MemberStored context store location generationId stored)
    (other : MemberStored context store location generationId stored') : stored = stored' := by
  obtain ⟨manifest, holds, project, generation⟩ := one
  obtain ⟨manifest', holds', project', generation'⟩ := other
  have decides : Decides store.files.reply
      (Snapshot.pinnedShards (sessionOf context ⟨[], .root⟩ location (some generationId))) _ _ :=
        decides_guarded digest
  have same : (manifest, stored.shards) = (manifest', stored'.shards) := decides.unique holds holds'
  obtain ⟨rfl, shards⟩ := Prod.mk.inj same
  exact StoredMember.ext (project.trans project'.symm) (generation.trans generation'.symm) shards

/-- One value is stored at most. -/
theorem SourceStored.unique (digest : Query.isSha256 generationId = true) {stored stored' : StoredMember}
    (one : SourceStored context store location generationId directory stored)
    (other : SourceStored context store location generationId directory stored') : stored = stored' := by
  unfold SourceStored at one other
  split at one
  · next retaining =>
    rw [if_pos retaining] at other
    obtain ⟨manifest, key, selected, named, one⟩ := one
    obtain ⟨manifest', key', selected', named', other⟩ := other
    obtain rfl := (decides_selectedManifest digest).unique selected selected'
    obtain rfl := decides_retentionKey.unique named named'
    rcases one with ⟨snapshot, held, rfl⟩ | ⟨none, one⟩
    · rcases other with ⟨snapshot', held', rfl⟩ | ⟨none, _⟩
      · rw [Option.some.inj (held.symm.trans held')]
      · cases held.symm.trans none
    · rcases other with ⟨snapshot', held', _⟩ | ⟨_, other⟩
      · cases none.symm.trans held'
      · exact one.unique digest other
  · next plain =>
    rw [if_neg plain] at other
    exact one.unique digest other

/-- The shards of what is stored have each key once. -/
theorem SourceStored.formed {stored : StoredMember}
    (holds : SourceStored context store location generationId directory stored) :
    ∀ shard ∈ stored.shards, shard.document.WellFormed := by
  have guarded (holds : MemberStored context store location generationId stored) :
      ∀ shard ∈ stored.shards, shard.document.WellFormed := by
    obtain ⟨manifest, generation, _⟩ := holds
    intro shard member
    obtain ⟨entry, _, stored⟩ := forall₂_right generation.shards member
    exact stored.formed
  unfold SourceStored at holds
  split at holds
  · obtain ⟨manifest, key, _, _, ⟨snapshot, kept, rfl⟩ | ⟨_, holds⟩⟩ := holds
    · exact store.formed key snapshot kept
    · exact guarded holds
  · exact guarded holds

end Loads

end AxiomMcp.Tools
