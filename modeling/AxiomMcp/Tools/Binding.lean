/-
**Snapshots and the location they were asked from.**

A location is named by a solution and a project, and so is the manifest that is found in its directories. Only
a source that retains generations compares the two.

* `ManifestNames`: the first manifest that some calls have read names a location;
* `load_bound_iff`: a source without retention returns a snapshot of its location **exactly if the first
  manifest that it has read names the location**;
* `guardedManifest_ok`: what a retaining source selects is of the location;
* `pinMember_bound_iff`: the pin of a catalog member that is available is of its location exactly if the
  manifest that was read there names it.
-/

import AxiomMcp.Snapshot.Pins
import AxiomMcp.Tools.Alone
import AxiomMcp.Tools.Cancel
import AxiomMcp.Tools.Source

namespace AxiomMcp.Tools

open Lib Program
open Snapshot (CatalogMember FileOp FileReply LoadedSnapshot Manifest MemberPin PinStatus
  ReadsManifest SnapshotLocation firstRead loadManifestBytes loadManifestBytes_ok manifestFilename
  pinMember projectMemberOpener)

/-! ### Names -/

/-- A solution and a project are those of a location. -/
def IsOf (location : SnapshotLocation) (solutionId projectId : Text) : Prop :=
  solutionId = location.solutionId ∧ projectId = location.projectId

/-- A snapshot carries the ids of a location. -/
def BoundTo (location : SnapshotLocation) (snapshot : LoadedSnapshot) : Prop :=
  IsOf location snapshot.solutionId snapshot.projectId

/-- A manifest names a location. -/
def Names (location : SnapshotLocation) (manifest : Manifest) : Prop :=
  IsOf location manifest.solutionId manifest.projectId

/-- The first manifest that some calls have read names a location. -/
def ManifestNames (py : Interpreter) (location : SnapshotLocation) (calls : List (Call FileOp FileReply)) : Prop :=
  ∃ raw label manifest, firstRead manifestFilename calls = some raw ∧
    loadManifestBytes py raw label = .ok manifest ∧ Names location manifest

/-- The names in a manifest are those in its bytes. -/
theorem manifest_ids_eq {py : Interpreter} {raw : Bytes} {label label' : Text} {manifest manifest' : Manifest}
    (loaded : loadManifestBytes py raw label = .ok manifest)
    (loaded' : loadManifestBytes py raw label' = .ok manifest') :
    manifest.solutionId = manifest'.solutionId ∧ manifest.projectId = manifest'.projectId := by
  obtain ⟨document, canonical, _, solution, project, _⟩ := loadManifestBytes_ok loaded
  obtain ⟨document', canonical', _, solution', project', _⟩ := loadManifestBytes_ok loaded'
  obtain rfl : document = document' :=
    Json.obj.inj (Except.ok.inj ((canonical.parsed []).symm.trans (canonical'.parsed [])))
  exact ⟨Json.str.inj (Option.some.inj (solution.symm.trans solution')),
    Json.str.inj (Option.some.inj (project.symm.trans project'))⟩

/-- What repeats the ids of the first manifest is of the location exactly if that names it. -/
theorem isOf_iff_manifestNames {py : Interpreter} {location : SnapshotLocation}
    {calls : List (Call FileOp FileReply)}
    {manifest : Manifest} {solutionId projectId : Text}
    (first : ∃ raw label, firstRead manifestFilename calls = some raw ∧
      loadManifestBytes py raw label = .ok manifest)
    (solution : solutionId = manifest.solutionId) (project : projectId = manifest.projectId) :
    IsOf location solutionId projectId ↔ ManifestNames py location calls := by
  obtain ⟨raw, label, read, loaded⟩ := first
  constructor
  · intro named
    exact ⟨raw, label, manifest, read, loaded, solution ▸ named.1, project ▸ named.2⟩
  · rintro ⟨raw', label', other, read', loaded', named⟩
    obtain rfl := Option.some.inj (read.symm.trans read')
    obtain ⟨solutions, projects⟩ := manifest_ids_eq loaded loaded'
    exact ⟨solution.trans (solutions.trans named.1), project.trans (projects.trans named.2)⟩

/-- What the calls of a handler have read through a source. -/
def payloadsRead (calls : List (Call ToolOp ToolReply)) : List Bytes :=
  (fileCallsOf calls).flatMap fun call => call.op.payload call.reply

theorem payloadsRead_append (one other : List (Call ToolOp ToolReply)) :
    payloadsRead (one ++ other) = payloadsRead one ++ payloadsRead other := by
  unfold payloadsRead
  rw [fileCallsOf_append, List.flatMap_append]

theorem payloadsRead_subset {calls more : List (Call ToolOp ToolReply)}
    (kept : fileCallsOf calls ⊆ fileCallsOf more) : payloadsRead calls ⊆ payloadsRead more := by
  intro payload member
  obtain ⟨call, here, read⟩ := List.mem_flatMap.mp member
  exact List.mem_flatMap.mpr ⟨call, kept here, read⟩

section Loads

variable {Time : Type} {context : ToolContext Time} {location : SnapshotLocation} {generationId : Text}
  {calls : List (Call ToolOp ToolReply)} {snapshot : LoadedSnapshot} {manifest : Manifest}

/-! ### Guarded loads -/

/-- A guarded load that is pinned returns that generation. -/
theorem guardedLoad_generation {directory : Snapshot.Path}
    (trace : Trace (guardedLoad context directory location (some generationId)) calls (.ok snapshot)) :
    snapshot.generationId = generationId := by
  obtain ⟨inner, made, _⟩ := guardedLoad_ok trace
  obtain ⟨manifest, pins⟩ := Snapshot.load_pinned made
  exact pins.generation generationId rfl

/-- **A guarded load is bound to its location exactly if the manifest that it has read names the location.** -/
theorem guardedLoad_bound_iff {directory : Snapshot.Path} {pinned : Option Text}
    (trace : Trace (guardedLoad context directory location pinned) calls (.ok snapshot)) :
    BoundTo location snapshot ↔ ManifestNames context.interpreter location (fileCallsOf calls) := by
  obtain ⟨inner, made, same⟩ := guardedLoad_ok trace
  obtain ⟨manifest, pins⟩ := Snapshot.load_pinned made
  rw [← same]
  exact isOf_iff_manifestNames pins.first pins.solutionId pins.projectId

/-! ### Loads with retention -/

/-- The manifest that a retaining source selects is of the location. -/
theorem selectedManifest_ok {inner : List (Call FileOp FileReply)}
    (trace : Trace (selectedManifest context location generationId) inner (.ok manifest)) :
    ReadsManifest context.interpreter context.sha256 location inner generationId manifest ∧
      Names location manifest := by
  rcases trace_ofExcept_bind_iff.mp trace with ⟨_, _, _, wrong⟩ | ⟨directory, rooted, trace⟩
  · cases wrong
  rcases trace_bind_iff.mp trace with ⟨_, _, wrong⟩ | ⟨raw, one, rest, rfl, read, trace⟩
  · cases wrong
  rcases trace_ofExcept_bind_iff.mp trace with ⟨_, _, _, wrong⟩ | ⟨found, loaded, trace⟩
  · cases wrong
  rcases trace_ofExcept_bind_iff.mp trace with ⟨_, _, _, wrong⟩ | ⟨_, checked, trace⟩
  · cases wrong
  obtain ⟨_, same⟩ := trace_done_iff.mp trace
  obtain rfl := Except.ok.inj same
  obtain ⟨reply, none, rfl, given⟩ := trace_call_iff.mp read
  obtain ⟨rfl, rfl⟩ := trace_ofExcept_iff.mp given
  unfold checkSelected at checked
  split at checked
  · cases checked
  · next alike =>
    obtain ⟨digest, solution, project⟩ : manifest.generationId context.sha256 = generationId ∧
        manifest.solutionId = location.solutionId ∧ manifest.projectId = location.projectId := by
      simpa only [not_or, not_not] using alike
    obtain ⟨_, _, _, _, _, _, _, bytes, _⟩ := loadManifestBytes_ok loaded
    refine ⟨⟨directory, _, raw, _, rooted, List.mem_cons_self, ?_, loaded⟩, solution, project⟩
    rw [← digest, Manifest.generationId, bytes]

/-- The same, under the guard of a reader. -/
theorem guardedManifest_ok {directory : Snapshot.Path}
    (trace : Trace (withGuard directory (asReader context directory
      (selectedManifest context location generationId))) calls (.ok manifest)) :
    ReadsManifest context.interpreter context.sha256 location (fileCallsOf calls) generationId manifest ∧
      Names location manifest := by
  obtain ⟨inner, made, kept⟩ := withGuard_ok trace
  rcases trace_bind_iff.mp made with ⟨_, _, wrong⟩ | ⟨_, entering, body, rfl, _, ensured⟩
  · cases wrong
  obtain ⟨one, leaving, rfl, returned, _⟩ := trace_ensure_ok.mp ensured
  obtain ⟨read, named⟩ := selectedManifest_ok (Snapshot.trace_onFiles returned)
  refine ⟨read.mono fun call member => kept ▸ ?_, named⟩
  simp only [Snapshot.fileCalls_append, List.mem_append]
  exact Or.inr (Or.inl member)

end Loads

/-! ### Runs of loads -/

/-- A load that a source is asked for. -/
inductive LoadRequest
  | current (location : SnapshotLocation)
  | pinned (location : SnapshotLocation) (generationId : Text)

/-- The location of a load. -/
def LoadRequest.location : LoadRequest → SnapshotLocation
  | .current location => location
  | .pinned location _ => location

section Runs

variable {Time : Type} (context : ToolContext Time)

/-- The program of a load. -/
def LoadRequest.program : LoadRequest → ToolProgram LoadedSnapshot
  | .current location => sourceLoad context location
  | .pinned location generationId => sourceLoadPinned context location generationId

/-- Loads one after another, with what they were asked and what they returned. -/
inductive LoadRun : List (Call ToolOp ToolReply) → List (LoadRequest × LoadedSnapshot) → Prop
  | start : LoadRun [] []
  | returned {calls more : List (Call ToolOp ToolReply)} {served : List (LoadRequest × LoadedSnapshot)}
      {request : LoadRequest} {snapshot : LoadedSnapshot} (before : LoadRun calls served)
      (trace : Trace (request.program context) more (.ok snapshot)) :
      LoadRun (calls ++ more) (served ++ [(request, snapshot)])
  | raised {calls more : List (Call ToolOp ToolReply)} {served : List (LoadRequest × LoadedSnapshot)}
      {request : LoadRequest} {raised : ToolError} (before : LoadRun calls served)
      (trace : Trace (request.program context) more (.error raised)) : LoadRun (calls ++ more) served

variable {context} {calls : List (Call ToolOp ToolReply)}

/-- **A load without retention is bound exactly if the first manifest that it has read names the location.** -/
theorem load_bound_iff (plain : context.retaining = false) {request : LoadRequest} {snapshot : LoadedSnapshot}
    (trace : Trace (request.program context) calls (.ok snapshot)) :
    BoundTo request.location snapshot ↔
      ManifestNames context.interpreter request.location (fileCallsOf calls) := by
  cases request with
  | pinned location generationId =>
    rcases trace_ofExcept_bind_iff.mp trace with ⟨_, _, _, wrong⟩ | ⟨directory, _, trace⟩
    · cases wrong
    rw [plain] at trace
    exact guardedLoad_bound_iff trace
  | current location =>
    rcases trace_ofExcept_bind_iff.mp trace with ⟨_, _, _, wrong⟩ | ⟨directory, _, trace⟩
    · cases wrong
    rw [plain] at trace
    exact guardedLoad_bound_iff trace

end Runs

/-! ### Members of a catalog -/

section Members

variable {py : Interpreter} {sha256 : Bytes → Text} {locationFor : Text → Except Raised SnapshotLocation}
  {member : CatalogMember} {calls : List (Call FileOp FileReply)}

/-- What an opener that returned has read: one manifest. -/
theorem opener_ok {opened : Manifest × Snapshot.Path}
    (trace : Trace (projectMemberOpener py sha256 locationFor member) calls (.ok opened)) :
    ∃ location, locationFor member.projectId = .ok location ∧
      ∃ raw label, firstRead manifestFilename calls = some raw ∧ loadManifestBytes py raw label = .ok opened.1 := by
  rcases trace_bind_iff.mp trace with ⟨_, _, wrong⟩ | ⟨location, one, rest, rfl, locates, after⟩
  · cases wrong
  rcases trace_rescue_iff.mp locates with ⟨_, located, same⟩ | ⟨raised, _, _, _, _, handled⟩
  swap
  · split at handled <;> cases (trace_raise_iff.mp handled).2
  obtain rfl := Except.ok.inj same
  obtain ⟨rfl, found⟩ := trace_ofExcept_iff.mp located
  rcases trace_ofExcept_bind_iff.mp after with ⟨_, _, _, wrong⟩ | ⟨directory, rooted, after⟩
  · cases wrong
  rcases trace_bind_iff.mp after with ⟨_, _, wrong⟩ | ⟨raw, two, rest, rfl, reads, later⟩
  · cases wrong
  rcases trace_rescue_iff.mp reads with ⟨_, read, same⟩ | ⟨raised, _, _, _, _, handled⟩
  swap
  · split at handled <;> cases (trace_raise_iff.mp handled).2
  obtain rfl := Except.ok.inj same
  obtain ⟨reply, none, rfl, given⟩ := trace_call_iff.mp read
  obtain ⟨rfl, renamed⟩ := trace_ofExcept_iff.mp given
  obtain rfl : reply = .ok raw := mapError_eq_ok.mp renamed.symm
  rcases trace_ofExcept_bind_iff.mp later with ⟨_, _, _, wrong⟩ | ⟨manifest, loaded, later⟩
  · cases wrong
  rcases trace_ofExcept_bind_iff.mp later with ⟨_, _, _, wrong⟩ | ⟨_, checked, later⟩
  · cases wrong
  obtain ⟨rfl, same⟩ := trace_done_iff.mp later
  obtain rfl := Except.ok.inj same
  refine ⟨location, found.symm, raw, _, ?_, loaded⟩
  exact List.findSome?_cons.trans (by rw [Snapshot.bytesOfFile, if_pos (Snapshot.Path.name_child _ _)])

/-- **The pin of an available member is of its location exactly if the manifest that was read there names the
location.** -/
theorem pinMember_bound_iff {pin : MemberPin} (available : pin.available = true)
    (trace : Trace (pinMember (projectMemberOpener py sha256 locationFor) member) calls (.ok pin)) :
    ∃ location, locationFor pin.member.projectId = .ok location ∧
      ((∃ manifest, pin.manifest = some manifest ∧ Names location manifest) ↔ ManifestNames py location calls) := by
  obtain ⟨ended, one, other, rfl, opens, records⟩ := trace_resume_iff.mp trace
  unfold Snapshot.recordPin at records
  split at records
  · next found directory =>
    obtain ⟨rfl, same⟩ := trace_done_iff.mp records
    obtain rfl := Except.ok.inj same
    obtain ⟨location, located, first⟩ := opener_ok opens
    rw [List.append_nil]
    refine ⟨location, located, Iff.trans ?_ (isOf_iff_manifestNames first rfl rfl)⟩
    exact ⟨fun ⟨manifest, pinned, named⟩ => Option.some.inj pinned ▸ named, fun named => ⟨found, rfl, named⟩⟩
  · obtain ⟨rfl, same⟩ := trace_done_iff.mp records
    obtain rfl := Except.ok.inj same
    cases available
  · cases (trace_raise_iff.mp records).2

/-- A pin keeps the member that it is of. -/
theorem pinMember_member {openMember : Snapshot.MemberOpener} {pin : MemberPin}
    (trace : Trace (pinMember openMember member) calls (.ok pin)) : pin.member = member := by
  obtain ⟨ended, one, other, rfl, _, records⟩ := trace_resume_iff.mp trace
  unfold Snapshot.recordPin at records
  split at records
  · rw [Except.ok.inj (trace_done_iff.mp records).2]
  · rw [Except.ok.inj (trace_done_iff.mp records).2]
  · cases (trace_raise_iff.mp records).2

/-- The pins of a loop were made one by one. -/
theorem pinMembers_each {openMember : Snapshot.MemberOpener} {members : List CatalogMember}
    {pins : List MemberPin} (trace : Trace (Snapshot.pinMembers openMember members) calls (.ok pins)) :
    ∀ pin ∈ pins, ∃ inner, inner <:+: calls ∧ Trace (pinMember openMember pin.member) inner (.ok pin) := by
  induction members generalizing calls pins with
  | nil =>
    obtain ⟨_, same⟩ := trace_done_iff.mp trace
    obtain rfl := Except.ok.inj same
    exact fun _ none => nomatch none
  | cons member rest ih =>
    rcases trace_bind_iff.mp trace with ⟨_, _, wrong⟩ | ⟨first, one, others, rfl, pinned, after⟩
    · cases wrong
    rcases trace_bind_iff.mp after with ⟨_, _, wrong⟩ | ⟨later, two, none, rfl, pins', ended⟩
    · cases wrong
    obtain ⟨rfl, same⟩ := trace_done_iff.mp ended
    obtain rfl := Except.ok.inj same
    rw [List.append_nil]
    refine List.forall_mem_cons.mpr ⟨⟨one, (List.prefix_append one two).isInfix, ?_⟩, fun pin inside => ?_⟩
    · rw [pinMember_member pinned]
      exact pinned
    · obtain ⟨inner, among, made⟩ := ih pins' pin inside
      exact ⟨inner, among.trans (List.suffix_append one two).isInfix, made⟩

/-- The pins of a vector were made one by one. -/
theorem pinCatalog_each {catalog : Snapshot.Catalog} {openMember : Snapshot.MemberOpener}
    {vector : Snapshot.CatalogVector}
    (trace : Trace (Snapshot.pinCatalog sha256 catalog openMember) calls (.ok vector)) :
    ∀ pin ∈ vector.pins, ∃ inner, inner <:+: calls ∧ Trace (pinMember openMember pin.member) inner (.ok pin) := by
  rcases trace_bind_iff.mp trace with ⟨_, _, wrong⟩ | ⟨pins, one, none, rfl, pinned, ended⟩
  · cases wrong
  obtain ⟨rfl, same⟩ := trace_done_iff.mp ended
  obtain rfl := Except.ok.inj same
  rw [List.append_nil]
  exact pinMembers_each pinned

end Members

/-! ### A lane of the shop -/

/-- The lane of `core`. -/
def coreLocation : SnapshotLocation := ⟨"shop", "core", Snapshot.liveLane, Snapshot.sampleRoot "core"⟩

/-- A caller of the shop, whose source retains nothing. -/
def shopReader : ToolContext ℕ :=
  { shopContext (shopCaller {Security.capabilityRead} none) with sha256 := Snapshot.sampleSha256 }

end AxiomMcp.Tools
