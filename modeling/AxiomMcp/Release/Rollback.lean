/-
**Rolling back (`release/package.py`).**

`rollback` makes an installed version the active one again, after its artifact and its environment were checked.
Without an explicit version it takes the last one of the history's installs, each at its first, that is not active.

* `resolveRollbackTarget`, `rollback`: the program;
* `Aside`, `Inner`: the operations that are not about the pointer and the history, and those inside of a version;
* `rollback_ok`, `install_ok`: what a run that succeeds leaves of the pointer and the history;
* `Ran`: the installs and rollbacks of an install root that succeeded, one after another;
* `before_iff`: **a default rollback goes back exactly when the newest version is active**;
* `rollback_goes_back`: in a run that keeps to this, no default rollback returns to a version that was rolled back
  from.
-/

import AxiomMcp.Query.Budget
import AxiomMcp.Release.Package

namespace AxiomMcp.Release

open Lib Program Machine

/-! ### The history -/

/-- `_installed_versions(records)` -/
def installedVersions (py : Interpreter) (records : List JsonObject) : List Text :=
  records.foldl (fun ordered record =>
    let name := Json.strField py record "version"
    if Json.strField py record "action" = "install" ∧ name ≠ [] ∧
      name ∉ ordered then ordered ++ [name] else ordered) []

/-- The version the pointer names, or the empty text. -/
def activeVersion (py : Interpreter) (current : Option JsonObject) : Text :=
  current.elim [] fun entries => Json.strField py entries "active"

/-- `resolve_rollback_target(root, to_version, records)` -/
def resolveRollbackTarget (py : Interpreter) (toVersion : Option Text) (records : List JsonObject) :
    PackageProgram Text :=
  match toVersion.filter fun version => version.strip ≠ [] with
  | some version => ofExcept (validateVersion version)
  | none =>
    .call .readCurrent fun reply => do
      let current ← ofExcept reply
      match (installedVersions py records).reverse.find? fun name => name ≠ activeVersion py current with
      | some name => .done name
      | none => .raise (packageRefused "no_previous_version" "no earlier install is recorded in history")

/-! ### Frozen sets -/

/-- `text.partition(marker)`: the part before the marker and the part after it, if it is there. -/
def partition (marker : Text) : Text → Option (Text × Text)
  | [] => if marker = [] then some ([], []) else none
  | c :: rest =>
    if marker.isPrefixOf (c :: rest) then some ([], (c :: rest).drop marker.length)
    else (partition marker rest).map fun parts => (c :: parts.1, parts.2)

/-- `tail.rsplit("/", 1)[-1]` -/
def lastSegment (tail : Text) : Text := ((tail.splitOnP fun c => c = 0x2f).getLast?).getD []

/-- `normalize_frozen(lines)` -/
def normalizeFrozen (lines : List Text) : List Text :=
  lines.map fun line =>
    match partition " @ file://" line.strip with
    | some (head, tail) => Text.format [head, " @ file://", lastSegment tail]
    | none => line.strip

/-- `tuple(str(item) for item in lockfile.get("frozen", ()) or ())` -/
def lockedFrozen (py : Interpreter) (lockfile : JsonObject) : Except Raised (List Text) :=
  match Json.get? lockfile "frozen" with
  | none => .ok []
  | some value =>
    if Query.truthy value then
      match Query.pyList value with
      | .ok items => .ok (items.map (Json.pyStr py))
      | .error _ => .error (.fault (.other "TypeError" []))
    else .ok []

/-- `lockfile.get("artifact") or {}` -/
def lockedArtifact (lockfile : JsonObject) : Except Raised JsonObject :=
  match Json.get? lockfile "artifact" with
  | none => .ok []
  | some value =>
    if Query.truthy value then
      match value with
      | .obj entries => .ok entries
      | _ => .error (.fault (.other "AttributeError" []))
    else .ok []

/-! ### Rolling back -/

/-- The record of a rollback. -/
def rollbackRecord (target : Text) (repairs frozen : List Text) (now : PyFloat) : Json :=
  .obj [("action", .str "rollback"), ("version", .str target), ("restored", .bool true),
    ("repairs", .arr (repairs.map .str)), ("frozen", .arr (frozen.map .str)), ("at", .float now)]

/-- The interpreter of a version, made anew if it is missing. -/
def restoreInterpreter (around : Surroundings) (target : Text) (venv : Path) :
    PackageProgram (Path × List Text) :=
  .call (.interpreterExists target) fun there =>
    if there then .done (venv.child ["bin", "python"], [])
    else do
      let interpreter ← createVenv around target venv none
      .done (interpreter, ["venv_recreated"])

/-- The frozen set of a version, installed anew if it is not the locked one. -/
def restoreFrozen (target : Text) (interpreter staged : Path) (expected : List Text) :
    PackageProgram (List Text × List Text) := do
  let current ← freeze target interpreter
  if normalizeFrozen current ≠ normalizeFrozen expected then do
    installArtifact target interpreter staged true
    let current ← freeze target interpreter
    .done (current, ["environment_reinstalled"])
  else .done (current, [])

/-- The lockfile's artifact is staged, and has its digest. -/
def checkStaged (target : Text) (directory : Path) (name recorded : Text) : PackageProgram Text :=
  .call (.stagedExists target name) fun there =>
    if !there then .raise (packageRefused "artifact_missing" (directory.child ["artifact", name]).text)
    else do
      let digest ← .call (.digest target name) attempt
      if digest ≠ recorded then
        .raise (packageRefused "artifact_digest_mismatch" (directory.child ["artifact", name]).text)
      else .done digest

/-- The environment of a version is restored: its frozen set, the repairs and the digest of its artifact. -/
def restore (py : Interpreter) (around : Surroundings) (target : Text) (directory : Path) :
    PackageProgram (List Text × List Text × Text) :=
  .call (.versionExists target.strip) fun there =>
    if !there then .raise (packageRefused "rollback_target_missing" directory.text)
    else do
      let lockfile ← .call (.readLockfile target.strip) ofExcept
      let expected ← ofExcept (lockedFrozen py lockfile)
      let artifact ← ofExcept (lockedArtifact lockfile)
      let name := Json.strField py artifact "name"
      if name = [] then .raise (packageRefused "lockfile_corrupt" (directory.child ["lockfile.json"]).text)
      else do
        let digest ← checkStaged target.strip directory name (Json.strField py artifact "sha256")
        let (interpreter, made) ← restoreInterpreter around target.strip (directory.child ["venv"])
        let (frozen, installed) ← restoreFrozen target.strip interpreter
          (directory.child ["artifact", name]) expected
        if normalizeFrozen frozen ≠ normalizeFrozen expected then
          .raise (packageError "environment_not_restored" target)
        else .done (frozen, made ++ installed, digest)

/-- `rollback(install_root, to_version=to_version, protected=protected)` -/
def rollback (py : Interpreter) (around : Surroundings) (installRoot : Text) (toVersion : Option Text)
    (guarded : Option (List Path)) : PackageProgram JsonObject := do
  let root ← ofExcept (resolveInstallRoot around installRoot guarded)
  let records ← .call .readHistory attempt
  let target ← resolveRollbackTarget py toVersion records
  let directory ← ofExcept (versionDirectory root target)
  let (frozen, repairs, digest) ← restore py around target directory
  activate target
  .call .clock fun now => do
    appendHistory (rollbackRecord target repairs frozen now)
    .done [("action", .str "rollback"), ("version", .str target), ("active", .str target), ("restored", .bool true),
      ("repairs", .arr (repairs.map .str)), ("frozen", .arr (frozen.map .str)), ("artifact_sha256", .str digest),
      ("lockfile", .str (directory.child ["lockfile.json"]).text)]

/-! ### What the pointer and the history keep -/

/-- An operation that is not about the pointer or the history. -/
def Aside : PackageOp → Prop
  | .replace .current _ => False
  | .appendHistory _ => False
  | _ => True

/-- The pointer and the history. -/
def ledger (disk : Disk) : Option Json × List HistoryLine := (disk.current, disk.history)

theorem ledger_after {around : Surroundings} (disk : Disk) (op : PackageOp)
    (reply : PackageReply op) (aside : Aside op)
    (_ : (machine around).permits disk op reply) : ledger ((machine around).after disk op reply) = ledger disk := by
  change ledger (after disk op reply) = ledger disk
  unfold after
  split
  all_goals first | rfl | exact aside.elim

/-- An operation that takes no version away and writes no lockfile, pointer or line of the history. -/
def Inner : PackageOp → Prop
  | .replace _ _ | .appendHistory _ | .cleanup _ => False
  | _ => True

theorem Inner.aside {op : PackageOp} (inner : Inner op) : Aside op := by
  cases op <;> first | exact trivial | exact inner.elim

section Inners

theorem only_attempt {α : Type} {allowed : PackageOp → Prop} (reply : Except Fault α) :
    (attempt reply).Only allowed := by
  cases reply <;> exact trivial

theorem only_attemptPart {α β : Type} {allowed : PackageOp → Prop} (reply : Except (Fault × β) α) :
    (attemptPart reply).Only allowed := by
  cases reply <;> exact trivial

theorem run_inner (name : Text) (argv : List Text) : (run name argv).Only Inner :=
  ⟨trivial, fun reply => only_attempt reply.1⟩

theorem checkResult_inner (code : Text) (result : CommandResult) : (checkResult code result).Only Inner := by
  unfold checkResult
  split <;> exact trivial

theorem createVenv_inner (around : Surroundings) (name : Text) (venv : Path) (python : Option Text) :
    (createVenv around name venv python).Only Inner := by
  refine Only.bind ⟨trivial, only_attempt⟩ fun _ => ?_
  refine Only.bind (run_inner _ _) fun result => ?_
  refine Only.bind (checkResult_inner _ _) fun _ => ⟨trivial, fun there => ?_⟩
  dsimp only
  split <;> exact trivial

theorem installArtifact_inner (name : Text) (interpreter artifact : Path) (force : Bool) :
    (installArtifact name interpreter artifact force).Only Inner :=
  Only.bind (run_inner _ _) fun _ => checkResult_inner _ _

theorem freeze_inner (name : Text) (interpreter : Path) : (freeze name interpreter).Only Inner :=
  Only.bind (run_inner _ _) fun _ => Only.bind (checkResult_inner _ _) fun _ => trivial

theorem stageArtifact_inner (root : Path) (name : Text) (artifact : Source) :
    (stageArtifact root name artifact).Only Inner := by
  refine ⟨trivial, fun there => ?_⟩
  dsimp only
  split
  · exact trivial
  · refine ⟨trivial, fun isFile => ?_⟩
    dsimp only
    split
    · exact trivial
    · refine Only.bind (only_ofExcept _) fun _ => Only.bind ⟨trivial, only_attempt⟩ fun _ => ?_
      refine Only.bind ?_ fun _ => Only.bind ⟨trivial, only_attempt⟩ fun _ => trivial
      unfold copyArtifact
      split
      · exact ⟨trivial, only_attemptPart⟩
      · exact trivial

theorem createEnvironment_inner (around : Surroundings) (root : Path) (version : Text) (artifact : Source)
    (python : Option Text) : (createEnvironment around root version artifact python).Only Inner := by
  refine Only.bind (only_ofExcept _) fun name => Only.bind (only_ofExcept _) fun directory => ?_
  refine Only.bind ⟨trivial, fun there => ?_⟩ fun _ => Only.bind ⟨trivial, only_attempt⟩ fun _ => ?_
  · dsimp only
    split
    · exact ⟨trivial, only_attemptPart⟩
    · exact trivial
  · refine Only.bind (stageArtifact_inner _ _ _) fun staged => Only.bind (createVenv_inner _ _ _ _) fun _ => ?_
    exact Only.bind (installArtifact_inner _ _ _ _) fun _ => Only.bind (freeze_inner _ _) fun _ => trivial

theorem serializeLockfile_inner (around : Surroundings) (environment : VersionEnvironment) :
    (serializeLockfile around environment).Only Inner :=
  Only.bind ⟨trivial, only_attempt⟩ fun _ => ⟨trivial, fun _ => trivial⟩

theorem checkStaged_inner (target : Text) (directory : Path) (name recorded : Text) :
    (checkStaged target directory name recorded).Only Inner := by
  refine ⟨trivial, fun there => ?_⟩
  dsimp only
  split
  · exact trivial
  · refine Only.bind ⟨trivial, only_attempt⟩ fun digest => ?_
    split <;> exact trivial

theorem restoreInterpreter_inner (around : Surroundings) (target : Text) (venv : Path) :
    (restoreInterpreter around target venv).Only Inner := by
  refine ⟨trivial, fun there => ?_⟩
  dsimp only
  split
  · exact trivial
  · exact Only.bind (createVenv_inner _ _ _ _) fun _ => trivial

theorem restoreFrozen_inner (target : Text) (interpreter staged : Path) (expected : List Text) :
    (restoreFrozen target interpreter staged expected).Only Inner := by
  refine Only.bind (freeze_inner _ _) fun current => ?_
  split
  · exact Only.bind (installArtifact_inner _ _ _ _) fun _ => Only.bind (freeze_inner _ _) fun _ => trivial
  · exact trivial

theorem restore_inner (py : Interpreter) (around : Surroundings) (target : Text) (directory : Path) :
    (restore py around target directory).Only Inner := by
  refine ⟨trivial, fun there => ?_⟩
  dsimp only
  split
  · exact trivial
  · refine Only.bind ⟨trivial, only_ofExcept⟩ fun lockfile => Only.bind (only_ofExcept _) fun expected => ?_
    refine Only.bind (only_ofExcept _) fun artifact => ?_
    split
    · exact trivial
    · refine Only.bind (checkStaged_inner _ _ _ _) fun digest => ?_
      refine Only.bind (restoreInterpreter_inner _ _ _) fun made => ?_
      refine Only.bind (restoreFrozen_inner _ _ _ _) fun frozen => ?_
      split <;> exact trivial

end Inners

section Asides

theorem discard_aside (name : Text) (existed : Bool) (raised : Raised) :
    (discard name existed raised).Only Aside := by
  unfold discard
  split
  · refine ⟨trivial, fun there => ?_⟩
    dsimp only
    split
    · exact ⟨trivial, fun _ => trivial⟩
    · exact trivial
  · exact trivial

theorem writeLockfile_aside (version : Text) (payload : Json) :
    (writeJsonAtomic (.lockfile version) payload).Only Aside :=
  Only.bind ⟨trivial, only_attempt⟩ fun _ => Only.bind ⟨trivial, only_attempt⟩ fun _ => ⟨trivial, only_attempt⟩

end Asides

/-! ### What a run that succeeds leaves -/

section Succeeds

variable {py : Interpreter} {around : Surroundings} {disk disk' : Disk}

theorem validateVersion_eq {version name : Text} (valid : validateVersion version = .ok name) :
    version.strip = name := by
  unfold validateVersion at valid
  split at valid
  · exact Except.ok.inj valid
  · cases valid

/-- The pointer after `activate(version)`. -/
def pointer (version : Text) (now : PyFloat) : Json :=
  .obj [("layout", .int 1), ("active", .str version.strip), ("updated_at", .float now)]

theorem activate_ok {version : Text} (ends : (machine around).Ends (activate version) disk (.ok ()) disk') :
    (∃ now, disk'.current = some (pointer version now)) ∧ disk'.history = disk.history := by
  obtain ⟨name, _, valid, ⟨now, _, written⟩⟩ := ends_bind_ok.mp ends
  obtain ⟨same, rfl⟩ := ends_ofExcept.mp valid
  obtain rfl := validateVersion_eq same.symm
  obtain ⟨_, _, ⟨folder, _, made⟩, written⟩ := ends_bind_ok.mp written
  obtain ⟨_, _, ⟨temporary, _, kept⟩, written⟩ := ends_bind_ok.mp written
  obtain ⟨reply, _, replaced⟩ := written
  cases folder with
  | error raised => exact nomatch made.1
  | ok _ =>
    cases temporary with
    | error raised => exact nomatch kept.1
    | ok _ =>
      cases reply with
      | error raised => exact nomatch replaced.1
      | ok _ =>
        obtain ⟨_, rfl⟩ := made
        obtain ⟨_, rfl⟩ := kept
        obtain ⟨_, rfl⟩ := replaced
        exact ⟨⟨now, rfl⟩, rfl⟩

theorem appendHistory_ok {record : Json} (ends : (machine around).Ends (appendHistory record) disk (.ok ()) disk') :
    disk'.current = disk.current ∧ disk'.history = disk.history ++ [.record record] := by
  obtain ⟨_, _, ⟨root, _, made⟩, ⟨reply, _, written⟩⟩ := ends_bind_ok.mp ends
  cases root with
  | error raised => exact nomatch made.1
  | ok _ =>
    cases reply with
    | error raised => exact nomatch written.1
    | ok _ =>
      obtain ⟨_, rfl⟩ := made
      obtain ⟨_, rfl⟩ := written
      exact ⟨rfl, rfl⟩

theorem ledger_of_aside {α : Type} {p : PackageProgram α} {outcome : Except Raised α} (aside : p.Only Aside)
    (ends : (machine around).Ends p disk outcome disk') :
    disk'.current = disk.current ∧ disk'.history = disk.history :=
  Prod.mk.inj (ends.keeps aside ledger_after)

theorem ledger_of_inner {α : Type} {p : PackageProgram α} {outcome : Except Raised α} (inner : p.Only Inner)
    (ends : (machine around).Ends p disk outcome disk') :
    disk'.current = disk.current ∧ disk'.history = disk.history :=
  ledger_of_aside (inner.mono fun _ => Inner.aside) ends

/-- The environment that is made is that of a valid name. -/
theorem createEnvironment_version {root : Path} {version : Text} {artifact : Source} {python : Option Text}
    {environment : VersionEnvironment}
    (ends : (machine around).Ends (createEnvironment around root version artifact python) disk
      (.ok environment) disk') :
    environment.version = version.strip := by
  obtain ⟨name, _, valid, ends⟩ := ends_bind_ok.mp ends
  obtain ⟨directory, _, _, ends⟩ := ends_bind_ok.mp ends
  obtain ⟨_, _, _, ends⟩ := ends_bind_ok.mp ends
  obtain ⟨_, _, _, ends⟩ := ends_bind_ok.mp ends
  obtain ⟨staged, _, _, ends⟩ := ends_bind_ok.mp ends
  obtain ⟨interpreter, _, _, ends⟩ := ends_bind_ok.mp ends
  obtain ⟨_, _, _, ends⟩ := ends_bind_ok.mp ends
  obtain ⟨installed, _, _, ends⟩ := ends_bind_ok.mp ends
  obtain ⟨same, _⟩ := ends_ofExcept.mp valid
  obtain rfl := Except.ok.inj ends.1
  exact (validateVersion_eq same.symm).symm

theorem discard_not_ok {name : Text} {existed : Bool} {raised : Raised} {environment : VersionEnvironment}
    (ends : (machine around).Ends (discard name existed raised) disk (.ok environment) disk') : False := by
  unfold discard at ends
  split at ends
  · obtain ⟨there, _, ends⟩ := ends
    dsimp only at ends
    split at ends
    · obtain ⟨_, _, ends⟩ := ends
      exact nomatch ends.1
    · exact nomatch ends.1
  · exact nomatch ends.1

/-- An install that succeeds points to its version and records it. -/
theorem install_ok {request : Request} {answer : JsonObject}
    (ends : (machine around).Ends (install around request) disk (.ok answer) disk') :
    ∃ environment now now', environment.version = request.version.strip.strip ∧
      disk'.current = some (pointer environment.version now) ∧
      disk'.history = disk.history ++ [.record (installRecord environment now')] := by
  obtain ⟨root, _, resolved, afterRoot⟩ := ends_bind_ok.mp ends
  obtain ⟨name, _, valid, afterName⟩ := ends_bind_ok.mp afterRoot
  obtain ⟨_, _, directory, ⟨existed, _, afterDirectory⟩⟩ := ends_bind_ok.mp afterName
  obtain ⟨_, rfl⟩ := ends_ofExcept.mp resolved
  obtain ⟨same, rfl⟩ := ends_ofExcept.mp valid
  obtain ⟨_, rfl⟩ := ends_ofExcept.mp directory
  obtain ⟨environment, made, built, afterBuild⟩ := ends_bind_ok.mp afterDirectory
  have version : environment.version = name.strip := by
    obtain ⟨ended, _, first, rest⟩ := ends_resume.mp built
    cases ended with
    | ok other =>
      obtain rfl := Except.ok.inj rest.1
      exact createEnvironment_version first
    | error raised => exact (discard_not_ok rest).elim
  have first := ledger_of_aside
    (Only.rescue
      ((createEnvironment_inner around root name request.artifact request.python).mono fun _ =>
        Inner.aside)
      (discard_aside name existed)) built
  obtain ⟨lockfile, _, serialized, afterLockfile⟩ := ends_bind_ok.mp afterBuild
  obtain ⟨_, _, written, afterWrite⟩ := ends_bind_ok.mp afterLockfile
  obtain ⟨_, _, activated, ⟨now', _, afterPointer⟩⟩ := ends_bind_ok.mp afterWrite
  obtain ⟨_, _, appended, done⟩ := ends_bind_ok.mp afterPointer
  have second := ledger_of_inner (serializeLockfile_inner around environment) serialized
  have third := ledger_of_aside (writeLockfile_aside environment.version lockfile) written
  obtain ⟨⟨now, current⟩, fourth⟩ := activate_ok activated
  have fifth := appendHistory_ok appended
  obtain ⟨_, rfl⟩ := done
  refine ⟨environment, now, now', ?_, fifth.1.trans current, ?_⟩
  · rw [version, validateVersion_eq same.symm]
  · rw [fifth.2]
    exact congrArg (· ++ _) (fourth.trans (third.2.trans (second.2.trans first.2)))

/-- The installed versions, each at its first install. -/
def Disk.installed (disk : Disk) (py : Interpreter) : List Text := installedVersions py disk.records

/-- The active version, or the empty text. -/
def Disk.active (disk : Disk) (py : Interpreter) : Text := activeVersion py (disk.current.bind Json.object?)

/-- The target of a rollback: the explicit version, or the last install's that is not active. -/
def IsTarget (py : Interpreter) (toVersion : Option Text) (disk : Disk) (target : Text) : Prop :=
  match toVersion.filter fun version => version.strip ≠ [] with
  | some version => validateVersion version = .ok target
  | none => (disk.installed py).reverse.find? (fun name => name ≠ disk.active py) = some target

theorem resolveRollbackTarget_ok {toVersion : Option Text} {target : Text}
    (ends : (machine around).Ends (resolveRollbackTarget py toVersion disk.records) disk (.ok target) disk') :
    IsTarget py toVersion disk target ∧ disk' = disk := by
  unfold resolveRollbackTarget at ends
  unfold IsTarget
  split at ends
  · obtain ⟨same, kept⟩ := ends_ofExcept.mp ends
    exact ⟨same.symm, kept⟩
  · obtain ⟨reply, permitted, afterReply⟩ := ends
    obtain ⟨current, found, read, chosen⟩ := ends_bind_ok.mp afterReply
    obtain ⟨rfl, kept⟩ := ends_ofExcept.mp read
    have stored : current = disk.current.bind Json.object? := permitted
    unfold Disk.active Disk.installed
    rw [← stored]
    split at chosen
    · next name first =>
      obtain ⟨same, last⟩ := chosen
      exact ⟨Except.ok.inj same ▸ first, last.trans kept⟩
    · exact nomatch chosen.1

/-- A rollback that succeeds points to its target and records it. -/
theorem rollback_ok {installRoot : Text} {toVersion : Option Text} {guarded : Option (List Path)}
    {answer : JsonObject}
    (whole : HistoryLine.broken ∉ disk.history)
    (ends : (machine around).Ends (rollback py around installRoot toVersion guarded) disk (.ok answer) disk') :
    ∃ target repairs frozen now now', IsTarget py toVersion disk target ∧
      disk'.current = some (pointer target now) ∧
      disk'.history = disk.history ++ [.record (rollbackRecord target repairs frozen now')] := by
  obtain ⟨root, _, resolved, afterRoot⟩ := ends_bind_ok.mp ends
  obtain ⟨records, _, ⟨reply, permitted, read⟩, afterRead⟩ := ends_bind_ok.mp afterRoot
  obtain ⟨_, rfl⟩ := ends_ofExcept.mp resolved
  cases reply with
  | error raised => exact nomatch read.1
  | ok stored =>
    obtain ⟨same, rfl⟩ := read
    obtain rfl := Except.ok.inj same
    obtain rfl := permitted whole
    obtain ⟨target, _, chosen, afterTarget⟩ := ends_bind_ok.mp afterRead
    obtain ⟨isTarget, rfl⟩ := resolveRollbackTarget_ok chosen
    obtain ⟨directory, _, located, afterDirectory⟩ := ends_bind_ok.mp afterTarget
    obtain ⟨_, rfl⟩ := ends_ofExcept.mp located
    obtain ⟨⟨frozen, repairs, digest⟩, _, restored, afterRestore⟩ := ends_bind_ok.mp afterDirectory
    obtain ⟨_, _, activated, ⟨now', _, afterPointer⟩⟩ := ends_bind_ok.mp afterRestore
    obtain ⟨_, _, appended, done⟩ := ends_bind_ok.mp afterPointer
    have first := ledger_of_inner (restore_inner py around target directory) restored
    obtain ⟨⟨now, current⟩, second⟩ := activate_ok activated
    have third := appendHistory_ok appended
    obtain ⟨_, rfl⟩ := done
    refine ⟨target, repairs, frozen, now, now', isTarget, third.1.trans current, ?_⟩
    rw [third.2]
    exact congrArg (· ++ _) (second.trans first.2)

/-! ### The order of the installs -/

theorem installedVersions_append (records : List JsonObject) (record : JsonObject) :
    installedVersions py (records ++ [record]) =
      if Json.strField py record "action" = "install" ∧ Json.strField py record "version" ≠ [] ∧
          Json.strField py record "version" ∉ installedVersions py records then
        installedVersions py records ++ [Json.strField py record "version"]
      else installedVersions py records := by
  unfold installedVersions
  rw [List.foldl_append]
  rfl

theorem installedVersions_nodup (records : List JsonObject) : (installedVersions py records).Nodup := by
  induction records using List.reverseRecOn with
  | nil => exact List.nodup_nil
  | append_singleton records record ih =>
    rw [installedVersions_append]
    split
    · next fresh =>
      rw [List.nodup_append]
      refine ⟨ih, List.nodup_singleton _, fun name member other same => ?_⟩
      rw [List.mem_singleton.mp same]
      rintro rfl
      exact fresh.2.2 member
    · exact ih

theorem records_append {record : JsonObject} (grown : disk'.history = disk.history ++ [.record (.obj record)]) :
    disk'.records = disk.records ++ [record] := by
  unfold Disk.records
  rw [grown, List.filterMap_append]
  rfl

/-- One version comes before another. -/
def Before (ordered : List Text) (first second : Text) : Prop := [first, second].Sublist ordered

/-- What is chosen comes before the active version exactly when that is the last. -/
theorem before_iff {ordered : List Text} {target active : Text} (distinct : ordered.Nodup)
    (chosen : ordered.reverse.find? (fun name => name ≠ active) = some target) :
    Before ordered target active ↔ ordered.getLast? = some active := by
  rcases List.eq_nil_or_concat ordered with rfl | ⟨init, last, rfl⟩
  · cases chosen
  rw [List.concat_eq_append] at distinct chosen ⊢
  rw [List.reverse_append, List.reverse_singleton, List.singleton_append] at chosen
  rw [List.getLast?_concat, Option.some.injEq]
  have fresh : last ∉ init := by
    intro member
    exact (List.nodup_append.mp distinct).2.2 last member last (List.mem_singleton_self last) rfl
  by_cases same : last = active
  · rw [List.find?_cons_of_neg (by simp [same])] at chosen
    have member : target ∈ init := List.mem_reverse.mp (List.mem_of_find?_eq_some chosen)
    refine iff_of_true ?_ same
    exact (List.singleton_sublist.mpr member).append (same ▸ List.Sublist.refl [last])
  · rw [List.find?_cons_of_pos (by simp [same])] at chosen
    obtain rfl := Option.some.inj chosen
    refine iff_of_false (fun before => ?_) same
    obtain ⟨front, back, split, inside, after⟩ := List.sublist_append_iff.mp before
    cases front with
    | nil =>
      obtain rfl : back = [last, active] := split.symm
      exact Nat.not_succ_le_self 1 after.length_le
    | cons first rest =>
      obtain ⟨rfl, _⟩ := List.cons.inj split
      exact fresh (inside.subset List.mem_cons_self)

/-! ### Runs -/

/-- An operation on an install root. -/
inductive Operation
  | install (request : Request)
  | rollback (installRoot : Text) (toVersion : Option Text) (guarded : Option (List Path))

/-- The program of an operation. -/
def Operation.program (py : Interpreter) (around : Surroundings) : Operation → PackageProgram JsonObject
  | .install request => Release.install around request
  | .rollback installRoot toVersion guarded => Release.rollback py around installRoot toVersion guarded

/-- A rollback without an explicit version. -/
def Operation.IsDefault : Operation → Prop
  | .install _ => False
  | .rollback _ toVersion _ => toVersion.filter (fun version => version.strip ≠ []) = none

/-- An operation with the install root before and after it. -/
structure Taken where
  operation : Operation
  before : Disk
  after : Disk

/-- Operations that succeeded, one after another. -/
inductive Ran (py : Interpreter) (around : Surroundings) : Disk → List Taken → Disk → Prop
  | start (disk : Disk) : Ran py around disk [] disk
  | step {disk middle last : Disk} {operation : Operation} {answer : JsonObject} {rest : List Taken}
    (ends : (machine around).Ends (operation.program py around) disk (.ok answer) middle)
    (later : Ran py around middle rest last) : Ran py around disk (⟨operation, disk, middle⟩ :: rest) last

/-- An install root before anything was installed. -/
def freshDisk (elsewhere : Text → Option Node) : Disk := ⟨fun _ => none, none, [], elsewhere⟩

/-- Every line of the history is whole, and the versions it installs are names. -/
structure Disk.Orderly (disk : Disk) (py : Interpreter) : Prop where
  whole : HistoryLine.broken ∉ disk.history
  named : ∀ version ∈ disk.installed py, version.strip = version

theorem broken_append {record : Json} (whole : HistoryLine.broken ∉ disk.history)
    (grown : disk'.history = disk.history ++ [.record record]) : HistoryLine.broken ∉ disk'.history := by
  rw [grown, List.mem_append, List.mem_singleton, not_or]
  exact ⟨whole, fun wrong => nomatch wrong⟩

/-- A rollback changes no install. -/
theorem installed_rollback {target : Text} {repairs frozen : List Text} {now : PyFloat}
    (grown : disk'.history = disk.history ++ [.record (rollbackRecord target repairs frozen now)]) :
    disk'.installed py = disk.installed py := by
  unfold Disk.installed
  rw [records_append grown, installedVersions_append, if_neg]
  rintro ⟨wrong, _⟩
  change Text.ofString "rollback" = Text.ofString "install" at wrong
  exact absurd wrong (by decide)

theorem installed_install {environment : VersionEnvironment} {now : PyFloat}
    (grown : disk'.history = disk.history ++ [.record (installRecord environment now)]) :
    ∀ version ∈ disk'.installed py, version ∈ disk.installed py ∨ version = environment.version := by
  intro version member
  unfold Disk.installed at member
  rw [records_append grown, installedVersions_append] at member
  split at member
  · exact (List.mem_append.mp member).imp_right List.mem_singleton.mp
  · exact Or.inl member

/-- An operation that succeeds leaves an orderly install root. -/
theorem orderly_step {operation : Operation} {answer : JsonObject} (orderly : disk.Orderly py)
    (ends : (machine around).Ends (operation.program py around) disk (.ok answer) disk') : disk'.Orderly py := by
  cases operation with
  | install request =>
    obtain ⟨environment, now, now', version, -, grown⟩ := install_ok ends
    refine ⟨broken_append orderly.whole grown, fun name member => ?_⟩
    rcases installed_install grown name member with old | rfl
    · exact orderly.named name old
    · rw [version, Security.strip_strip, Security.strip_strip]
  | rollback installRoot toVersion guarded =>
    obtain ⟨target, repairs, frozen, now, now', -, -, grown⟩ := rollback_ok orderly.whole ends
    refine ⟨broken_append orderly.whole grown, fun name member => ?_⟩
    rw [installed_rollback grown] at member
    exact orderly.named name member

/-- A default rollback makes its target the active version: the last one that is not. -/
theorem default_step {operation : Operation} {answer : JsonObject} (orderly : disk.Orderly py)
    (default : operation.IsDefault)
    (ends : (machine around).Ends (operation.program py around) disk (.ok answer) disk') :
    (disk.installed py).reverse.find? (fun name => name ≠ disk.active py) = some (disk'.active py) ∧
      disk'.installed py = disk.installed py := by
  cases operation with
  | install request => exact default.elim
  | rollback installRoot toVersion guarded =>
    obtain ⟨target, repairs, frozen, now, now', isTarget, current, grown⟩ := rollback_ok orderly.whole ends
    have absent : toVersion.filter (fun version => version.strip ≠ []) = none := default
    unfold IsTarget at isTarget
    rw [absent] at isTarget
    have member : target ∈ disk.installed py := List.mem_reverse.mp (List.mem_of_find?_eq_some isTarget)
    have active : disk'.active py = target.strip := by
      unfold Disk.active
      rw [current]
      rfl
    rw [active, orderly.named target member]
    exact ⟨isTarget, installed_rollback grown⟩

/-- Every operation of a run starts from an orderly install root. -/
theorem Ran.orderly {taken : List Taken} {last : Disk} (run : Ran py around disk taken last)
    (orderly : disk.Orderly py) :
    ∀ step ∈ taken, step.before.Orderly py ∧ ∃ answer,
      (machine around).Ends (step.operation.program py around) step.before (.ok answer) step.after := by
  induction run with
  | start disk => exact fun _ wrong => nomatch wrong
  | step ends later ih =>
    exact List.forall_mem_cons.mpr ⟨⟨orderly, _, ends⟩, ih (orderly_step orderly ends)⟩

/-- An operation starts where the one before it ended. -/
theorem Ran.adjacent {front back : List Taken} {first second : Taken} {last : Disk}
    (run : Ran py around disk (front ++ first :: second :: back) last) : second.before = first.after := by
  induction front generalizing disk with
  | nil =>
    cases run with
    | step _ later =>
      cases later with
      | step _ _ => rfl
  | cons step front ih =>
    cases run with
    | step _ later => exact ih later

/-- The version installed last, each at its first install, is active. -/
def NewestActive (py : Interpreter) (disk : Disk) : Prop := (disk.installed py).getLast? = some (disk.active py)

/-- The last of some default rollbacks in a row activates no version that was active before the first of them. -/
def NeverReturns (py : Interpreter) (taken : List Taken) : Prop :=
  ∀ front row back, taken = front ++ row ++ back → (∀ step ∈ row, step.operation.IsDefault) →
    ∀ first ∈ row.head?, ∀ last ∈ row.getLast?, last.after.active py ≠ first.before.active py

/-- **A default rollback goes back exactly when the newest version is active**, in every run from a fresh install
root; and in a run whose default rollbacks are all like that, none returns to a version that was
rolled back from. -/
theorem rollback_goes_back (py : Interpreter) (around : Surroundings) (elsewhere : Text → Option Node)
    (taken : List Taken) (last : Disk) (run : Ran py around (freshDisk elsewhere) taken last) :
    (∀ step ∈ taken, step.operation.IsDefault →
      (Before (step.before.installed py) (step.after.active py) (step.before.active py) ↔
        NewestActive py step.before)) ∧
    ((∀ step ∈ taken, step.operation.IsDefault → NewestActive py step.before) → NeverReturns py taken) := by
  have fresh : (freshDisk elsewhere).Orderly py :=
    ⟨fun wrong => (nomatch wrong), fun _ wrong => (nomatch wrong)⟩
  have each := run.orderly fresh
  constructor
  · intro step member default
    obtain ⟨orderly, answer, ends⟩ := each step member
    exact before_iff (installedVersions_nodup _) (default_step orderly default ends).1
  · rintro newest front row back rfl defaults first isFirst end' isEnd
    cases row with
    | nil => cases isFirst
    | cons step rest =>
      obtain rfl := Option.some.inj isFirst
      have member : step ∈ front ++ step :: rest ++ back :=
        List.mem_append_left back (List.mem_append_right front List.mem_cons_self)
      obtain ⟨orderly, answer, ends⟩ := each step member
      obtain ⟨chosen, kept⟩ := default_step orderly (defaults step List.mem_cons_self) ends
      have apart : step.after.active py ≠ step.before.active py := by
        simpa using List.find?_some chosen
      cases rest with
      | nil =>
        obtain rfl := Option.some.inj isEnd
        exact apart
      | cons next others =>
        -- The second of two in a row starts from an older version than the newest.
        have follows : next.before = step.after := by
          rw [List.append_assoc] at run
          exact run.adjacent
        have nextMember : next ∈ front ++ step :: next :: others ++ back :=
          List.mem_append_left back (List.mem_append_right front (List.mem_cons_of_mem _ List.mem_cons_self))
        have here := newest step member (defaults step List.mem_cons_self)
        have there := newest next nextMember (defaults next (List.mem_cons_of_mem _ List.mem_cons_self))
        unfold NewestActive at here there
        rw [follows, kept, here] at there
        exact absurd (Option.some.inj there).symm apart

end Succeeds

/-! ### Two versions -/

/-- SHA-256, on an empty artifact. -/
def emptySha256 (bytes : Bytes) : Text :=
  if bytes = [] then "e3b0c44298fc1c149afbf4c8996fb92427ae41e4649b934ca495991b7852b855" else []

/-- A process in which every path is its own. -/
def sampleSurroundings : Surroundings where
  sha256 := emptySha256
  resolve := .ok
  protectedRoots := []
  executable := "/usr/bin/python"
  pythonVersion := "3.13.0"
  marker := "1"

/-- An artifact that is out of the install root. -/
def sampleElsewhere (path : Text) : Option Node := if path = "/w.whl" then some (.file []) else none

/-- A file system and commands that never fail. -/
def obliging (disk : Disk) : (op : PackageOp) → PackageReply op
  | .versionExists name => (disk.versions name).isSome
  | .environmentExists name => (disk.environment name).isSome
  | .removeEnvironment _ => .ok ()
  | .makeVersion _ => .ok ()
  | .sourceExists artifact => (disk.node artifact.place).isSome
  | .sourceIsFile artifact => (disk.content artifact.place).isSome
  | .makeArtifacts _ => .ok ()
  | .copy artifact name =>
    if (disk.content artifact.place).isSome then .ok () else .error (.os [], disk.artifact name artifact.name)
  | .digest name file => ((disk.artifact name file).map emptySha256).elim (.error (.os [])) .ok
  | .makeParent _ => .ok ()
  | .run name argv =>
    (.ok ⟨0, if ("freeze" : Text) ∈ argv then "demo==1\n" else [], []⟩,
      if ("venv" : Text) ∈ argv then some ⟨[("bin/python", [])]⟩ else disk.environment name)
  | .interpreterExists name => (disk.environment name).any Environment.hasInterpreter
  | .artifactSize name file => ((disk.artifact name file).map List.length).elim (.error (.os [])) .ok
  | .clock => ⟨0⟩
  | .makeFolder _ => .ok ()
  | .writeTemporary _ _ => .ok ()
  | .replace _ _ => .ok ()
  | .makeRoot => .ok ()
  | .appendHistory _ => .ok ()
  | .cleanup _ => none
  | .readHistory => .ok disk.records
  | .readCurrent => .ok (disk.current.bind Json.object?)
  | .readLockfile name =>
    (((disk.versions name).bind VersionDirectory.lockfile).bind Json.object?).elim
      (.error (packageRefused "lockfile_missing" [])) .ok
  | .stagedExists name file => (disk.artifact name file).isSome

theorem elim_ok {α β : Type} {found : Option α} {raised : β} {a : α}
    (same : found.elim (.error raised) Except.ok = .ok a) :
    found = some a := by
  cases found with
  | none => cases same
  | some b => exact congrArg some (Except.ok.inj same)

theorem object?_eq_some {value : Json} {entries : JsonObject} (same : value.object? = some entries) :
    value = .obj entries := by
  cases value with
  | obj other => exact congrArg Json.obj (Option.some.inj same)
  | _ => cases same

theorem permitted_copy {around : Surroundings} {disk : Disk} {artifact : Source} {name : Text}
    {reply : PackageReply (.copy artifact name)} (fine : ∀ u, reply = .ok u → (disk.content artifact.place).isSome)
    (cut : ∀ raised left, reply = .error (raised, left) → left = disk.artifact name artifact.name) :
    Permitted around disk (.copy artifact name) reply := by
  cases reply with
  | ok u => exact fine u rfl
  | error pair => exact Or.inl (cut pair.1 pair.2 rfl)

theorem permitted_digest {around : Surroundings} {disk : Disk} {name file : Text}
    {reply : PackageReply (.digest name file)}
    (fine : ∀ digest, reply = .ok digest → (disk.artifact name file).map around.sha256 = some digest) :
    Permitted around disk (.digest name file) reply := by
  cases reply with
  | ok digest => exact fine digest rfl
  | error raised => exact trivial

theorem permitted_artifactSize {around : Surroundings} {disk : Disk} {name file : Text}
    {reply : PackageReply (.artifactSize name file)}
    (fine : ∀ size, reply = .ok size → (disk.artifact name file).map List.length = some size) :
    Permitted around disk (.artifactSize name file) reply := by
  cases reply with
  | ok size => exact fine size rfl
  | error raised => exact trivial

theorem permitted_readLockfile {around : Surroundings} {disk : Disk} {name : Text}
    {reply : PackageReply (.readLockfile name)}
    (fine : ∀ entries, reply = .ok entries →
      (disk.versions name).bind VersionDirectory.lockfile = some (.obj entries)) :
    Permitted around disk (.readLockfile name) reply := by
  cases reply with
  | ok entries => exact fine entries rfl
  | error raised => exact trivial

theorem obliging_permitted (disk : Disk) (op : PackageOp) :
    (machine sampleSurroundings).permits disk op (obliging disk op) := by
  change Permitted sampleSurroundings disk op (obliging disk op)
  cases op with
  | copy artifact name =>
    by_cases there : (disk.content artifact.place).isSome
    · have same : obliging disk (.copy artifact name) = .ok () := if_pos there
      exact permitted_copy (fun _ _ => there) fun _ _ wrong => nomatch same.symm.trans wrong
    · have same : obliging disk (.copy artifact name) =
        .error (.os [], disk.artifact name artifact.name) := if_neg there
      refine permitted_copy (fun _ wrong => nomatch same.symm.trans wrong) fun raised left other => ?_
      exact (congrArg Prod.snd (Except.error.inj (same.symm.trans other))).symm
  | digest name file => exact permitted_digest fun digest same => elim_ok same
  | artifactSize name file => exact permitted_artifactSize fun size same => elim_ok same
  | readLockfile name =>
    refine permitted_readLockfile fun entries same => ?_
    obtain ⟨value, found, object⟩ := Option.bind_eq_some_iff.mp (elim_ok same)
    exact object?_eq_some object ▸ found
  | cleanup name => exact fun _ wrong => nomatch wrong
  | readHistory => exact fun _ => rfl
  | replace target payload => cases target <;> exact trivial
  | _ => first | rfl | exact trivial

/-- What an operation leaves when nothing fails. -/
def perform (operation : Operation) (disk : Disk) : Option Disk :=
  match (machine sampleSurroundings).play obliging (operation.program .ascii sampleSurroundings) disk with
  | some (.ok _, left) => some left
  | _ => none

theorem perform_ends {operation : Operation} {disk left : Disk} (performed : perform operation disk = some left) :
    ∃ answer, (machine sampleSurroundings).Ends (operation.program .ascii sampleSurroundings) disk
      (.ok answer) left := by
  unfold perform at performed
  split at performed
  · next answer left' played =>
    obtain rfl := Option.some.inj performed
    exact ⟨answer, ends_play obliging_permitted played⟩
  · cases performed

/-- An install of the artifact as a version. -/
def sampleInstall (version : Text) : Operation :=
  .install ⟨"/opt", version, ⟨"/w.whl", "w.whl", .elsewhere "/w.whl"⟩, none, none⟩

/-- A default rollback. -/
def sampleRollback : Operation := .rollback "/opt" none none

/-- The install root after so many of: two installs and two default rollbacks. -/
def sampleDisk : ℕ → Disk
  | 0 => freshDisk sampleElsewhere
  | 1 => (perform (sampleInstall "1.0.0") (sampleDisk 0)).getD (sampleDisk 0)
  | 2 => (perform (sampleInstall "1.1.0") (sampleDisk 1)).getD (sampleDisk 1)
  | n + 3 => (perform sampleRollback (sampleDisk (n + 2))).getD (sampleDisk (n + 2))

theorem perform_next (operation : Operation) (disk : Disk) (performed : (perform operation disk).isSome = true) :
    ∃ answer, (machine sampleSurroundings).Ends (operation.program .ascii sampleSurroundings) disk (.ok answer)
      ((perform operation disk).getD disk) := by
  obtain ⟨left, same⟩ := Option.isSome_iff_exists.mp performed
  rw [same]
  exact perform_ends same

/-- Two installs and two default rollbacks. -/
def sampleTaken : List Taken :=
  [⟨sampleInstall "1.0.0", sampleDisk 0, sampleDisk 1⟩, ⟨sampleInstall "1.1.0", sampleDisk 1, sampleDisk 2⟩,
    ⟨sampleRollback, sampleDisk 2, sampleDisk 3⟩, ⟨sampleRollback, sampleDisk 3, sampleDisk 4⟩]

theorem ran_sample : Ran .ascii sampleSurroundings (freshDisk sampleElsewhere) sampleTaken (sampleDisk 4) := by
  obtain ⟨_, first⟩ := perform_next (sampleInstall "1.0.0") (sampleDisk 0) (by decide +kernel)
  obtain ⟨_, second⟩ := perform_next (sampleInstall "1.1.0") (sampleDisk 1) (by decide +kernel)
  obtain ⟨_, third⟩ := perform_next sampleRollback (sampleDisk 2) (by decide +kernel)
  obtain ⟨_, fourth⟩ := perform_next sampleRollback (sampleDisk 3) (by decide +kernel)
  exact .step first (.step second (.step third (.step fourth (.start _))))

/-- The two installs and the two rollbacks make a run. -/
theorem rollback_goes_back_sample :
    (∀ step ∈ sampleTaken, step.operation.IsDefault →
      (Before (step.before.installed .ascii) (step.after.active .ascii) (step.before.active .ascii) ↔
        NewestActive .ascii step.before)) ∧
    ((∀ step ∈ sampleTaken, step.operation.IsDefault → NewestActive .ascii step.before) →
      NeverReturns .ascii sampleTaken) :=
  rollback_goes_back .ascii sampleSurroundings sampleElsewhere sampleTaken (sampleDisk 4) ran_sample

/-- The second default rollback activates the version that the first one left. -/
theorem rollback_returns : ∃ taken last,
    Ran .ascii sampleSurroundings (freshDisk sampleElsewhere) taken last ∧
      (∃ step ∈ taken, step.operation.IsDefault ∧
        ¬ Before (step.before.installed .ascii) (step.after.active .ascii) (step.before.active .ascii)) ∧
      ¬ NeverReturns .ascii taken := by
  have installed : (sampleDisk 3).installed .ascii = [("1.0.0" : Text), "1.1.0"] := by decide +kernel
  have second : (sampleDisk 2).active .ascii = "1.1.0" := by decide +kernel
  have third : (sampleDisk 3).active .ascii = "1.0.0" := by decide +kernel
  have fourth : (sampleDisk 4).active .ascii = "1.1.0" := by decide +kernel
  refine ⟨sampleTaken, sampleDisk 4, ran_sample, ⟨⟨sampleRollback, sampleDisk 3, sampleDisk 4⟩, ?_, rfl, ?_⟩, ?_⟩
  · exact List.mem_of_getElem? (show sampleTaken[3]? = some _ from rfl)
  · dsimp only
    rw [installed, third, fourth]
    unfold Before
    decide +kernel
  · intro never
    have apart : (sampleDisk 4).active .ascii ≠ (sampleDisk 2).active .ascii := never [_, _]
      [⟨sampleRollback, sampleDisk 2, sampleDisk 3⟩, ⟨sampleRollback, sampleDisk 3, sampleDisk 4⟩]
        [] rfl (by simp [Operation.IsDefault, sampleRollback]) _ rfl _ rfl
    exact apart (fourth.trans second.symm)

end AxiomMcp.Release
