/-
**What a failed install leaves (`install`).**

An install removes the environment of its version before it builds the new one, and repairs nothing after an
exception that is no `PackageError`.

* `Unharmed`: every version that was there still has its environment and a staged artifact of its lockfile's digest,
  the pointer and the history are as they were, and a new version leaves no directory;
* `untouched_keeps`: an install that is refused before it touches anything, and one of a version without an
  environment whose artifact is no file, keep all that;
* `existing_harmed`, `new_harmed`, `last_harmed`: every other install can fail and does not;
* `install_keeps_iff`: **a failed install changes nothing exactly in the first cases**.
-/

import AxiomMcp.Release.Rollback

namespace AxiomMcp.Release

open Lib Program Machine

/-! ### What has to be kept -/

/-- A staged artifact has the digest of the lockfile. -/
def VersionDirectory.Matches (sha256 : Bytes → Text) (directory : VersionDirectory) : Prop :=
  ∃ lockfile artifact name content, directory.lockfile = some lockfile ∧
    lockfile.field? "artifact" = some artifact ∧ artifact.text? "name" = some name ∧
      artifact.text? "sha256" = some (sha256 content) ∧ directory.artifacts name = some content

/-- What a version had, it still has. -/
structure VersionDirectory.Kept (sha256 : Bytes → Text) (was now : VersionDirectory) : Prop where
  environment : ∀ environment, was.environment = some environment → now.environment = some environment
  artifact : was.Matches sha256 → now.Matches sha256

/-- Nothing that was installed is changed. -/
structure Unharmed (sha256 : Bytes → Text) (disk disk' : Disk) : Prop where
  versions : ∀ name was, disk.versions name = some was → ∃ now, disk'.versions name = some now ∧ was.Kept sha256 now
  current : disk'.current = disk.current
  history : disk'.history = disk.history
  fresh : ∀ name, disk.versions name = none → disk'.versions name = none

/-- Whatever an install raises, nothing that was installed is changed. -/
def InstallKeeps (around : Surroundings) (request : Request) (disk : Disk) : Prop :=
  ∀ raised disk', (machine around).Ends (install around request) disk (.error raised) disk' →
    Unharmed around.sha256 disk disk'

/-- An install that is refused, or that finds a version without an environment and an artifact that is no file. -/
def Untouched (around : Surroundings) (request : Request) (disk : Disk) : Prop :=
  (∃ raised, resolveInstallRoot around request.installRoot request.guarded = .error raised) ∨
    (∃ raised, validateVersion request.version = .error raised) ∨
      ∃ directory, disk.versions request.version.strip = some directory ∧ directory.environment = none ∧
        disk.content request.artifact.place = none

theorem unharmed_refl (sha256 : Bytes → Text) (disk : Disk) : Unharmed sha256 disk disk where
  versions _ was found := ⟨was, found, fun _ same => same, fun matching => matching⟩
  current := rfl
  history := rfl
  fresh _ none := none

/-! ### The program in parts -/

section Parts

variable {around : Surroundings} {request : Request} {root : Path} {name : Text} {disk disk' : Disk}

/-- `install`, once the version is known to be there or not. -/
def construct (around : Surroundings) (request : Request) (root : Path) (name : Text) (existed : Bool) :
    PackageProgram JsonObject := do
  let environment ← (createEnvironment around root name request.artifact request.python).rescue
    (discard name existed)
  register around environment

/-- `create_environment`, once the directory is there. -/
def furnish (around : Surroundings) (root : Path) (name : Text) (artifact : Source) (python : Option Text) :
    PackageProgram VersionEnvironment := do
  let directory := root.child ["versions", name]
  let (staged, digest) ← stageArtifact root name artifact
  let interpreter ← createVenv around name (directory.child ["venv"]) python
  installArtifact name interpreter staged false
  let installed ← freeze name interpreter
  .done ⟨name, directory, directory.child ["venv"], interpreter, staged, artifact.name, digest, installed,
    directory.child ["lockfile.json"]⟩

/-- A name that was made valid is valid. -/
theorem valid_again {version : Text} (valid : validateVersion version = .ok name) :
    validateVersion name = .ok name := by
  obtain rfl := validateVersion_eq valid
  unfold validateVersion at valid ⊢
  rw [Security.strip_strip]
  split at valid
  · next named => rw [if_pos named]
  · cases valid

theorem versionDirectory_eq (valid : validateVersion name = .ok name) :
    versionDirectory root name = .ok (root.child ["versions", name]) := by
  rw [versionDirectory, valid]
  rfl

theorem install_eq (resolved : resolveInstallRoot around request.installRoot request.guarded = .ok root)
    (valid : validateVersion request.version = .ok name) :
    install around request = .call (.versionExists name) (construct around request root name) := by
  rw [install, resolved, valid]
  change (Program.ofExcept (versionDirectory root name) >>= _) = _
  rw [versionDirectory_eq (valid_again valid)]
  rfl

theorem createEnvironment_eq {artifact : Source} {python : Option Text}
    (valid : validateVersion name = .ok name) :
    createEnvironment around root name artifact python = (do
      dropEnvironment name
      .call (.makeVersion name) attempt
      furnish around root name artifact python) := by
  rw [createEnvironment, valid]
  change (Program.ofExcept (versionDirectory root name) >>= _) = _
  rw [versionDirectory_eq valid]
  rfl

@[simp] theorem change_versions (disk : Disk) (name : Text)
    (step : Option VersionDirectory → Option VersionDirectory) :
    (disk.change name step).versions name = step (disk.versions name) :=
  Function.update_self _ _ _

/-- A version that is there is made again as it is. -/
theorem after_makeVersion {directory : VersionDirectory} (there : disk.versions name = some directory) :
    after disk (.makeVersion name) (.ok ()) = disk := by
  change disk.change name (fun found => some (found.getD ⟨none, fun _ => none, none⟩)) = disk
  unfold Disk.change
  rw [there]
  dsimp only [Option.getD_some]
  rw [← there, Function.update_eq_self]

/-! ### What keeps everything -/

/-- Staging an artifact that is no file is refused. -/
theorem stageArtifact_refused {artifact : Source} {outcome : Except Raised (Path × Text)}
    (absent : disk.content artifact.place = none)
    (ends : (machine around).Ends (stageArtifact root name artifact) disk outcome disk') :
    (∃ raised, outcome = .error raised) ∧ disk' = disk := by
  obtain ⟨there, _, ends⟩ := ends
  dsimp only at ends
  split at ends
  · exact ⟨⟨_, ends.1⟩, ends.2⟩
  · obtain ⟨isFile, found, rest⟩ := ends
    have answered : isFile = (disk.content artifact.place).isSome := found
    rw [absent] at answered
    rw [answered] at rest
    exact ⟨⟨_, rest.1⟩, rest.2⟩

theorem createEnvironment_refused {artifact : Source} {python : Option Text} {directory : VersionDirectory}
    {outcome : Except Raised VersionEnvironment} (valid : validateVersion name = .ok name)
    (there : disk.versions name = some directory) (bare : directory.environment = none)
    (absent : disk.content artifact.place = none)
    (ends : (machine around).Ends (createEnvironment around root name artifact python) disk outcome disk') :
    (∃ raised, outcome = .error raised) ∧ disk' = disk := by
  rw [createEnvironment_eq valid] at ends
  obtain ⟨dropped, middle, ⟨found, answered, drop⟩, afterDrop⟩ := ends_resume.mp ends
  have no : found = false := by
    refine Eq.trans answered ?_
    rw [Disk.environment, there, Option.bind_some, bare]
    rfl
  rw [no] at drop
  obtain ⟨rfl, rfl⟩ := drop
  obtain ⟨made, later, ⟨reply, _, make⟩, afterMake⟩ := ends_resume.mp afterDrop
  cases reply with
  | error raised =>
    obtain ⟨rfl, rfl⟩ := make
    exact ⟨⟨_, afterMake.1⟩, afterMake.2⟩
  | ok _ =>
    obtain ⟨rfl, same⟩ := make
    have kept : later = _ := same.trans (after_makeVersion there)
    obtain ⟨staged, last, stage, afterStage⟩ := ends_resume.mp afterMake
    obtain ⟨⟨raised, rfl⟩, unchanged⟩ := stageArtifact_refused (kept ▸ absent) stage
    exact ⟨⟨raised, afterStage.1⟩, afterStage.2.trans (unchanged.trans kept)⟩

/-- A version that was there is not discarded. -/
theorem discard_existing {raised : Raised} {outcome : Except Raised VersionEnvironment}
    (ends : (machine around).Ends (discard name true raised) disk outcome disk') :
    outcome = .error raised ∧ disk' = disk := by
  unfold discard at ends
  rw [if_neg (by rw [Bool.not_true, Bool.and_false]; exact Bool.false_ne_true)] at ends
  exact ends

/-- An install that touches nothing keeps everything. -/
theorem untouched_keeps (untouched : Untouched around request disk) : InstallKeeps around request disk := by
  intro raised disk' ends
  have unchanged : disk' = disk := by
    rcases resolved : resolveInstallRoot around request.installRoot request.guarded with refused | root
    · rw [install, resolved] at ends
      exact ends.2
    · rcases valid : validateVersion request.version with refused | name
      · rw [install, resolved, valid] at ends
        exact ends.2
      · rw [install_eq resolved valid] at ends
        rcases untouched with ⟨wrong, same⟩ | ⟨wrong, same⟩ | ⟨directory, there, bare, absent⟩
        · exact nomatch resolved.symm.trans same
        · exact nomatch valid.symm.trans same
        · rw [validateVersion_eq valid] at there
          obtain ⟨existed, answered, ends⟩ := ends
          have yes : existed = true := answered.trans (by rw [there]; rfl)
          obtain ⟨built, middle, build, afterBuild⟩ := ends_resume.mp ends
          obtain ⟨ended, before, create, handled⟩ := ends_resume.mp build
          obtain ⟨⟨inner, rfl⟩, kept⟩ :=
            createEnvironment_refused (valid_again valid) there bare absent create
          rw [yes] at handled
          obtain ⟨rfl, same⟩ := discard_existing handled
          exact afterBuild.2.trans (same.trans kept)
  rw [unchanged]
  exact unharmed_refl _ disk

/-! ### What harms a version -/

/-- An install whose environment is not made raises, after the version was discarded or not. -/
theorem install_raises {raised : Raised} {middle : Disk}
    (resolved : resolveInstallRoot around request.installRoot request.guarded = .ok root)
    (valid : validateVersion request.version = .ok name)
    (create : (machine around).Ends (createEnvironment around root name request.artifact request.python) disk
      (.error raised) middle)
    (handled : (machine around).Ends (discard name (disk.versions name).isSome raised) middle
      (.error raised) disk') :
    (machine around).Ends (install around request) disk (.error raised) disk' := by
  rw [install_eq resolved valid]
  exact ends_call _ rfl (Ends.raises (Ends.rescue create handled))

/-- **An install of a version that has an environment can lose it**: it is removed first, and what fails next is not
undone. -/
theorem existing_harmed {directory : VersionDirectory} {environment : Environment}
    (resolved : resolveInstallRoot around request.installRoot request.guarded = .ok root)
    (valid : validateVersion request.version = .ok name) (there : disk.versions name = some directory)
    (built : directory.environment = some environment) : ¬ InstallKeeps around request disk := by
  intro keeps
  have present : (disk.environment name).isSome = true := by
    rw [Disk.environment, there, Option.bind_some, built]
    rfl
  have dropped : (machine around).Ends (dropEnvironment name) disk (.ok ()) (disk.withEnvironment name none) :=
    ends_call true present.symm (ends_call (.ok ()) trivial ⟨rfl, rfl⟩)
  have create : (machine around).Ends (createEnvironment around root name request.artifact request.python) disk
      (.error (.fault (.os []))) (disk.withEnvironment name none) := by
    rw [createEnvironment_eq (valid_again valid)]
    exact dropped.bind (Ends.raises (ends_call (.error (.os [])) trivial ⟨rfl, rfl⟩))
  have handled : (machine around).Ends (discard name (disk.versions name).isSome (.fault (.os [])))
      (disk.withEnvironment name none) (.error (.fault (.os []))) (disk.withEnvironment name none) := ⟨rfl, rfl⟩
  obtain ⟨now, found, kept⟩ :=
    (keeps _ _ (install_raises resolved valid create handled)).versions name directory there
  have bare : now.environment = none := by
    have removed : (disk.withEnvironment name none).versions name =
        some { directory with environment := none } := by
      rw [Disk.withEnvironment, change_versions, there]
      rfl
    rw [removed] at found
    exact congrArg VersionDirectory.environment (Option.some.inj found).symm
  exact nomatch bare.symm.trans (kept.environment environment built)

/-- Staging an artifact can fail and leave everything as it is. -/
theorem stageArtifact_fails (around : Surroundings) (disk : Disk) (root : Path)
    (valid : validateVersion name = .ok name) (artifact : Source) :
    ∃ raised, (machine around).Ends (stageArtifact root name artifact) disk (.error raised) disk := by
  by_cases there : (disk.node artifact.place).isSome
  · by_cases isFile : (disk.content artifact.place).isSome
    · refine ⟨.fault (.os []), ends_call true there.symm (ends_call true isFile.symm ?_)⟩
      refine Ends.bind (ends_ofExcept.mpr ⟨(versionDirectory_eq valid).symm, rfl⟩) ?_
      exact Ends.raises (ends_call (.error (.os [])) trivial ⟨rfl, rfl⟩)
    · refine ⟨packageRefused "artifact_not_a_file" artifact.text, ends_call true there.symm ?_⟩
      exact ends_call false (Bool.not_eq_true _ ▸ isFile).symm ⟨rfl, rfl⟩
  · exact ⟨packageRefused "artifact_missing" artifact.text,
      ends_call false (Bool.not_eq_true _ ▸ there).symm ⟨rfl, rfl⟩⟩

/-- The directory of a version that was made can stay. -/
theorem discard_leaves (around : Surroundings) {directory : VersionDirectory}
    (there : disk.versions name = some directory) (raised : Raised) :
    ∃ disk', (machine around).Ends (discard name false raised) disk (.error raised) disk' ∧
      disk'.versions name = some directory := by
  by_cases package : raised.isPackageError = true
  · have whole : directory.Remains directory :=
      ⟨fun part same => ⟨part, same, List.Sublist.refl _⟩, fun _ _ same => same, fun _ same => same⟩
    refine ⟨disk.change name fun _ => some directory, ?_, ?_⟩
    · unfold discard
      rw [if_pos (by rw [package]; rfl)]
      have present : true = (disk.versions name).isSome := by rw [there]; rfl
      refine ends_call true present (ends_call (some directory) ?_ ⟨rfl, rfl⟩)
      rintro _ ⟨⟩
      exact ⟨directory, there, whole⟩
    · exact change_versions disk name _
  · refine ⟨disk, ?_, there⟩
    unfold discard
    rw [if_neg (by simpa using package)]
    exact ⟨rfl, rfl⟩

/-- **An install of a new version can leave its directory**: what is no `PackageError` is not
cleaned up, and what is cleaned up may stay. -/
theorem new_harmed (resolved : resolveInstallRoot around request.installRoot request.guarded = .ok root)
    (valid : validateVersion request.version = .ok name) (new : disk.versions name = none) :
    ¬ InstallKeeps around request disk := by
  intro keeps
  have absent : (disk.environment name).isSome = false := by
    rw [Disk.environment, new]
    rfl
  let made := disk.change name fun found => some (found.getD ⟨none, fun _ => none, none⟩)
  have there : made.versions name = some ⟨none, fun _ => none, none⟩ := by
    show (disk.change name _).versions name = _
    rw [change_versions, new]
    rfl
  obtain ⟨raised, failed⟩ := stageArtifact_fails around made root (valid_again valid) request.artifact
  have create : (machine around).Ends (createEnvironment around root name request.artifact request.python) disk
      (.error raised) made := by
    rw [createEnvironment_eq (valid_again valid)]
    refine Ends.bind (ends_call false absent.symm ⟨rfl, rfl⟩) ?_
    refine Ends.bind (ends_call (.ok ()) trivial ⟨rfl, rfl⟩) ?_
    exact Ends.raises failed
  obtain ⟨disk', handled, left⟩ := discard_leaves around there raised
  have ends := install_raises resolved valid create (by rw [new]; exact handled)
  rw [(keeps _ _ ends).fresh name new] at left
  cases left

/-! ### A run that fails last -/

theorem artifact_withEnvironment (disk : Disk) (name version file : Text) (environment : Option Environment) :
    (disk.withEnvironment name environment).artifact version file = disk.artifact version file := by
  unfold Disk.artifact Disk.withEnvironment Disk.change
  by_cases same : version = name
  · rw [same]
    dsimp only
    rw [Function.update_self]
    cases disk.versions name <;> rfl
  · dsimp only
    rw [Function.update_of_ne same]

theorem versions_of_artifact {file : Text} (staged : (disk.artifact name file).isSome) :
    ∃ directory, disk.versions name = some directory := by
  unfold Disk.artifact at staged
  cases found : disk.versions name with
  | none =>
    rw [found] at staged
    cases staged
  | some directory => exact ⟨directory, rfl⟩

/-- A command can succeed. -/
theorem run_succeeds (disk : Disk) (name : Text) (argv : List Text) (environment : Option Environment) :
    (machine around).Ends (run name argv) disk (.ok ⟨0, [], []⟩) (disk.withEnvironment name environment) :=
  ends_call (.ok ⟨0, [], []⟩, environment) trivial ⟨rfl, rfl⟩

theorem stageArtifact_succeeds (around : Surroundings) (root : Path) {artifact : Source}
    {directory : VersionDirectory} (valid : validateVersion name = .ok name)
    (there : disk.versions name = some directory)
    (content : (disk.content artifact.place).isSome) :
    ∃ staged disk', (machine around).Ends (stageArtifact root name artifact) disk (.ok staged) disk' ∧
      (disk'.artifact name artifact.name).isSome := by
  have node : (disk.node artifact.place).isSome := by
    unfold Disk.content at content
    split at content
    · next found => rw [found]; rfl
    · cases content
  obtain ⟨disk', copied, staged⟩ : ∃ disk', (machine around).Ends (copyArtifact artifact name) disk (.ok ()) disk' ∧
      (disk'.artifact name artifact.name).isSome := by
    unfold copyArtifact
    split
    · refine ⟨disk.withArtifact name artifact.name (disk.content artifact.place),
        ends_call (.ok ()) content ⟨rfl, rfl⟩, ?_⟩
      rw [Disk.artifact, Disk.withArtifact, change_versions, there]
      simpa using content
    · next own =>
      refine ⟨disk, ⟨rfl, rfl⟩, ?_⟩
      rw [not_not.mp own] at node
      simpa [Disk.node] using node
  obtain ⟨bytes, found⟩ := Option.isSome_iff_exists.mp staged
  refine ⟨((root.child ["versions", name]).child ["artifact", artifact.name], around.sha256 bytes), disk', ?_,
    staged⟩
  refine ends_call true node.symm (ends_call true content.symm ?_)
  refine Ends.bind (ends_ofExcept.mpr ⟨(versionDirectory_eq valid).symm, rfl⟩) ?_
  refine Ends.bind (ends_call (.ok ()) trivial ⟨rfl, rfl⟩) ?_
  refine Ends.bind copied ?_
  refine Ends.bind (ends_call (.ok (around.sha256 bytes)) ?_ ⟨rfl, rfl⟩)
    ⟨rfl, rfl⟩
  exact congrArg (Option.map around.sha256) found

theorem createVenv_succeeds (around : Surroundings) {file : Text}
    (staged : (disk.artifact name file).isSome) (venv : Path)
    (python : Option Text) : ∃ interpreter disk', (machine around).Ends (createVenv around name venv python) disk
      (.ok interpreter) disk' ∧ (disk'.artifact name file).isSome := by
  obtain ⟨directory, there⟩ := versions_of_artifact staged
  let bare : Environment := ⟨[("bin/python", [])]⟩
  have interpreter : true = ((disk.withEnvironment name (some bare)).environment name).any
      Environment.hasInterpreter := by
    rw [Disk.environment, Disk.withEnvironment, change_versions, there]
    show true = bare.hasInterpreter
    decide
  refine ⟨venv.child ["bin", "python"], disk.withEnvironment name (some bare), ?_, ?_⟩
  · refine Ends.bind (ends_call (.ok ()) trivial ⟨rfl, rfl⟩) ?_
    refine Ends.bind (run_succeeds disk name _ (some bare)) ?_
    refine Ends.bind ⟨rfl, rfl⟩ ?_
    exact ends_call true interpreter ⟨rfl, rfl⟩
  · rw [artifact_withEnvironment]
    exact staged

theorem furnish_succeeds (around : Surroundings) (root : Path) (python : Option Text) {artifact : Source}
    {directory : VersionDirectory} (valid : validateVersion name = .ok name)
    (there : disk.versions name = some directory)
    (content : (disk.content artifact.place).isSome) :
    ∃ environment disk', (machine around).Ends (furnish around root name artifact python) disk (.ok environment)
      disk' ∧ environment.version = name ∧ (disk'.artifact name environment.artifactName).isSome := by
  obtain ⟨staged, first, stage, kept⟩ := stageArtifact_succeeds around root valid there content
  let home := root.child ["versions", name]
  obtain ⟨interpreter, second, venv, kept⟩ := createVenv_succeeds around kept (home.child ["venv"]) python
  let bare := second.withEnvironment name none
  refine ⟨⟨name, home, home.child ["venv"], interpreter, staged.1, artifact.name, staged.2,
    sortedBy id (strippedLines []), home.child ["lockfile.json"]⟩, bare.withEnvironment name none, ?_, rfl, ?_⟩
  · refine Ends.bind stage (Ends.bind venv ?_)
    refine Ends.bind (Ends.bind (run_succeeds second name _ none) ⟨rfl, rfl⟩) ?_
    refine Ends.bind ?_ ⟨rfl, rfl⟩
    exact Ends.bind (run_succeeds bare name _ none) ⟨rfl, rfl⟩
  · rw [artifact_withEnvironment, artifact_withEnvironment]
    exact kept

theorem writeJsonAtomic_succeeds (disk : Disk) (target : Document) (payload : Json) :
    (machine around).Ends (writeJsonAtomic target payload) disk (.ok ())
      (after disk (.replace target payload) (.ok ())) := by
  refine Ends.bind (ends_call (.ok ()) trivial ⟨rfl, rfl⟩) ?_
  refine Ends.bind (ends_call (.ok ()) trivial ⟨rfl, rfl⟩) ?_
  exact ends_call (.ok ()) (by cases target <;> exact trivial) ⟨rfl, rfl⟩

/-- Everything can be done before the last line of the history fails. -/
theorem register_fails (around : Surroundings) {environment : VersionEnvironment}
    (valid : validateVersion environment.version = .ok environment.version)
    (staged : (disk.artifact environment.version environment.artifactName).isSome) :
    ∃ disk', (machine around).Ends (register around environment) disk (.error (.fault (.os []))) disk' ∧
      disk'.history = disk.history ++ [.broken] := by
  obtain ⟨bytes, found⟩ := Option.isSome_iff_exists.mp staged
  have size : Permitted around disk (.artifactSize environment.version environment.artifactName)
      (.ok bytes.length) := congrArg (Option.map List.length) found
  obtain ⟨lockfile, serialized⟩ : ∃ lockfile,
      (machine around).Ends (serializeLockfile around environment) disk (.ok lockfile) disk :=
    ⟨_, Ends.bind (ends_call (.ok bytes.length) size ⟨rfl, rfl⟩)
      (ends_call ⟨0⟩ trivial ⟨rfl, rfl⟩)⟩
  let locked := after disk (.replace (.lockfile environment.version) lockfile) (.ok ())
  let pointer : Json := .obj [("layout", .int 1), ("active", .str environment.version), ("updated_at", .float ⟨0⟩)]
  let pointed := after locked (.replace .current pointer) (.ok ())
  have activated : (machine around).Ends (activate environment.version) locked (.ok ()) pointed :=
    Ends.bind (ends_ofExcept.mpr ⟨valid.symm, rfl⟩) (ends_call ⟨0⟩ trivial (writeJsonAtomic_succeeds _ _ _))
  have recorded (record : Json) : (machine around).Ends (appendHistory record) pointed (.error (.fault (.os [])))
      { pointed with history := pointed.history ++ [.broken] } :=
    Ends.bind (ends_call (.ok ()) trivial ⟨rfl, rfl⟩)
      (ends_call (.error (.os [], true)) trivial ⟨rfl, rfl⟩)
  refine ⟨{ pointed with history := pointed.history ++ [.broken] }, ?_, rfl⟩
  refine Ends.bind serialized (Ends.bind (writeJsonAtomic_succeeds _ _ _) (Ends.bind activated ?_))
  exact ends_call ⟨0⟩ trivial (Ends.raises (recorded _))

/-- **An install that could go through can still fail**: the pointer and the history are written when the last
operation raises. -/
theorem last_harmed {directory : VersionDirectory}
    (resolved : resolveInstallRoot around request.installRoot request.guarded = .ok root)
    (valid : validateVersion request.version = .ok name) (there : disk.versions name = some directory)
    (bare : directory.environment = none) (content : (disk.content request.artifact.place).isSome) :
    ¬ InstallKeeps around request disk := by
  intro keeps
  have absent : (disk.environment name).isSome = false := by
    rw [Disk.environment, there, Option.bind_some, bare]
    rfl
  obtain ⟨environment, middle, furnished, version, staged⟩ :=
    furnish_succeeds around root request.python (valid_again valid) there content
  have made : (machine around).Ends (.call (.makeVersion name) attempt) disk (.ok ()) disk :=
    ends_call (.ok ()) trivial ⟨rfl, (after_makeVersion there).symm⟩
  have create : (machine around).Ends (createEnvironment around root name request.artifact request.python) disk
      (.ok environment) middle := by
    rw [createEnvironment_eq (valid_again valid)]
    exact Ends.bind (ends_call false absent.symm ⟨rfl, rfl⟩) (made.bind furnished)
  obtain ⟨disk', registered, grown⟩ :=
    register_fails around (version.symm ▸ valid_again valid) (version.symm ▸ staged)
  have ends : (machine around).Ends (install around request) disk (.error (.fault (.os []))) disk' := by
    rw [install_eq resolved valid]
    exact ends_call _ rfl (Ends.bind (Ends.returns create) registered)
  have same := (keeps _ _ ends).history
  rw [grown, (ledger_of_inner (createEnvironment_inner _ _ _ _ _) create).2] at same
  exact absurd (List.append_right_eq_self.mp same) (List.cons_ne_nil _ _)

/-- **A failed install changes nothing exactly where it touches nothing.** -/
theorem install_keeps_iff (around : Surroundings) (request : Request) (disk : Disk) :
    InstallKeeps around request disk ↔ Untouched around request disk := by
  refine ⟨fun keeps => ?_, untouched_keeps⟩
  rcases resolved : resolveInstallRoot around request.installRoot request.guarded with refused | root
  · exact .inl ⟨refused, resolved⟩
  · rcases valid : validateVersion request.version with refused | name
    · exact .inr (.inl ⟨refused, valid⟩)
    · rcases there : disk.versions name with _ | directory
      · exact (new_harmed resolved valid there keeps).elim
      · rcases built : directory.environment with _ | environment
        · by_cases content : (disk.content request.artifact.place).isSome
          · exact (last_harmed resolved valid there built content keeps).elim
          · refine .inr (.inr ⟨directory, ?_, built, ?_⟩)
            · rw [validateVersion_eq valid, there]
            · simpa using content
        · exact (existing_harmed resolved valid there built keeps).elim

end Parts

/-! ### A retry of the active version -/

/-- A file system that never fails, and commands that do. -/
def refusing (disk : Disk) : (op : PackageOp) → PackageReply op
  | .run _ _ => (.ok ⟨1, [], "No space left on device\n"⟩, none)
  | op => obliging disk op

theorem refusing_permitted (disk : Disk) (op : PackageOp) :
    (machine sampleSurroundings).permits disk op (refusing disk op) := by
  cases op with
  | run name argv => exact trivial
  | _ => exact obliging_permitted disk _

/-- The artifact again, as the version that is active. -/
def sampleRetry : Request := ⟨"/opt", "1.0.0", ⟨"/w.whl", "w.whl", .elsewhere "/w.whl"⟩, none, none⟩

/-- A retry of the active version whose environment cannot be built. -/
def retried : Option (Except Raised JsonObject × Disk) :=
  (machine sampleSurroundings).play refusing (install sampleSurroundings sampleRetry) (sampleDisk 1)

/-- The active version is installed again, its new environment is not built, and the old one is gone. -/
theorem install_loses : (sampleDisk 1).active .ascii = "1.0.0" ∧
    ¬ InstallKeeps sampleSurroundings sampleRetry (sampleDisk 1) := by
  refine ⟨by decide +kernel, fun keeps => ?_⟩
  have before : (sampleDisk 1).environment "1.0.0" = some ⟨[("bin/python", [])]⟩ := by decide +kernel
  have raises : (retried.any fun ended => !ended.1.isOk && (ended.2.environment "1.0.0").isNone) = true := by
    decide +kernel
  obtain ⟨⟨outcome, disk'⟩, played, shown⟩ := (Option.any_eq_true _ _).mp raises
  obtain ⟨failed, lost⟩ := (Bool.and_eq_true _ _).mp shown
  have ends := ends_play refusing_permitted played
  cases outcome with
  | ok answer => cases failed
  | error raised =>
    obtain ⟨was, there, built⟩ := Option.bind_eq_some_iff.mp before
    obtain ⟨now, found, kept⟩ := (keeps raised disk' ends).versions "1.0.0" was there
    have still : disk'.environment "1.0.0" = some ⟨[("bin/python", [])]⟩ :=
      Option.bind_eq_some_iff.mpr ⟨now, found, kept.environment _ built⟩
    rw [still] at lost
    cases lost

end AxiomMcp.Release
