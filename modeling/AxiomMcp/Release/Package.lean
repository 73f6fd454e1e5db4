/-
**Installing a version (`release/package.py`).**

An install root has one directory for each version, with its environment, its staged artifacts and its lockfile, and
besides them the pointer to the active version and the history. `install` asks the file system and its commands one
operation after another (`PackageOp`).

* `validateVersion`, `resolveInstallRoot`: what is refused before anything is touched;
* `stageArtifact`, `createVenv`, `installArtifact`, `freeze`, `createEnvironment`: the environment of a version;
* `install`: the version is installed and made the active one;
* `machine`: what the operations find and leave. Each of them may fail, and may have done a part of its work then.
-/

import AxiomMcp.Lib.Ends
import AxiomMcp.Lib.Json
import AxiomMcp.Lib.Sorted
import AxiomMcp.Security.Tokens

namespace AxiomMcp.Release

open Lib Program Machine

/-! ### Errors -/

/-- What the operating system or the interpreter raises. -/
inductive Fault
  | os (message : Text)
  | timeout (message : Text)
  | other (kind : Text) (message : Text)
  deriving DecidableEq

/-- What `install` raises: a `PackageError`, which may be a `PackageRefused`, or something else. -/
inductive Raised
  | package (code detail : Text) (refused : Bool)
  | fault (raised : Fault)
  deriving DecidableEq

/-- `raise PackageError(code, detail)` -/
def packageError (code detail : Text) : Raised := .package code detail false

/-- `raise PackageRefused(code, detail)` -/
def packageRefused (code detail : Text) : Raised := .package code detail true

/-- `except PackageError` -/
def Raised.isPackageError : Raised → Bool
  | .package _ _ _ => true
  | .fault _ => false

/-! ### Paths -/

/-- A `pathlib.Path`. -/
structure Path where
  absolute : Bool
  parts : List Text
  deriving DecidableEq

namespace Path

/-- `pathlib.Path(text)` -/
def ofText (text : Text) : Path :=
  ⟨Text.startsWith text "/", (text.splitOnP fun c => c = 0x2f).filter fun part => part ≠ [] && part ≠ "."⟩

/-- `str(path)` -/
def text (path : Path) : Text :=
  if path.absolute then ("/" : Text) ++ Text.join "/" path.parts
  else if path.parts = [] then "."
  else Text.join "/" path.parts

/-- `path / a / b` -/
def child (path : Path) (names : List Text) : Path := ⟨path.absolute, path.parts ++ names⟩

/-- `candidate == root or root in candidate.parents` -/
def isWithin (candidate root : Path) : Bool :=
  candidate.absolute = root.absolute && root.parts.isPrefixOf candidate.parts

end Path

/-- What `install` finds in its own process. -/
structure Surroundings where
  sha256 : Bytes → Text
  /-- `path.resolve()` -/
  resolve : Path → Except Fault Path
  /-- `protected_roots()` -/
  protectedRoots : List Path
  /-- `sys.executable` -/
  executable : Text
  /-- `sys.version.split()[0]` -/
  pythonVersion : Text
  /-- `version.VERSION` -/
  marker : Text

/-! ### What is refused -/

/-- `[A-Za-z0-9][A-Za-z0-9._+-]{0,63}` -/
def isVersionName : Text → Bool
  | [] => false
  | first :: rest =>
    (Text.isLetterAscii first || Text.isDigitAscii first) && rest.length ≤ 63 &&
      rest.all fun c => Text.isLetterAscii c || Text.isDigitAscii c || Text.contains "._+-" [c]

/-- `validate_version(version)` -/
def validateVersion (version : Text) : Except Raised Text :=
  if isVersionName version.strip then .ok version.strip
  else .error (packageRefused "version_invalid" (if version.strip = [] then "empty" else version.strip))

/-- What `guard_install_root` raises. -/
inductive GuardRaised
  | refused (reasons : List Text)
  | fault (raised : Fault)

/-- `guard_install_root(text, protected)` -/
def guardInstallRoot (around : Surroundings) (installRoot : Text) (guarded : Option (List Path)) :
    Except GuardRaised Unit := do
  let text := installRoot.strip
  if text = [] then .error (.refused ["install_root_empty"])
  else if !(Path.ofText text).absolute then
    .error (.refused [Text.format ["install_root_not_absolute:", text]])
  else do
    let resolved ←
      match around.resolve (Path.ofText text) with
      | .ok resolved => .ok resolved
      | .error (.other kind message) => .error (.fault (.other kind message))
      | .error _ => .ok (Path.ofText text)
    match (guarded.getD around.protectedRoots).find? fun root =>
      resolved.isWithin root || root.isWithin resolved with
    | some root => .error (.refused [Text.format ["in_place_upgrade_prohibited:", root.text]])
    | none => .ok ()

/-- `resolve_install_root(install_root, protected=protected)` -/
def resolveInstallRoot (around : Surroundings) (installRoot : Text) (guarded : Option (List Path)) :
    Except Raised Path :=
  let text := installRoot.strip
  if text = [] then .error (packageRefused "install_root_invalid" "install_root_empty")
  else
    match guardInstallRoot around text guarded with
    | .error (.refused reasons) => .error (packageRefused "install_root_invalid" (Text.join "; " reasons))
    | .error (.fault raised) => .error (.fault raised)
    | .ok () => (around.resolve (Path.ofText text)).mapError .fault

/-- `version_directory(install_root, version)` -/
def versionDirectory (root : Path) (version : Text) : Except Raised Path := do
  let name ← validateVersion version
  .ok (root.child ["versions", name])

/-! ### The install root -/

/-- The files of an environment. -/
structure Environment where
  files : List (Text × Bytes)
  deriving DecidableEq

/-- Its interpreter is there. -/
def Environment.hasInterpreter (environment : Environment) : Bool :=
  environment.files.any fun file => file.1 = "bin/python"

/-- The directory of a version. -/
structure VersionDirectory where
  environment : Option Environment
  artifacts : Text → Option Bytes
  /-- What `json.loads` makes of the lockfile. -/
  lockfile : Option Json

/-- What a path is. -/
inductive Node
  | file (content : Bytes)
  | folder

/-- Where a path leads to. -/
inductive Place
  | staged (version name : Text)
  | installed (version path : Text)
  | elsewhere (path : Text)
  deriving DecidableEq

/-- The path of an artifact: its text, its last part and where it leads to. -/
structure Source where
  text : Text
  name : Text
  place : Place
  deriving DecidableEq

/-- A line of `history.jsonl`: a record as `json.loads` reads it, or what a failed write left of one. -/
inductive HistoryLine
  | record (value : Json)
  | broken

/-- The install root, and the files out of it. -/
structure Disk where
  versions : Text → Option VersionDirectory
  current : Option Json
  history : List HistoryLine
  elsewhere : Text → Option Node

/-- The record of a line, if it is an object. -/
def HistoryLine.object? : HistoryLine → Option JsonObject
  | .record value => value.object?
  | .broken => none

namespace Disk

variable (disk : Disk)

/-- The records of the history, oldest first. -/
def records : List JsonObject := disk.history.filterMap HistoryLine.object?

def environment (name : Text) : Option Environment := (disk.versions name).bind VersionDirectory.environment

/-- A staged artifact. -/
def artifact (version name : Text) :
    Option Bytes := (disk.versions version).bind fun directory => directory.artifacts name

/-- What a path leads to. -/
def node : Place → Option Node
  | .staged version name => (disk.artifact version name).map .file
  | .installed version path => (disk.environment version).bind fun environment =>
    (environment.files.lookup path).map .file
  | .elsewhere path => disk.elsewhere path

/-- The content of the file that a path leads to. -/
def content (place : Place) : Option Bytes :=
  match disk.node place with
  | some (.file content) => some content
  | _ => none

/-- One version is changed. -/
def change (name : Text) (step : Option VersionDirectory → Option VersionDirectory) : Disk :=
  { disk with versions := Function.update disk.versions name (step (disk.versions name)) }

/-- The environment of a version is replaced. -/
def withEnvironment (name : Text) (environment : Option Environment) : Disk :=
  disk.change name (Option.map fun directory => { directory with environment := environment })

/-- A staged artifact is replaced. -/
def withArtifact (version name : Text) (content : Option Bytes) : Disk :=
  disk.change version
    (Option.map fun directory => { directory with artifacts := Function.update directory.artifacts name content })

end Disk

/-! ### Operations -/

/-- A JSON document of the install root. -/
inductive Document
  | lockfile (version : Text)
  | current

/-- `CommandResult` -/
structure CommandResult where
  returncode : ℤ
  stdout : Text
  stderr : Text

/-- What `install` asks. -/
inductive PackageOp
  /-- `version_dir.exists()` -/
  | versionExists (name : Text)
  /-- `venv_dir.exists()` -/
  | environmentExists (name : Text)
  /-- `shutil.rmtree(venv_dir)` -/
  | removeEnvironment (name : Text)
  /-- `root.mkdir(parents=True, exist_ok=True)` -/
  | makeVersion (name : Text)
  | sourceExists (artifact : Source)
  | sourceIsFile (artifact : Source)
  /-- `target_dir.mkdir(parents=True, exist_ok=True)` -/
  | makeArtifacts (name : Text)
  /-- `shutil.copy2(source, target)` -/
  | copy (artifact : Source) (name : Text)
  /-- `sha256_file(target)` -/
  | digest (name file : Text)
  /-- `directory.parent.mkdir(parents=True, exist_ok=True)` -/
  | makeParent (name : Text)
  /-- `run(argv)`, for the environment of a version -/
  | run (name : Text) (argv : List Text)
  /-- `venv_python(directory).exists()` -/
  | interpreterExists (name : Text)
  /-- `artifact.stat().st_size` -/
  | artifactSize (name file : Text)
  /-- `_now(clock)` -/
  | clock
  /-- `path.parent.mkdir(parents=True, exist_ok=True)` -/
  | makeFolder (target : Document)
  | writeTemporary (target : Document) (payload : Json)
  /-- `os.replace(temporary, path)` -/
  | replace (target : Document) (payload : Json)
  /-- `root.mkdir(parents=True, exist_ok=True)` -/
  | makeRoot
  /-- `json.dumps(record, sort_keys=True)` is written as a line at the end of `history.jsonl`. -/
  | appendHistory (record : Json)
  /-- `shutil.rmtree(version_dir, ignore_errors=True)` -/
  | cleanup (name : Text)
  /-- `history(root)` -/
  | readHistory
  /-- `read_current(root)` -/
  | readCurrent
  /-- `read_lockfile(version_dir)` -/
  | readLockfile (name : Text)
  /-- `staged.exists()` -/
  | stagedExists (name file : Text)

/-- The replies. What fails tells what it left; a command tells the environment after it. -/
abbrev PackageReply : PackageOp → Type
  | .versionExists _ | .environmentExists _ | .sourceExists _ | .sourceIsFile _ | .interpreterExists _ => Bool
  | .removeEnvironment _ => Except (Fault × Environment) Unit
  | .makeVersion _ | .makeArtifacts _ | .makeParent _ | .makeFolder _ | .writeTemporary _ _ | .replace _ _
  | .makeRoot => Except Fault Unit
  | .copy _ _ => Except (Fault × Option Bytes) Unit
  | .digest _ _ => Except Fault Text
  | .run _ _ => Except Fault CommandResult × Option Environment
  | .artifactSize _ _ => Except Fault ℕ
  | .clock => PyFloat
  | .appendHistory _ => Except (Fault × Bool) Unit
  | .cleanup _ => Option VersionDirectory
  | .readHistory => Except Fault (List JsonObject)
  | .readCurrent => Except Raised (Option JsonObject)
  | .readLockfile _ => Except Raised JsonObject
  | .stagedExists _ _ => Bool

/-- A part of an install. -/
abbrev PackageProgram (α : Type) := Program PackageOp PackageReply Raised α

/-- What an operation raises is raised. -/
def attempt {α : Type} : Except Fault α → PackageProgram α
  | .ok value => .done value
  | .error raised => .raise (.fault raised)

/-- What an operation that leaves something raises is raised. -/
def attemptPart {α β : Type} : Except (Fault × β) α → PackageProgram α
  | .ok value => .done value
  | .error (raised, _) => .raise (.fault raised)

/-! ### Commands -/

/-- The stripped lines of a text that are not blank. The blank line in `\\r\\n` is one of the others. -/
def strippedLines (text : Text) : List Text :=
  ((text.splitOnP Security.isLineBreak).map Text.strip).filter fun line => line ≠ []

/-- `_first_error_line(result)` -/
def firstErrorLine (result : CommandResult) : Text :=
  match (strippedLines result.stderr).getLast? with
  | some line => line.take 300
  | none =>
    match (strippedLines result.stdout).getLast? with
    | some line => line.take 300
    | none => Text.format ["exit", Text.ofInt result.returncode]

/-- `run(argv)` -/
def run (name : Text) (argv : List Text) : PackageProgram CommandResult :=
  .call (.run name argv) fun reply => attempt reply.1

/-- A command that failed is raised. -/
def checkResult (code : Text) (result : CommandResult) : PackageProgram Unit :=
  if result.returncode ≠ 0 then .raise (packageError code (firstErrorLine result)) else .done ()

/-- `create_venv(venv_dir, python=python)` -/
def createVenv (around : Surroundings) (name : Text) (venv : Path) (python : Option Text) :
    PackageProgram Path := do
  .call (.makeParent name) attempt
  let interpreter := (python.filter fun text => text ≠ []).getD around.executable
  let result ← run name [interpreter, "-m", "venv", venv.text]
  checkResult "venv_creation_failed" result
  .call (.interpreterExists name) fun there =>
    if there then .done (venv.child ["bin", "python"])
    else .raise (packageError "venv_creation_failed"
      (Text.format ["no interpreter at ", (venv.child ["bin", "python"]).text]))

/-- `install_artifact(interpreter, artifact, force=force)` -/
def installArtifact (name : Text) (interpreter artifact : Path) (force : Bool) : PackageProgram Unit := do
  let result ← run name ([interpreter.text, "-m", "pip", "install", "--no-index", "--no-deps"] ++
    (if force then [("--force-reinstall" : Text)] else []) ++ [artifact.text])
  checkResult "install_failed" result

/-- `freeze(interpreter)` -/
def freeze (name : Text) (interpreter : Path) : PackageProgram (List Text) := do
  let result ← run name [interpreter.text, "-m", "pip", "freeze", "--all"]
  checkResult "freeze_failed" result
  .done (sortedBy id (strippedLines result.stdout))

/-! ### The environment of a version -/

/-- The artifact is copied, unless it is its own copy. -/
def copyArtifact (artifact : Source) (name : Text) : PackageProgram Unit :=
  if artifact.place ≠ .staged name artifact.name then .call (.copy artifact name) attemptPart else .done ()

/-- `stage_artifact(install_root, version, artifact)` -/
def stageArtifact (root : Path) (name : Text) (artifact : Source) : PackageProgram (Path × Text) :=
  .call (.sourceExists artifact) fun there =>
    if !there then .raise (packageRefused "artifact_missing" artifact.text)
    else .call (.sourceIsFile artifact) fun isFile =>
      if !isFile then .raise (packageRefused "artifact_not_a_file" artifact.text)
      else do
        let directory ← ofExcept (versionDirectory root name)
        .call (.makeArtifacts name) attempt
        copyArtifact artifact name
        let digest ← .call (.digest name artifact.name) attempt
        .done (directory.child ["artifact", artifact.name], digest)

/-- `VersionEnvironment` -/
structure VersionEnvironment where
  version : Text
  root : Path
  venvDir : Path
  python : Path
  artifact : Path
  artifactName : Text
  artifactSha256 : Text
  frozen : List Text
  lockfile : Path

/-- `environment.as_dict()` -/
def VersionEnvironment.asDict (environment : VersionEnvironment) : JsonObject :=
  [("version", .str environment.version), ("root", .str environment.root.text),
    ("venv", .str environment.venvDir.text), ("python", .str environment.python.text),
    ("artifact", .str environment.artifact.text), ("artifact_sha256", .str environment.artifactSha256),
    ("frozen", .arr (environment.frozen.map .str)), ("lockfile", .str environment.lockfile.text)]

/-- An environment that is there already is removed. -/
def dropEnvironment (name : Text) : PackageProgram Unit :=
  .call (.environmentExists name) fun there =>
    if there then .call (.removeEnvironment name) attemptPart else .done ()

/-- `create_environment(install_root, version, artifact=artifact, python=python)` -/
def createEnvironment (around : Surroundings) (root : Path) (version : Text) (artifact : Source)
    (python : Option Text) : PackageProgram VersionEnvironment := do
  let name ← ofExcept (validateVersion version)
  let directory ← ofExcept (versionDirectory root name)
  let venv := directory.child ["venv"]
  dropEnvironment name
  .call (.makeVersion name) attempt
  let (staged, digest) ← stageArtifact root name artifact
  let interpreter ← createVenv around name venv python
  installArtifact name interpreter staged false
  let installed ← freeze name interpreter
  .done ⟨name, directory, venv, interpreter, staged, artifact.name, digest, installed,
    directory.child ["lockfile.json"]⟩

/-! ### Installing -/

/-- `serialize_lockfile(environment, clock=clock)` -/
def serializeLockfile (around : Surroundings) (environment : VersionEnvironment) : PackageProgram Json := do
  let size ← .call (.artifactSize environment.version environment.artifactName) attempt
  .call .clock fun now => .done (.obj [("layout", .int 1), ("version", .str environment.version),
    ("artifact", .obj [("name", .str environment.artifactName), ("sha256", .str environment.artifactSha256),
      ("size", .int size)]),
    ("python", .obj [("executable", .str environment.python.text), ("version", .str around.pythonVersion),
      ("marker", .str around.marker)]),
    ("venv", .str "venv"), ("frozen", .arr (environment.frozen.map .str)), ("created_at", .float now)])

/-- `_write_json_atomic(path, payload)` -/
def writeJsonAtomic (target : Document) (payload : Json) : PackageProgram Unit := do
  .call (.makeFolder target) attempt
  .call (.writeTemporary target payload) attempt
  .call (.replace target payload) attempt

/-- `activate(install_root, version, clock=clock)` -/
def activate (version : Text) : PackageProgram Unit := do
  let name ← ofExcept (validateVersion version)
  .call .clock fun now =>
    writeJsonAtomic .current (.obj [("layout", .int 1), ("active", .str name), ("updated_at", .float now)])

/-- `append_history(install_root, record)` -/
def appendHistory (record : Json) : PackageProgram Unit := do
  .call .makeRoot attempt
  .call (.appendHistory record) attemptPart

/-- A failed install leaves no half-built version behind. -/
def discard (name : Text) (existed : Bool) (raised : Raised) : PackageProgram VersionEnvironment :=
  if raised.isPackageError && !existed then
    .call (.versionExists name) fun there =>
      if there then .call (.cleanup name) fun _ => .raise raised else .raise raised
  else .raise raised

/-- The record of an install. -/
def installRecord (environment : VersionEnvironment) (now : PyFloat) : Json :=
  .obj [("action", .str "install"), ("version", .str environment.version),
    ("artifact", .str environment.artifactName), ("artifact_sha256", .str environment.artifactSha256),
    ("frozen", .arr (environment.frozen.map .str)), ("at", .float now)]

/-- What `install` does once an environment is built. -/
def register (around : Surroundings) (environment : VersionEnvironment) : PackageProgram JsonObject := do
  let lockfile ← serializeLockfile around environment
  writeJsonAtomic (.lockfile environment.version) lockfile
  activate environment.version
  .call .clock fun now => do
    appendHistory (installRecord environment now)
    .done (environment.asDict ++
      ([("action", .str "install"), ("active", .str environment.version)] : JsonObject))

/-- What is to be installed. -/
structure Request where
  installRoot : Text
  version : Text
  artifact : Source
  python : Option Text
  guarded : Option (List Path)

/-- `install(install_root, version, artifact=artifact, python=python, protected=protected)` -/
def install (around : Surroundings) (request : Request) : PackageProgram JsonObject := do
  let root ← ofExcept (resolveInstallRoot around request.installRoot request.guarded)
  let name ← ofExcept (validateVersion request.version)
  let _ ← ofExcept (versionDirectory root name)
  .call (.versionExists name) fun existed => do
    let environment ← (createEnvironment around root name request.artifact request.python).rescue
      (discard name existed)
    register around environment

/-! ### What the operations find and leave -/

/-- What is left of an environment. -/
def Environment.Remains (left was : Environment) : Prop := left.files.Sublist was.files

/-- What is left of the directory of a version. -/
structure VersionDirectory.Remains (left was : VersionDirectory) : Prop where
  environment : ∀ part, left.environment = some part → ∃ whole, was.environment = some whole ∧ part.Remains whole
  artifacts : ∀ name content, left.artifacts name = some content → was.artifacts name = some content
  lockfile : ∀ lockfile, left.lockfile = some lockfile → was.lockfile = some lockfile

/-- What the file system may answer. -/
def Permitted (around : Surroundings) (disk : Disk) : (op : PackageOp) → PackageReply op → Prop
  | .versionExists name, there => there = (disk.versions name).isSome
  | .environmentExists name, there => there = (disk.environment name).isSome
  | .removeEnvironment name, .error (_, left) => ∃ was, disk.environment name = some was ∧ left.Remains was
  | .sourceExists artifact, there => there = (disk.node artifact.place).isSome
  | .sourceIsFile artifact, isFile => isFile = (disk.content artifact.place).isSome
  | .copy artifact _, .ok _ => (disk.content artifact.place).isSome
  | .copy artifact name, .error (_, left) => left = disk.artifact name artifact.name ∨
      ∃ whole part, disk.content artifact.place = some whole ∧ part <+: whole ∧ left = some part
  | .digest name file, .ok digest => (disk.artifact name file).map around.sha256 = some digest
  | .interpreterExists name, there => there = (disk.environment name).any Environment.hasInterpreter
  | .artifactSize name file, .ok size => (disk.artifact name file).map List.length = some size
  | .cleanup name, left => ∀ directory, left = some directory →
      ∃ was, disk.versions name = some was ∧ directory.Remains was
  | .readHistory, .ok records => HistoryLine.broken ∉ disk.history → records = disk.records
  | .readCurrent, .ok found => found = disk.current.bind Json.object?
  | .readLockfile name, .ok lockfile => (disk.versions name).bind VersionDirectory.lockfile = some (.obj lockfile)
  | .stagedExists name file, there => there = (disk.artifact name file).isSome
  | _, _ => True

/-- What an operation leaves. -/
def after (disk : Disk) : (op : PackageOp) → PackageReply op → Disk
  | .removeEnvironment name, .ok _ => disk.withEnvironment name none
  | .removeEnvironment name, .error (_, left) => disk.withEnvironment name (some left)
  | .makeVersion name, .ok _ => disk.change name fun directory => some (directory.getD ⟨none, fun _ => none, none⟩)
  | .copy artifact name, .ok _ => disk.withArtifact name artifact.name (disk.content artifact.place)
  | .copy artifact name, .error (_, left) => disk.withArtifact name artifact.name left
  | .run name _, (_, environment) => disk.withEnvironment name environment
  | .replace (.lockfile name) payload, .ok _ =>
    disk.change name (Option.map fun directory => { directory with lockfile := some payload })
  | .replace .current payload, .ok _ => { disk with current := some payload }
  | .appendHistory record, .ok _ => { disk with history := disk.history ++ [.record record] }
  | .appendHistory _, .error (_, true) => { disk with history := disk.history ++ [.broken] }
  | .cleanup name, left => disk.change name fun _ => left
  | _, _ => disk

/-- The file system and the commands. -/
def machine (around : Surroundings) : Machine PackageOp PackageReply Disk where
  permits := Permitted around
  after := after

end AxiomMcp.Release
