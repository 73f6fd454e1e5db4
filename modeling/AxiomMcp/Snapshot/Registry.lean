/-
**Trusted bindings (`registry.py`, `paths.py`).**

The registry turns a logical solution, project and lane into a `SnapshotLocation`, and a location names the
files below its root: `pointer`, `generationRoot` and `resolve`. A reference from the wire is checked
without the file system first (`parseWirePath`); only then is the root bound and the reference resolved, and
what it resolves to must lie inside the resolved root (`resolveWirePath`).
-/

import AxiomMcp.Query.Model
import AxiomMcp.Snapshot.Store

namespace AxiomMcp.Snapshot

open Lib Program
open Query (isSha256 isPortableRelative)

/-! ### Constants -/

/-- `LIVE_LANE` -/
def liveLane : Text := "live"

/-- `CHECKPOINT_LANE` -/
def checkpointLane : Text := "checkpoint"

/-- `LANES` -/
def lanes : List Text := [liveLane, checkpointLane]

/-- `CURRENT_POINTER_NAME` -/
def currentPointerName : Text := "current.json"

/-- `GENERATIONS_DIRNAME` -/
def generationsDirname : Text := "generations"

/-- `STAGING_DIRNAME` -/
def stagingDirname : Text := ".staging"

/-- `CATALOG_DIRNAME` -/
def catalogDirname : Text := "_catalog"

/-- The components of `GRAPH_OUTPUT_ROOT`. -/
def graphOutputRoot : List Text := [".axiom", "graph"]

/-- `RESERVED_WIRE_COMPONENTS` -/
def reservedWireComponents : List Text :=
  (["con", "prn", "aux", "nul"] : List Text) ++ (List.range 10).map (fun i => ("com" : Text) ++ Text.ofNat i) ++
    (List.range 10).map (fun i => ("lpt" : Text) ++ Text.ofNat i) ++
    (["com\u00b9", "com\u00b2", "com\u00b3", "lpt\u00b9", "lpt\u00b2", "lpt\u00b3"] : List Text)

/-- `UNPORTABLE_WIRE_CHARACTERS` -/
def unportableWireCharacters : Text := "<>:\"|?*"

section Paths

variable (py : Interpreter)

/-! ### References from the wire -/

/-- A `WirePathRejected`. -/
def wireRejected (complaint reference : Text) : Raised :=
  .path .wireRejected (Text.format [complaint, ": ", reference.pyRepr py.isPrintable])

/-- `_is_control(character)` -/
def isControl (c : CodePoint) : Bool := c.val < 0x20 || (0x7f ≤ c.val && c.val ≤ 0x9f)

/-- `_require_wire_component(component, reference)` -/
def requireWireComponent (reference component : Text) : Except Raised Unit :=
  let stem : Text := component.takeWhile fun c => c != codePoint '.'
  if component = [] then .error (wireRejected py "a wire path must not hold an empty segment" reference)
  else if component = "." then .error (wireRejected py "a wire path must not hold a '.' segment" reference)
  else if component = ".." then
    .error (wireRejected py "a wire path must not hold a '..' segment" reference)
  else
    match component.find? fun c => c ∈ unportableWireCharacters with
    | some c => .error (wireRejected py (Text.format ["a wire path component must not contain ",
        Text.pyRepr py.isPrintable [c]]) reference)
    | none =>
      if component.endsWith "." ∨ component.endsWith " " then
        .error (wireRejected py "a wire path component must not end with a dot or a space" reference)
      else if py.casefold stem ∈ reservedWireComponents then
        .error (wireRejected py (Text.format ["a wire path component must not be the reserved name ",
          stem.pyRepr py.isPrintable]) reference)
      else .ok ()

/-- `parse_wire_path(reference)`, by its components. -/
def parseWirePath (reference : Text) : Except Raised (List Text) :=
  if reference = [] then .error (.path .wireRejected "a wire path must not be empty")
  else if reference.any isControl then
    .error (wireRejected py "a wire path must not contain a control character" reference)
  else if codePoint '\\' ∈ reference then
    .error (wireRejected py "a wire path must separate with '/', not a backslash" reference)
  else if reference.startsWith "/" then
    .error (wireRejected py "a wire path must be relative, not absolute or UNC" reference)
  else if match reference with
      | letter :: colon :: _ => Text.isLetterAscii letter && colon == codePoint ':'
      | _ => false then
    .error (wireRejected py "a wire path must not be drive-qualified" reference)
  else do
    let parts := reference.splitOn (codePoint '/')
    parts.forM (requireWireComponent py reference)
    return parts

/-! ### Native paths -/

/-- `path.resolve()`, with what fails turned into an exception. -/
def resolvePath (path : Path) (failed : OSFault → Raised) : FileProgram Path :=
  .call (.resolve path) fun reply => ofExcept (reply.mapError failed)

/-- The check that a native root is absolute. -/
def requireAbsolute (root : Path) : Except Raised Unit :=
  if root.isAbsolute then .ok ()
  else .error (.path .bindingRejected (Text.format ["a native root must be an absolute path of this host, ",
    "got ", root.text.pyRepr py.isPrintable]))

/-- `bind_native_root(root)` -/
def bindNativeRoot (root : Path) : FileProgram Path := do
  ofExcept (requireAbsolute py root)
  let resolved ← resolvePath root fun fault => .path .unresolvable (Text.format ["the native root ",
    root.text.pyRepr py.isPrintable, " could not be resolved: ", fault.text])
  let present ← (.call (.pathExists resolved) fun reply => ofExcept (reply.mapError .os) :
    FileProgram Bool)
  if present then do
    let directory ← (.call (.isDir resolved) fun reply => ofExcept (reply.mapError .os) :
      FileProgram Bool)
    if directory then .done resolved
    else .raise (.path .bindingRejected (Text.format ["the native root ",
      root.text.pyRepr py.isPrintable, " exists and is not a directory; a lane root must be a ",
      "directory so containment can be checked against it"]))
  else .done resolved

/-- `resolve_wire_path(root, reference)` -/
def resolveWirePath (root : Path) (reference : Text) : FileProgram Path := do
  let parts ← ofExcept (parseWirePath py reference)
  let native ← bindNativeRoot py root
  let resolved ← resolvePath (native.joined parts) fun fault => .path .unresolvable (Text.format
    ["the wire path ", reference.pyRepr py.isPrintable, " could not be resolved natively: ", fault.text])
  if native.Contains resolved then .done resolved
  else .raise (.path .escape (Text.format ["wire path ", reference.pyRepr py.isPrintable,
    " resolves to ", resolved.text, " outside the bound root ", native.text,
    "; containment is checked on resolved native paths, never on a string prefix"]))

/-! ### Locations -/

/-- An `UntrustedPath`. -/
def untrusted (message : Text) : Raised := .registry .untrustedPath message

/-- `portable_relative(relative)` -/
def portableRelative (relative : Text) : Except Raised Text :=
  if isPortableRelative relative then .ok relative
  else .error (untrusted (Text.format ["reference is not a portable relative path: ",
    relative.pyRepr py.isPrintable]))

/-- `generation_directory_name(generation_id)` -/
def generationDirectoryName (generationId : Text) : Except Raised Text :=
  if isSha256 generationId then .ok generationId
  else .error (untrusted (Text.format ["generation id is not a 64 character hex digest: ",
    generationId.pyRepr py.isPrintable]))

/-- `_lane(value)` -/
def checkLane (value : Text) : Except Raised Text :=
  if value ∈ lanes then .ok value
  else .error (.registry .unreadable (Text.format ["unknown lane: ", value.pyRepr py.isPrintable]))

/-- The `resolve` of a location with the given root. -/
def resolveReference (root : Path) (relative : Text) : FileProgram Path :=
  (resolveWirePath py root relative).rescue fun raised =>
    match raised with
    | .path _ message => .raise (untrusted (Text.format ["reference ", relative.pyRepr py.isPrintable, ": ",
        message]))
    | _ => .raise raised

end Paths

/-- The resolved directory of one lane of one project's graph output. -/
structure SnapshotLocation where
  solutionId : Text
  projectId : Text
  lane : Text
  root : Path
  deriving DecidableEq

namespace SnapshotLocation

/-- `location.pointer` -/
def pointer (location : SnapshotLocation) : Path := location.root.child currentPointerName

/-- `location.generations_root` -/
def generationsRoot (location : SnapshotLocation) : Path := location.root.child generationsDirname

/-- `location.staging_root` -/
def stagingRoot (location : SnapshotLocation) : Path := location.root.child stagingDirname

/-- `location.generation_root(generation_id)` -/
def generationRoot (py : Interpreter) (location : SnapshotLocation) (generationId : Text) :
    Except Raised Path := do
  let name ← generationDirectoryName py generationId
  return location.generationsRoot.child name

/-- `location.resolve(relative)` -/
def resolve (py : Interpreter) (location : SnapshotLocation) (relative : Text) : FileProgram Path :=
  resolveReference py location.root relative

end SnapshotLocation

/-- The resolved directory of a solution's catalog lane. -/
structure CatalogLocation where
  solutionId : Text
  lane : Text
  root : Path
  deriving DecidableEq

namespace CatalogLocation

/-- `location.pointer` -/
def pointer (location : CatalogLocation) : Path := location.root.child currentPointerName

/-- `location.generations_root` -/
def generationsRoot (location : CatalogLocation) : Path := location.root.child generationsDirname

/-- `location.generation_root(generation_id)` -/
def generationRoot (py : Interpreter) (location : CatalogLocation) (generationId : Text) :
    Except Raised Path := do
  let name ← generationDirectoryName py generationId
  return location.generationsRoot.child name

end CatalogLocation

/-! ### Bindings -/

/-- One logical repository and the projects it hosts. -/
structure RepositoryBinding where
  repoId : Text
  repoRoot : Path
  projectIds : List Text
  deriving DecidableEq

/-- A trusted binding from a logical project to one local checkout. -/
structure ProjectBinding where
  solutionId : Text
  projectId : Text
  repoId : Text
  repoRoot : Path
  deriving DecidableEq

/-- One logical solution, its bound instance and its repositories. -/
structure SolutionBinding where
  solutionId : Text
  instanceId : Text
  catalogHostRepo : Text
  repositories : List RepositoryBinding
  deriving DecidableEq

/-- The machine-local bindings. -/
structure SnapshotRegistry where
  axiomHome : Path
  solutions : List SolutionBinding
  deriving DecidableEq

/-- An `UnknownBinding`. -/
def unknownBinding (message : Text) : Raised := .registry .unknownBinding message

section Bindings

variable (py : Interpreter)

/-- `binding.repository(repo_id)` -/
def SolutionBinding.repository (binding : SolutionBinding) (repoId : Text) :
    Except Raised RepositoryBinding :=
  match binding.repositories.find? fun repo => repo.repoId = repoId with
  | some repo => .ok repo
  | none => .error (unknownBinding (Text.format ["solution ", binding.solutionId.pyRepr py.isPrintable,
      " has no repository ", repoId.pyRepr py.isPrintable]))

/-- `binding.catalog_repository` -/
def SolutionBinding.catalogRepository (binding : SolutionBinding) : Except Raised RepositoryBinding :=
  binding.repository py binding.catalogHostRepo

/-- `binding.graph_root` -/
def ProjectBinding.graphRoot (binding : ProjectBinding) : Path :=
  binding.repoRoot.joined (graphOutputRoot ++ [binding.solutionId, binding.projectId])

/-- `binding.location(lane)` -/
def ProjectBinding.location (binding : ProjectBinding) (lane : Text) :
    Except Raised SnapshotLocation := do
  let checked ← checkLane py lane
  return ⟨binding.solutionId, binding.projectId, checked, binding.graphRoot.child checked⟩

namespace SnapshotRegistry

variable (registry : SnapshotRegistry)

/-- `registry.solution(solution_id)` -/
def solution (solutionId : Text) : Except Raised SolutionBinding :=
  match registry.solutions.find? fun entry => entry.solutionId = solutionId with
  | some entry => .ok entry
  | none => .error (unknownBinding (Text.format ["no trusted binding for solution ",
      solutionId.pyRepr py.isPrintable]))

/-- `registry.project(solution_id, project_id)` -/
def project (solutionId projectId : Text) : Except Raised ProjectBinding := do
  let entry ← registry.solution py solutionId
  match entry.repositories.find? fun repo => projectId ∈ repo.projectIds with
  | some repo => return ⟨solutionId, projectId, repo.repoId, repo.repoRoot⟩
  | none => .error (unknownBinding (Text.format ["no trusted binding for project ",
      projectId.pyRepr py.isPrintable, " in solution ", solutionId.pyRepr py.isPrintable]))

/-- `registry.location(solution_id, project_id, lane)` -/
def location (solutionId projectId lane : Text) : Except Raised SnapshotLocation := do
  let binding ← registry.project py solutionId projectId
  binding.location py lane

/-- `registry.catalog_location(solution_id, lane)` -/
def catalogLocation (solutionId lane : Text) : Except Raised CatalogLocation := do
  let entry ← registry.solution py solutionId
  let checked ← checkLane py lane
  let repo ← entry.catalogRepository py
  return ⟨solutionId, checked,
    (repo.repoRoot.joined (graphOutputRoot ++ [entry.solutionId, catalogDirname])).child checked⟩

/-- `registry.guard_directory(instance_id)` -/
def guardDirectory (instanceId : Text) : Path :=
  registry.axiomHome.joined ["instances", instanceId, "solution.guard"]

end SnapshotRegistry

/-! ### What a registry answers -/

variable {py} {registry : SnapshotRegistry} {solutionId projectId lane : Text}

theorem silent_resolvePath (path : Path) (failed : OSFault → Raised) :
    (resolvePath path failed).Only FileOp.Silent :=
  ⟨trivial, fun _ => only_ofExcept _⟩

/-- Resolving a reference reads nothing. -/
theorem silent_resolve (location : SnapshotLocation) (relative : Text) :
    (location.resolve py relative).Only FileOp.Silent := by
  have root : (bindNativeRoot py location.root).Only FileOp.Silent := by
    refine (only_ofExcept _).bind fun _ => (silent_resolvePath _ _).bind fun resolved => ?_
    refine ⟨trivial, fun present => (only_ofExcept _).bind fun present => ?_⟩
    split
    · refine ⟨trivial, fun directory => (only_ofExcept _).bind fun directory => ?_⟩
      split <;> exact trivial
    · exact trivial
  refine Only.rescue ?_ fun raised => ?_
  · refine (only_ofExcept _).bind fun parts => root.bind fun native => ?_
    refine (silent_resolvePath _ _).bind fun resolved => ?_
    split <;> exact trivial
  · split <;> exact trivial

/-- A location has the ids and the lane it was asked for. -/
theorem SnapshotRegistry.location_ok {location : SnapshotLocation}
    (found : registry.location py solutionId projectId lane = .ok location) :
    location.solutionId = solutionId ∧ location.projectId = projectId ∧ location.lane = lane := by
  obtain ⟨binding, bound, found⟩ := bind_eq_ok.mp found
  obtain ⟨entry, _, bound⟩ := bind_eq_ok.mp bound
  obtain ⟨checked, laned, done⟩ := bind_eq_ok.mp found
  cases done
  have same : checked = lane := by
    unfold checkLane at laned
    split at laned
    · exact (Except.ok.inj laned).symm
    · cases laned
  split at bound
  · cases bound
    exact ⟨rfl, rfl, same⟩
  · cases bound

end Bindings

/-! ### A small registry -/

/-- One solution with one repository and two projects. -/
def sampleRegistry : SnapshotRegistry :=
  ⟨{ parts := ["axiom"] },
    [⟨"shop", "local", "repo", [⟨"repo", { parts := ["repo"] }, ["core", "other"]⟩]⟩]⟩

/-- The live lane of one of its projects. -/
def sampleLocation (projectId : Text) : Except Raised SnapshotLocation :=
  sampleRegistry.location .ascii "shop" projectId liveLane

/-- The root of that lane. -/
def sampleRoot (projectId : Text) : Path :=
  { parts := ["repo", ".axiom", "graph", "shop", projectId, "live"] }

end AxiomMcp.Snapshot
