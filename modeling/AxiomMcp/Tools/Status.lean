/-
**The handlers `graph_status` and `graph_version` (`tools/status.py`, `tools/version.py`).**

`graph_status` loads the current generation of each selected project and reports what it pins, the aggregate
coverage, what the caller may do and, where it is asked to, what the control plane says of itself. Freshness is
repeated from the control plane only with the verification that supports it.

* `loadCurrent`: the loop over the projects, where a graph is built before the next project is loaded;
* `graphStatus`, `graphVersion`: the handlers.
-/

import AxiomMcp.Tools.Query

namespace AxiomMcp.Tools

open Lib Program
open Query
open Security (capabilityRead capabilityReconcile capabilityCheckpoint)
open Snapshot (LoadedSnapshot lanes liveLane namesRepr)

/-! ### Arguments -/

section Status

variable (arguments : JsonObject) {Time : Type} (context : ToolContext Time)

/-- The constant `_ARGUMENTS`. -/
def statusArguments : List Text := ["solution_id", "project_id", "project_ids", "lane", "include_daemon"]

/-- `_lane_argument(arguments)` -/
def laneArgument : Except ToolError Text := choiceArgument context.interpreter arguments "lane" liveLane lanes

/-- What a status is asked of. -/
structure StatusRequest where
  solutionId : Text
  lane : Text
  includeDaemon : Bool
  projects : List Text

/-- The checks of `graph_status` in front of its first call. -/
def statusRequest : Except ToolError StatusRequest := do
  closedArguments arguments statusArguments
  let solutionId ← identifierArgument context.interpreter arguments "solution_id"
  let lane ← laneArgument arguments context
  let includeDaemon ← optionalBool arguments "include_daemon"
  let projects ← scopedProjects arguments context solutionId
  return ⟨solutionId, lane, includeDaemon, projects⟩

/-! ### The scope -/

/-- The loop of `graph_status` over the projects. -/
def loadCurrent (solutionId lane : Text) : List Text → ToolProgram (List (LoadedSnapshot × Graph))
  | [] => .done []
  | projectId :: rest => do
    let snapshot ← loadProject context solutionId projectId lane
    let graph ← ofExcept ((graphFromSnapshot context.interpreter snapshot).mapError .graph)
    let later ← loadCurrent solutionId lane rest
    .done ((snapshot, graph) :: later)

/-- The scope of some graphs. -/
def scopeOfGraphs (graphs : List Graph) : Except ToolError GraphSet :=
  (GraphSet.init (graphs.map .ok) []).mapError .query

/-- `str(graph.coverage_status)` of the graph that `per_project_coverage` holds last for a project. -/
def projectCoverage (py : Interpreter) (graphs : List Graph) (projectId : Text) : Text :=
  (((Dict.ofList Graph.projectId graphs).get? projectId).map (Graph.coverageStatus py)).getD []

/-- `_project_entry(snapshot, coverage)` -/
def projectDocument (snapshot : LoadedSnapshot) (coverage : Text) : JsonObject :=
  [("project_id", .str snapshot.projectId), ("lane", .str snapshot.lane),
    ("generation_id", .str snapshot.generationId), ("analysis_profile", .str snapshot.analysisProfile),
    ("records", .int snapshot.records), ("bytes_copied", .int snapshot.bytesCopied),
    ("source_fingerprint", .str snapshot.sourceFingerprint), ("verification", .str snapshot.verification),
    ("freshness", .str snapshot.freshness), ("coverage", .str coverage),
    ("guard_held_during_copy", .bool snapshot.guardHeldDuringCopy),
    ("parsed_after_guard_release", .bool snapshot.parsedAfterGuardRelease)]

/-! ### The control plane -/

/-- A control plane that is not there, for a reason. -/
def unavailableDaemon (reason : Text) : JsonObject := [("available", .bool false), ("reason", .str reason)]

/-- The fields that are copied of a report. -/
def daemonFields : List Text :=
  ["reason", "freshness", "verification", "verification_source_fingerprint", "jobs_in_flight"]

/-- What `_daemon_section` makes of a reply. -/
def daemonSection : Except ControlFault Json → JsonObject
  | .error (.gateway error) => unavailableDaemon error.code.name
  | .error (.other name) => unavailableDaemon name
  | .ok .null => unavailableDaemon "no_status_reported"
  | .ok (.obj report) =>
    ([("available", .bool (truthy ((Json.get? report "available").getD (.bool false))))] : JsonObject) ++
      daemonFields.filterMap fun key => (argument report key).map fun value => (key, value)
  | .ok _ => unavailableDaemon "status_not_an_object"

/-- `_verification_from_daemon(daemon)` -/
def daemonVerification (py : Interpreter) (daemon : Option JsonObject) : Verification :=
  match daemon with
  | none => {}
  | some daemon =>
    let document := Json.obj daemon
    let made := fun verification => ((Verification.check py verification).toOption).getD {}
    if truthy ((Json.get? daemon "available").getD .null) = false then {}
    else if document.text? "verification" = some "inventory_hash" then
      match document.text? "verification_source_fingerprint" with
      | some fingerprint => made ⟨"inventory_hash", none, some fingerprint⟩
      | none => {}
    else if document.text? "verification" = some "watcher_hint" then
      match document.text? "verified_at" with
      | some time => made ⟨"watcher_hint", some time, none⟩
      | none => {}
    else {}

/-- The freshness that a control plane reported. -/
def reportedFreshness (daemon : Option JsonObject) : Option Text :=
  match daemon with
  | none => none
  | some daemon =>
    if truthy ((Json.get? daemon "available").getD .null) then (Json.obj daemon).text? "freshness" else none

/-- The report of the control plane, where it is asked for. -/
def askDaemon (request : StatusRequest) : ToolProgram (Option JsonObject) :=
  if request.includeDaemon then do
    ofExcept context.requireControl
    .call (.control (.status request.solutionId)) fun reply => .done (some (daemonSection reply))
  else .done none

/-! ### The answer -/

/-- `sorted(security.KNOWN_CAPABILITIES)` -/
def sortedCapabilities : List Text := [capabilityCheckpoint, capabilityRead, capabilityReconcile]

/-- The capabilities of the caller. -/
def heldCapabilities : JsonObject :=
  sortedCapabilities.map fun capability =>
    (capability, Json.bool (decide (capability ∈ context.principal.capabilities)))

/-- The scope of a status and its aggregate coverage. -/
def statusScope (loaded : List (LoadedSnapshot × Graph)) : Except ToolError (GraphSet × Text × List Text) := do
  let scope ← scopeOfGraphs (loaded.map Prod.snd)
  let (coverage, warnings) ← (aggregateCoverage context.interpreter scope).mapError fun error =>
    refusal .snapshotCorrupt error.message []
  return (scope, coverage, warnings)

/-- The document of a status. -/
def statusDocument (request : StatusRequest) (loaded : List (LoadedSnapshot × Graph)) (scope : GraphSet)
    (coverage : Text) (warnings : List Text) (daemon : Option JsonObject) : JsonObject :=
  let resolved := resolveFreshness context.interpreter (reportedFreshness daemon)
    (daemonVerification context.interpreter daemon)
  [("schema_version", .int envelopeSchemaVersion), ("solution_id", .str request.solutionId),
    ("lane", .str request.lane),
    ("catalog_generation_id", .str (catalogGenerationId context.interpreter context.sha256 scope)),
    ("freshness", .str resolved.1), ("coverage", .str coverage),
    ("projects", .arr (loaded.map fun item => .obj (projectDocument item.1
      (projectCoverage context.interpreter (loaded.map Prod.snd) item.1.projectId)))),
    ("capabilities", .obj (heldCapabilities context)),
    ("daemon", (daemon.map Json.obj).getD .null), ("warnings", texts (firsts (warnings ++ resolved.2)))]

/-- `graph_status(arguments, context)` -/
def graphStatus : ToolProgram JsonObject := do
  let request ← ofExcept (statusRequest arguments context)
  let loaded ← loadCurrent context request.solutionId request.lane request.projects
  let (scope, coverage, warnings) ← ofExcept (statusScope context loaded)
  let daemon ← askDaemon context request
  .done (statusDocument context request loaded scope coverage warnings daemon)

end Status

/-! ### `graph_version` -/

section Version

variable (arguments : JsonObject) {Time : Type} (context : ToolContext Time)

/-- The constant `_ARGUMENTS`. -/
def versionArguments : List Text := ["components", "check_update"]

/-- The constant `KNOWN_COMPONENTS`. -/
def knownComponents : List Text := ["axiom-mcp", "axiom-graphd", "axiom-specs", "axiom-skills"]

/-- The details of refused components. -/
def componentDetails : JsonObject := [("allowed", texts knownComponents)]

/-- One requested component. -/
def componentEntry (item : Json) : Except ToolError Text :=
  let refused := refusal .validationError "components must name registered components" componentDetails
  match item with
  | .str name => if name ∈ knownComponents then .ok name else .error refused
  | _ => .error refused

/-- `_components_argument(arguments)` -/
def componentsArgument : Except ToolError (List Text) :=
  match argument arguments "components" with
  | none => .ok knownComponents
  | some (.arr items) => do
    let seen ← items.mapM componentEntry
    if seen = [] then
      .error (refusal .validationError "components must not be empty" componentDetails)
    else return firsts seen
  | some _ => .error (refusal .validationError "components must be a list of registered component names"
      componentDetails)

/-- What `graph_version` is asked. -/
def versionRequest : Except ToolError (List Text × Bool) := do
  closedArguments arguments versionArguments
  let components ← componentsArgument arguments
  let checkUpdate ← optionalBool arguments "check_update"
  context.principal.requireCapability capabilityRead
  return (components, checkUpdate)

/-- `graph_version(arguments, context)`; the report is one operation of the installation. -/
def graphVersion : ToolProgram JsonObject := do
  let (components, checkUpdate) ← ofExcept (versionRequest arguments context)
  .call (.installation components checkUpdate) ofRaised

end Version

end AxiomMcp.Tools
