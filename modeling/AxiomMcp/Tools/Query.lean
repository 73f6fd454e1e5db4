/-
**The handler `graph_query` (`tools/query.py`).**

A request is checked (`queryRequest`), its scope is loaded through the catalog of the solution (`loadScope`),
and the answer of one engine over the scope is packed into an envelope (`answerQuery`). A request for
freshness queues a reconcile and is refused.

* `loadScope`: the catalog pins every member, and the selected members are loaded by the generations it pins;
* `graphQuery`: the handler, as a program over the guard, the file system, the retention and the control
  plane.
-/

import AxiomMcp.Query.Changes
import AxiomMcp.Query.Coverage
import AxiomMcp.Query.Envelope
import AxiomMcp.Query.Neighborhood
import AxiomMcp.Query.Path
import AxiomMcp.Query.Search
import AxiomMcp.Tools.Delegation
import AxiomMcp.Tools.Source

namespace AxiomMcp.Tools

open Lib Program
open Query
open Security (capabilityRead capabilityReconcile)
open Snapshot (CatalogVector LoadedSnapshot MemberPin liveLane loadSolutionCatalog pinCatalog
  projectMemberOpener)

/-! ### Operations -/

/-- The constant `QUERY_LANE`. -/
def queryLane : Text := liveLane

/-- The documented operations. -/
inductive QueryOperation
  | search | context | neighbors | callers | dependencies | impact | path | changes
  deriving DecidableEq

namespace QueryOperation

/-- The name of an operation. -/
def name : QueryOperation → Text
  | .search => "search"
  | .context => "context"
  | .neighbors => "neighbors"
  | .callers => "callers"
  | .dependencies => "dependencies"
  | .impact => "impact"
  | .path => "path"
  | .changes => "changes"

/-- The constant `QUERY_OPERATIONS`. -/
def all : List QueryOperation :=
  [.search, .context, .neighbors, .callers, .dependencies, .impact, .path, .changes]

/-- The arguments of an operation, out of `_OPERATION_ARGUMENTS`. -/
def arguments : QueryOperation → List Text
  | .search => ["query", "max_nodes"]
  | .context => ["target", "depth", "direction", "edge_kinds", "projection", "max_nodes", "max_edges"]
  | .neighbors => ["target", "depth", "direction", "edge_kinds", "projection", "max_nodes", "max_edges"]
  | .dependencies => ["target", "depth", "edge_kinds", "projection", "max_nodes", "max_edges"]
  | .callers => ["target", "depth", "edge_kinds", "projection", "max_nodes", "max_edges"]
  | .impact => ["target", "depth", "edge_kinds", "projection", "max_nodes", "max_edges"]
  | .path =>
    ["target", "target_to", "depth", "direction", "edge_kinds", "projection", "max_nodes", "max_edges"]
  | .changes => ["baseline_catalog_generation_id"]

/-- An operation of `_PROJECTION_OPERATIONS`. -/
def projects : QueryOperation → Bool
  | .search => false
  | .changes => false
  | _ => true

end QueryOperation

/-- The constant `_GLOBAL_ARGUMENTS`. -/
def globalArguments : List Text :=
  ["solution_id", "operation", "project_id", "project_ids", "max_bytes", "consistency", "cursor",
    "catalog_generation_id"]

/-- The consistencies of a request. -/
inductive Consistency
  | allowStale | requireFresh | pinned
  deriving DecidableEq

/-- The name of a consistency. -/
def Consistency.name : Consistency → Text
  | .allowStale => "allow_stale"
  | .requireFresh => "require_fresh"
  | .pinned => "pinned"

/-- The constant `CONSISTENCIES`. -/
def Consistency.all : List Consistency := [.allowStale, .requireFresh, .pinned]

/-! ### Arguments -/

section Arguments

variable (py : Interpreter) (arguments : JsonObject)

/-- `_operation(arguments)` -/
def operationArgument : Except ToolError QueryOperation := do
  let value ← requireText arguments "operation"
  match QueryOperation.all.find? fun operation => operation.name = value with
  | some operation => .ok operation
  | none => .error (refusal .unsupportedOperation
      "operation is not one of the documented query operations"
      [("allowed", texts (QueryOperation.all.map QueryOperation.name))])

/-- One item of an allowlisted list. -/
def chosenItem (key : Text) (allowed : List Text) (item : Json) : Except ToolError Text :=
  let refused := refusal .validationError
    (key ++ (" carries a value outside the canonical allowlist" : Text))
    [("field", .str key), ("allowed", texts (sortedBy id allowed))]
  match item with
  | .str value => if value ∈ allowed then .ok value else .error refused
  | _ => .error refused

/-- `_choice_list(arguments, key, allowed)` -/
def choiceListArgument (key : Text) (allowed : List Text) : Except ToolError (Option (List Text)) :=
  match argument arguments key with
  | none => .ok none
  | some (.arr items) => (items.mapM (chosenItem key allowed)).map fun chosen => some (firsts chosen)
  | some _ => .error (invalid key (key ++ (" must be an array of contract values" : Text)))

/-- `_consistency(arguments)` -/
def consistencyArgument : Except ToolError Consistency :=
  let refused := invalid "consistency" (Text.format ["consistency must be one of ",
    textsRepr py (Consistency.all.map Consistency.name)])
  match argument arguments "consistency" with
  | none => .ok .allowStale
  | some (.str value) =>
    match Consistency.all.find? fun consistency => consistency.name = value with
    | some consistency => .ok consistency
    | none => .error refused
  | some _ => .error refused

/-- `sha256_text(value, what=key)`, refused as the argument `key`. The refusal prints the value, which raises
on an integer of too many digits. -/
def digestArgument (key : Text) (value : Json) : Except ToolError Text :=
  let refused := invalid key (gotMessage py [key, " must be a lowercase sha256 digest, got "] value)
  match value with
  | .str text => if isSha256 text then .ok text else .error refused
  | _ => if value.digitsFit py then .error refused else .error (.other "ValueError")

/-- `_pinned_generation(arguments, consistency)` -/
def pinnedGeneration (consistency : Consistency) : Except ToolError (Option Text) :=
  match argument arguments "catalog_generation_id" with
  | none =>
    if consistency = .pinned then
      .error (invalid "catalog_generation_id" "consistency 'pinned' requires catalog_generation_id")
    else .ok none
  | some value => (digestArgument py "catalog_generation_id" value).map some

/-- The names of the projections. -/
def projectionNames : List Text := Projection.all.map Projection.name

/-- The check of the projection of an operation that lists nodes. -/
def checkProjection (operation : QueryOperation) : Except ToolError Unit :=
  if operation.projects = true ∧ argument arguments "projection" ≠ none then do
    let sections ← choiceListArgument arguments "projection" projectionNames
    if Projection.sourceLocations.name ∈ sections.getD [] then .ok ()
    else .error (invalid "projection" (Text.format ["projection must include 'source_locations': the ",
      "response contract requires a source location on every node it carries"]))
  else .ok ()

/-- The canonical bounds of a request. -/
structure Budgets where
  depth : ℤ
  maxNodes : ℤ
  maxEdges : ℤ
  maxBytes : ℤ

/-- `_budgets(arguments)` -/
def budgets : Except ToolError Budgets := do
  let depth ← optionalIntOr arguments "depth" defaultDepth 0 maxDepth
  let maxNodes ← optionalIntOr arguments "max_nodes" defaultMaxNodes 1 Query.maxNodes
  let maxEdges ← optionalIntOr arguments "max_edges" defaultMaxEdges 0 Query.maxEdges
  let maxBytes ← optionalIntOr arguments "max_bytes" defaultMaxBytes minBytes Query.maxBytes
  return ⟨depth, maxNodes, maxEdges, maxBytes⟩

/-- `direction` -/
def directionArgument : Except ToolError (Option Text) :=
  let refused := invalid "direction" (Text.format ["direction must be one of ",
    textsRepr py (["incoming", "outgoing", "both"] : List Text)])
  match argument arguments "direction" with
  | none => .ok none
  | some (.str value) => if value ∈ Direction.all.map Direction.name then .ok (some value) else .error refused
  | some _ => .error refused

/-- `_cursor_query(arguments, operation)` -/
def cursorQuery (operation : QueryOperation) : JsonObject :=
  operation.arguments.filterMap fun field => (Json.get? arguments field).map fun value => (field, value)

end Arguments

/-! ### The request -/

/-- A request that may be answered. -/
structure QueryRequest where
  operation : QueryOperation
  solutionId : Text
  consistency : Consistency
  pinned : Option Text
  projects : List Text

section Handler

variable (arguments : JsonObject) {Time : Type} (context : ToolContext Time)

/-- The refusal of a solution without a visible project. -/
def noVisibleProject (solutionId : Text) : ToolError :=
  refusal .notFound "no project of this solution is visible to this caller"
    [("solution_id", .str solutionId)]

/-- The selected projects of a read, of which there is one. -/
def scopedProjects (solutionId : Text) : Except ToolError (List Text) := do
  context.openSolution solutionId
  let requested ← projectScope context.interpreter arguments
  let projects ← context.resolveProjects solutionId requested
  if projects = [] then .error (noVisibleProject solutionId) else .ok projects

/-- The checks of `graph_query` in front of its first call. -/
def queryRequest : Except ToolError QueryRequest := do
  let operation ← operationArgument arguments
  closedArguments arguments (globalArguments ++ operation.arguments)
  let solutionId ← identifierArgument context.interpreter arguments "solution_id"
  let consistency ← consistencyArgument context.interpreter arguments
  let pinned ← pinnedGeneration context.interpreter arguments consistency
  checkProjection arguments operation
  let projects ← scopedProjects arguments context solutionId
  return ⟨operation, solutionId, consistency, pinned, projects⟩

/-- The document of the reconcile that a request for freshness queues. -/
def freshnessDocument (solutionId : Text) (projects : List Text) : JsonObject :=
  [("solution_id", .str solutionId), ("project_ids", .arr (projects.map .str)),
    ("scope", .str "solution"), ("reason", .str "require_fresh")]

/-- The checks of `_require_fresh` in front of its request. -/
def checkFreshness : Except ToolError Unit := do
  if capabilityReconcile ∉ context.principal.capabilities then
    .error (refusal .forbidden (Text.format ["require_fresh needs reconcile authority: a freshness proof ",
      "is a bounded reconcile, and the gateway does not mutate on behalf of a read-only token"]) [])
  else context.requireControl

/-- The job id of the details of a queued reconcile. -/
def queuedJob (handle : Json) : JsonObject :=
  match handle.text? "job_id" with
  | some jobId => if jobId = [] then [] else [("job_id", .str jobId)]
  | none => []

/-- The refusal of a request whose reconcile was queued. -/
def notReady (handle : Json) : ToolError :=
  .gateway ⟨.notReady, Text.format ["require_fresh enqueued a bounded reconcile; this request cannot ",
    "prove the reconcile finished, so no snapshot is served as fresh"], queuedJob handle, some true⟩

/-- `_require_fresh(context, solution_id, projects)` -/
def requireFresh (solutionId : Text) (projects : List Text) : ToolProgram Unit := do
  ofExcept (checkFreshness context)
  let handle ← sendControl (.reconcile (freshnessDocument solutionId projects))
    "the graphd control plane could not accept a reconcile for this request"
  .raise (notReady handle)

/-! ### The scope -/

/-- The vector of a solution's catalog. -/
def loadVector (solutionId : Text) : ToolProgram CatalogVector := do
  let location ← ofRaised (context.registry.catalogLocation context.interpreter solutionId queryLane)
  let catalog ← readingFiles (loadSolutionCatalog context.interpreter context.sha256 location)
  readingFiles (pinCatalog context.sha256 catalog (projectMemberOpener context.interpreter context.sha256
    fun projectId => context.registry.location context.interpreter solutionId projectId queryLane))

/-- The pins of a vector by project: of several the last. -/
def pinsOf (vector : CatalogVector) : Dict Text MemberPin :=
  Dict.ofList (fun pin => pin.member.projectId) vector.pins

/-- The pin of a project that can be read. -/
def availablePin (pins : Dict Text MemberPin) (projectId : Text) : Except ToolError MemberPin :=
  let refused := snapshotMissing projectId "the catalog-pinned generation is unavailable"
  match pins.get? projectId with
  | some pin => if pin.available then .ok pin else .error refused
  | none => .error refused

/-- The loop of `_load_scope` over the projects. -/
def loadPinnedProjects (solutionId : Text) (pins : Dict Text MemberPin) :
    List Text → ToolProgram (List LoadedSnapshot)
  | [] => .done []
  | projectId :: rest => do
    let pin ← ofExcept (availablePin pins projectId)
    let snapshot ← loadPinnedProject context solutionId projectId queryLane pin.member.generationId
    let later ← loadPinnedProjects solutionId pins rest
    .done (snapshot :: later)

/-- One round of `GraphSet(graph_from_snapshot(snapshot) for snapshot in snapshots)`. -/
def admitSnapshot (py : Interpreter) (members : List Graph) (snapshot : LoadedSnapshot) :
    Except ToolError (List Graph) := do
  let graph ← (graphFromSnapshot py snapshot).mapError .graph
  (admitGraph members graph).mapError .query

theorem admitSnapshot_admissible {py : Interpreter} {members admitted : List Graph}
    {snapshot : LoadedSnapshot} (fits : Admissible members)
    (accepted : admitSnapshot py members snapshot = .ok admitted) : Admissible admitted := by
  obtain ⟨graph, _, accepted⟩ := bind_eq_ok.mp accepted
  cases one : admitGraph members graph with
  | error refused =>
    rw [one] at accepted
    cases accepted
  | ok next =>
    rw [one] at accepted
    cases accepted
    exact fits.snoc one

/-- A scope of some members, none of them missing. -/
def scopeOf (members : List Graph) (fits : Admissible members) : GraphSet :=
  plainScope members ⟨fits.projects_nodup, fits.node_ids_nodup⟩

/-- `GraphSet(graph_from_snapshot(snapshot) for snapshot in snapshots)` -/
def graphSetOf (py : Interpreter) (snapshots : List LoadedSnapshot) : Except ToolError GraphSet :=
  match admission : snapshots.foldlM (admitSnapshot py) [] with
  | .error raised => .error raised
  | .ok members =>
    .ok (scopeOf members
      (foldlM_ok Admissible (fun _ _ _ => admitSnapshot_admissible) admissible_nil admission))

/-- `_load_scope(context, solution_id, projects)` -/
def loadScope (solutionId : Text) (projects : List Text) : ToolProgram GraphSet := do
  let vector ← loadVector context solutionId
  let snapshots ← loadPinnedProjects context solutionId (pinsOf vector) projects
  ofExcept (graphSetOf context.interpreter snapshots)

/-- Loading a scope asks what a source asks. -/
theorem only_loadScope (solutionId : Text) (projects : List Text) :
    (loadScope context solutionId projects).Only ToolOp.OfSource := by
  have loop : ∀ (pins : Dict Text MemberPin) (projects : List Text),
      (loadPinnedProjects context solutionId pins projects).Only ToolOp.OfSource := by
    intro pins projects
    induction projects with
    | nil => exact trivial
    | cons projectId rest ih =>
      refine (only_ofExcept _).bind fun pin => (only_loadPinnedProject _ _ _ _).bind fun snapshot => ?_
      exact ih.bind fun later => trivial
  refine Only.bind ?_ fun vector => (loop _ _).bind fun snapshots => only_ofExcept _
  exact (only_ofExcept _).bind fun location => (only_reading _).bind fun catalog => only_reading _

/-! ### Engines -/

/-- What the handler reads of the answer of an engine. -/
structure EngineAnswer where
  target : Option Text
  status : Status
  nodes : List JsonObject
  edges : List JsonObject
  candidates : List JsonObject
  truncated : Bool
  reasons : List WalkReason
  warnings : List Text

/-- Of `context`. -/
def ofContext (result : ContextResult) : EngineAnswer :=
  ⟨result.target, result.status, result.nodes, result.edges, result.candidates, result.truncated,
    result.reasons, result.warnings⟩

/-- Of `neighbors` and `dependencies`. -/
def ofNeighbors (result : NeighborResult) : EngineAnswer :=
  ⟨result.target, result.status, result.nodes, result.edges, result.candidates, result.truncated,
    result.reasons, result.warnings⟩

/-- Of `callers`. -/
def ofCallers (result : CallersResult) : EngineAnswer :=
  ⟨result.target, result.status, result.nodes, result.edges, result.candidates, result.truncated,
    result.reasons, result.warnings⟩

/-- Of `impact`. -/
def ofImpact (result : ImpactResult) : EngineAnswer :=
  ⟨result.target, result.status, result.nodes, result.edges, result.candidates, result.truncated,
    result.reasons, result.warnings⟩

/-- Of `path`, which has no flag `truncated`. -/
def ofPath (result : PathResult) : EngineAnswer :=
  ⟨result.target, result.status, result.nodes, result.edges, result.candidates, false, [], result.warnings⟩

section Parts

variable (py : Interpreter)

/-- `_ambiguous_warning(target, count)` -/
def ambiguityWarning (target : Text) (count : ℕ) : Text :=
  Text.format ["ambiguous_target: ", Text.ofNat count, " pinned nodes match ",
    target.pyRepr py.isPrintable, "; the answer lists them rather than choosing one"]

/-- `_truncation_warning(reasons)` -/
def truncationWarning (reasons : List WalkReason) : Text :=
  Text.format ["truncated: the answer stopped at ",
    if reasons = [] then "an expansion bound" else Text.join ", " (reasons.map WalkReason.name),
    " and is not a complete closure"]

/-- The warning of a truncated answer. -/
def truncationNote (answer : EngineAnswer) : List Text :=
  if answer.truncated then [truncationWarning answer.reasons] else []

/-- The parts of an answer: an ambiguous target lists its candidates. -/
def partsOf (answer : EngineAnswer) : AnswerParts :=
  if answer.status = .ambiguousTarget then
    ⟨answer.candidates, [], answer.truncated, answer.warnings ++
      ambiguityWarning py (answer.target.getD []) answer.candidates.length :: truncationNote answer⟩
  else ⟨answer.nodes, answer.edges, answer.truncated, answer.warnings ++ truncationNote answer⟩

/-- An answer with one more warning. -/
def warned (parts : AnswerParts) (warning : Text) : AnswerParts :=
  { parts with warnings := parts.warnings ++ [warning] }

/-- The parts of an answer of `callers`. -/
def callersParts (result : CallersResult) : AnswerParts :=
  let parts := partsOf py (ofCallers result)
  if result.complete then parts
  else warned parts "incomplete: the caller closure is not complete for the requested bounds"

/-- The parts of an answer of `impact`. -/
def impactParts (result : ImpactResult) : AnswerParts :=
  let parts := partsOf py (ofImpact result)
  if result.exhaustive then parts
  else warned parts (Text.format ["potential_impact: this is static potential impact within the bounds, ",
    "not proof of runtime damage and not proof that no other caller exists"])

/-- The parts of an answer of `path`. -/
def pathParts (result : PathResult) : AnswerParts :=
  let parts := partsOf py (ofPath result)
  if result.found || result.provenAbsent then { parts with truncated := result.budgetExhausted }
  else { warned parts
      "path_not_proven: no path was found inside the bounds, which is not proof of absence" with
    truncated := true }

/-- The documents that an answer of `search` lists. -/
def candidateNodes (scope : GraphSet) (result : SymbolSearchResult) :
    Except QueryModelError (List JsonObject) :=
  result.candidates.mapM fun item => (scope.node item.nodeId).map Node.asDocument

/-- The parts of an answer of `search`. -/
def searchParts (query : Text) (result : SymbolSearchResult) (nodes : List JsonObject) : AnswerParts :=
  ⟨nodes, [], result.truncated,
    if result.ambiguous then result.warnings ++ [ambiguityWarning py query nodes.length]
    else result.warnings⟩

/-- The documents of the facts of one project that were added or modified. -/
def changedNodes (item : Text × ProjectDiff) : List JsonObject :=
  item.2.nodes.added ++ item.2.nodes.modified.map fun change =>
    ([("id", .str change.id), ("project_id", .str item.1)] : JsonObject) ++ change.after

/-- The same of its edges. -/
def changedEdges (item : Text × ProjectDiff) : List JsonObject :=
  item.2.edges.added ++ item.2.edges.modified.map fun change =>
    ([("id", .str change.id)] : JsonObject) ++ change.after

/-- `_not_comparable_reason(status, arguments)` -/
def notComparableReason (status : ChangeStatus) : Text :=
  if status ≠ .missingBaseline then
    Text.format ["not_comparable: changes reported ", status.name,
      " and computed no diff, so the answer carries no facts"]
  else if argument arguments "baseline_catalog_generation_id" ≠ none then
    Text.format ["baseline_not_pinnable: the named baseline catalog generation cannot be pinned through ",
      "the read session at this revision, so no diff was computed"]
  else
    Text.format ["baseline_not_named: changes requires a baseline generation to compare against, so no ",
      "diff was computed"]

/-- The parts of an answer of `changes`. -/
def changesParts (result : ChangeResult) : AnswerParts :=
  if result.comparable then
    ⟨result.projects.flatMap changedNodes, result.projects.flatMap changedEdges, false, result.warnings⟩
  else ⟨[], [], false, result.warnings ++ [notComparableReason arguments result.status]⟩

/-- What the handler makes of a refusal of an engine. -/
def translateQuery (error : QueryModelError) : ToolError :=
  match error.exceptionClass with
  | .targetAmbiguous => refusal .notFound (error.message py) (fieldDetails "target")
  | .targetNotFound => refusal .notFound (error.message py) (fieldDetails "target")
  | .limitRejected => refusal .limitExceeded (error.message py) []
  | .queryModelError => refusal .validationError (error.message py) []

/-- An answer of an engine, with its refusal translated. -/
def engine {α : Type} (result : Except QueryModelError α) : Except ToolError α :=
  result.mapError (translateQuery py)

/-- `_changes(scope, arguments)`: a scope is compared with itself or with nothing. -/
def changesAnswer (sha256 : Bytes → Text) (scope : GraphSet) : Except ToolError ChangeResult :=
  match argument arguments "baseline_catalog_generation_id" with
  | none => engine py (changes scope none none)
  | some baseline => do
    let baselineId ← digestArgument py "baseline_catalog_generation_id" baseline
    if baselineId ≠ catalogGenerationId py sha256 scope then engine py (changes scope none none)
    else engine py (changes scope (some scope) none)

/-- The keyword arguments that a traversal is given. -/
def traversalOptions (budgets : Budgets) (direction : Option Text) (edgeKinds projection : Option (List Text)) :
    QueryOptions where
  projectIds := none
  depth := some budgets.depth
  direction
  edgeKinds
  projection
  maxNodes := some budgets.maxNodes
  maxEdges := some budgets.maxEdges

/-- One engine over a target. -/
def traversal (operation : QueryOperation) (scope : GraphSet) (target : Text) (options : QueryOptions) :
    Except ToolError AnswerParts :=
  match operation with
  | .path => do
    let goal ← requireText arguments "target_to"
    (engine py (path py scope target goal options)).map (pathParts py)
  | .context => (engine py (Query.context py scope target options)).map fun result =>
      partsOf py (ofContext result)
  | .dependencies => (engine py (dependencies py scope target options)).map fun result =>
      partsOf py (ofNeighbors result)
  | .neighbors => (engine py (neighbors py scope target options)).map fun result =>
      partsOf py (ofNeighbors result)
  | .callers => (engine py (callers py scope target options)).map (callersParts py)
  | _ => (engine py (impact py scope target options)).map (impactParts py)

/-- `_answer(operation, arguments, scope)` -/
def answer (sha256 : Bytes → Text) (operation : QueryOperation) (scope : GraphSet) :
    Except ToolError AnswerParts := do
  let budgets ← budgets arguments
  let projection ← choiceListArgument arguments "projection" projectionNames
  let edgeKinds ← choiceListArgument arguments "edge_kinds" (EdgeKind.all.map EdgeKind.name)
  let direction ← directionArgument py arguments
  match operation with
  | .search =>
    let query ← requireText arguments "query"
    let result ← engine py (searchSymbols py scope query { maxNodes := some budgets.maxNodes })
    let nodes ← (candidateNodes scope result).mapError .query
    return searchParts py query result nodes
  | .changes => (changesAnswer arguments py sha256 scope).map (changesParts arguments)
  | _ =>
    let target ← requireText arguments "target"
    traversal arguments py operation scope target (traversalOptions budgets direction edgeKinds projection)

end Parts

/-! ### The answer -/

section Answer

variable [LinearOrder Time]

/-- The code that a `CursorError` is answered by. -/
def cursorCode (reason : Text) : ErrorCode :=
  if reason = "unknown" then .notFound
  else if reason = "expired" then .conflict
  else if reason = "generation" then .snapshotExpired
  else if reason = "scope" then .forbidden
  else if reason = "query" then .validationError
  else if reason = "capability" then .forbidden
  else .validationError

/-- The details of a refused cursor. -/
def cursorDetails (reason : Text) : JsonObject := [("field", .str "cursor"), ("reason", .str reason)]

/-- What the handler makes of an exception of the cursor store. -/
def translateCursor : CursorFault → ToolError
  | .cursor reason message => refusal (cursorCode reason) message (cursorDetails reason)
  | .refused _ => refusal .notFound "this store has no such cursor" (cursorDetails "unknown")
  | .unprintable => .other "ValueError"
  | .unicodeEncode => .other "UnicodeEncodeError"

/-- `_resolve_cursor(context, arguments, ...)` -/
def resolveCursor (request : QueryRequest) (generation : Text) : Except ToolError Unit :=
  match argument arguments "cursor" with
  | none => .ok ()
  | some _ => do
    let cursorId ← requireText arguments "cursor"
    let asked : ResolveRequest := {
      cursorId
      catalogGenerationId := generation
      operation := request.operation.name
      query := some (cursorQuery arguments request.operation)
      scope := request.projects
      capability := some capabilityRead }
    ((context.cursors.resolve context.interpreter context.sha256 context.cursorClock asked
      context.moment).mapError translateCursor).map fun _ => ()

/-- The check of a pinned request against the generations that were loaded. -/
def checkPinned (request : QueryRequest) (generation : Text) : Except ToolError Unit :=
  if request.pinned ≠ none ∧ request.pinned ≠ some generation then
    .error (refusal .snapshotExpired (Text.format ["the pinned catalog generation is no longer the one ",
      "this lane publishes; the answer would be a different vector under the same identity"])
      (fieldDetails "catalog_generation_id"))
  else .ok ()

/-- What the handler makes of an exception of the packer. -/
def translatePack (py : Interpreter) : PackError → ToolError
  | .refused error => .query error
  | .tooManyDigits limit => refusal .validationError (((PackError.tooManyDigits limit).message py).getD []) []
  | .surrogate => .other "UnicodeEncodeError"
  | .exceeded cap => refusal .limitExceeded (((PackError.exceeded cap).message py).getD []) []
  | .notIterable _ => .other "TypeError"

/-- A packed answer; a cut is a truncation of the answer. -/
def packedAnswer (packed : BudgetResult) : JsonObject :=
  (if packed.truncated then packed.document.set "truncated" (.bool true) else packed.document).entries

/-- The envelope of an answer. -/
def envelopeOf (request : QueryRequest) (scope : GraphSet) (parts : AnswerParts) :
    Except ToolError Envelope :=
  (buildEnvelope context.interpreter context.sha256 request.solutionId scope none {} parts).mapError
    fun error => refusal .snapshotCorrupt error.message []

/-- The part of `graph_query` after its scope. -/
def answerQuery (request : QueryRequest) (scope : GraphSet) : Except ToolError JsonObject := do
  let generation := catalogGenerationId context.interpreter context.sha256 scope
  checkPinned request generation
  let budgets ← budgets arguments
  resolveCursor arguments context request generation
  let parts ← answer arguments context.interpreter context.sha256 request.operation scope
  let envelope ← envelopeOf context request scope parts
  let packed ← (packResponse context.interpreter envelope.document (some budgets.maxBytes)).mapError
    (translatePack context.interpreter)
  return packedAnswer packed

/-- The reconcile of a request that asks for freshness. -/
def ensureFresh (request : QueryRequest) : ToolProgram Unit :=
  if request.consistency = .requireFresh then requireFresh context request.solutionId request.projects
  else .done ()

/-- `graph_query(arguments, context)` -/
def graphQuery : ToolProgram JsonObject := do
  let request ← ofExcept (queryRequest arguments context)
  ensureFresh context request
  let scope ← loadScope context request.solutionId request.projects
  ofExcept (answerQuery arguments context request scope)

end Answer

end Handler

end AxiomMcp.Tools
