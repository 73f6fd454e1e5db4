/-
**The neighbourhood of a node: `context`, `neighbors` and `dependencies`.**

The three walk from the target in a chosen direction and project what the walk lists. `context` shows
the relations among the nodes and leaves the check of its budgets to the walk; `neighbors` and
`dependencies` are one traversal, `dependencies` along outgoing edges.

With validated options and a target that resolves, **either every node the walk sees is pinned and the
answer is returned, or the answer is `noNode` for one that is not** (`context_outcome`,
`neighbourTraversal_outcome`).
-/

import AxiomMcp.Query.Callers

namespace AxiomMcp.Query

open AxiomMcp.Lib

/-! ### Results -/

/-- The projected neighbourhood of one target. -/
structure ContextResult where
  target : Option Text
  status : Status
  projection : List Projection
  depth : ℕ
  nodes : List JsonObject
  edges : List JsonObject
  candidates : List JsonObject
  visited : ℕ
  depthReached : ℕ
  truncated : Bool
  reasons : List WalkReason
  frontier : List Text
  warnings : List Text

/-- The bounded neighbour or dependency answer for one target. -/
structure NeighborResult where
  target : Option Text
  status : Status
  operation : Text
  direction : Direction
  edgeKinds : Option (List EdgeKind)
  depth : ℕ
  nodes : List JsonObject
  edges : List JsonObject
  unresolved : List JsonObject
  candidates : List JsonObject
  perKind : Dict Text ℕ
  visited : ℕ
  depthReached : ℕ
  truncated : Bool
  reasons : List WalkReason
  frontier : List Text
  warnings : List Text

/-! ### The code of `context` -/

/-- An edge is filed at a node. -/
def relate (relations : Dict Text Relations) (nodeId : Text) (add : Relations → Relations) :
    Dict Text Relations :=
  relations.set nodeId (add ((relations.get? nodeId).getD {}))

/-- `_relations(walk)` -/
def relationsOf (walk : Walk) : Dict Text Relations :=
  walk.edges.foldl (fun relations edge =>
    let relations := relate relations edge.sourceId fun here =>
      { here with outgoing := here.outgoing ++ [edge.id] }
    match edge.targetId with
    | none => relations
    | some target => relate relations target fun here =>
        { here with incoming := here.incoming ++ [edge.id] }) Dict.empty

section Code

variable (py : Interpreter)

/-- The answer to an ambiguous target. -/
def ambiguousContext (pinned : GraphSet) (sections : List Projection) (hops : ℕ) (target : Text)
    (candidateIds : List Text) : Except QueryModelError ContextResult :=
  (candidateDocuments pinned sections candidateIds).map fun candidates => {
    target := none
    status := .ambiguousTarget
    projection := sections
    depth := hops
    nodes := []
    edges := []
    candidates := candidates
    visited := 0
    depthReached := 0
    truncated := false
    reasons := []
    frontier := []
    warnings := [ambiguousWarning py target candidateIds] }

/-- The answer of a walk. -/
def contextAnswer (pinned : GraphSet) (sections : List Projection) (resolved : Node) (walk : Walk) :
    Except QueryModelError ContextResult :=
  (relatedDocuments (relationsOf walk) pinned sections walk.nodes).map fun nodes => {
    target := some resolved.id
    status := .ok
    projection := sections
    depth := walk.depth
    nodes := nodes
    edges := walk.edges.map Edge.asDocument
    candidates := []
    visited := walk.visited
    depthReached := walk.depthReached
    truncated := walk.truncated
    reasons := walk.reasons
    frontier := walk.frontier
    warnings := warningIf (!walk.unresolved.isEmpty)
      (Text.format ["unresolved_edges: ", Text.ofNat walk.unresolved.length,
        " pinned edges in this neighbourhood have no resolved target, so the neighbourhood may be ",
        "incomplete"]) }

/-- The keyword defaults of `context`. -/
def contextDefaults : QueryOptions := keywordDefaults none none none

/-- `context(scope, target, ...)` -/
def context (scope : GraphSet) (target : Text) (options : QueryOptions) :
    Except QueryModelError ContextResult := do
  let pinned ← narrowScope scope options.projectIds
  let sections ← normaliseProjection options.projection
  let hops ← validDepth options.depth
  let headings ← validDirection options.direction
  let kinds ← validKinds options.edgeKinds []
  match ← selectTarget py pinned target with
  | .ambiguous candidateIds => ambiguousContext py pinned sections hops target candidateIds
  | .one resolved =>
    -- the budgets are passed on as given, and the walk checks them
    let walk ← boundedWalk pinned [resolved.id] {
      depth := some hops
      direction := some headings.name
      edgeKinds := (namedKinds kinds).map (·.map EdgeKind.name)
      maxNodes := some (options.maxNodes.getD defaultMaxNodes)
      maxEdges := some (options.maxEdges.getD defaultMaxEdges) }
    contextAnswer pinned sections resolved walk

/-! ### The code of `neighbors` and `dependencies` -/

/-- The answer to an ambiguous target. -/
def ambiguousNeighbor (operation : Text) (request : DirectedRequest) (target : Text)
    (candidateIds : List Text) : Except QueryModelError NeighborResult :=
  (candidateDocuments request.pinned request.sections candidateIds).map fun candidates => {
    target := none
    status := .ambiguousTarget
    operation := operation
    direction := request.heading
    edgeKinds := namedKinds request.kinds
    depth := request.hops
    nodes := []
    edges := []
    unresolved := []
    candidates := candidates
    perKind := Dict.empty
    visited := 0
    depthReached := 0
    truncated := false
    reasons := []
    frontier := []
    warnings := [ambiguousWarning py target candidateIds] }

/-- The answer of a walk. -/
def neighborAnswer (operation : Text) (request : DirectedRequest) (resolved : Node) (walk : Walk) :
    Except QueryModelError NeighborResult :=
  (nodeDocuments request.pinned request.sections walk.nodes).map fun nodes => {
    target := some resolved.id
    status := .ok
    operation := operation
    direction := request.heading
    edgeKinds := namedKinds request.kinds
    depth := walk.depth
    nodes := nodes
    edges := walk.edges.map Edge.asDocument
    unresolved := walk.unresolved.map Edge.asDocument
    candidates := []
    perKind := perKind (walk.unresolved ++ walk.edges)
    visited := walk.visited
    depthReached := walk.depthReached
    truncated := walk.truncated
    reasons := walk.reasons
    frontier := walk.frontier
    warnings := warningIf (!walk.unresolved.isEmpty)
      (Text.format ["unresolved_edges: ", Text.ofNat walk.unresolved.length,
        " pinned edges out of this traversal have no resolved target and were not followed"]) }

/-- The walk of a request. -/
def DirectedRequest.walk (request : DirectedRequest) (resolved : Node) :
    Except QueryModelError Walk :=
  boundedWalk request.pinned [resolved.id]
    (walkOptions request.hops request.heading (namedKinds request.kinds) none request.nodeBudget
      request.edgeBudget)

/-- `_neighbour_traversal(operation, scope, target, ...)` -/
def neighbourTraversal (operation : Text) (scope : GraphSet) (target : Text)
    (options : QueryOptions) : Except QueryModelError NeighborResult := do
  let request ← directedRequest scope options
  match ← selectTarget py request.pinned target with
  | .ambiguous candidateIds => ambiguousNeighbor py operation request target candidateIds
  | .one resolved =>
    let walk ← request.walk resolved
    neighborAnswer operation request resolved walk

/-- The constant `DEFAULT_NEIGHBOUR_DEPTH`. -/
def defaultNeighbourDepth : ℤ := 1

/-- The keyword defaults of `neighbors`. -/
def neighborsDefaults : QueryOptions :=
  keywordDefaults (some defaultNeighbourDepth) none (some defaultProjectionNames)

/-- `neighbors(scope, target, ...)` -/
def neighbors (scope : GraphSet) (target : Text) (options : QueryOptions) :
    Except QueryModelError NeighborResult :=
  neighbourTraversal py "neighbors" scope target options

/-- `dependencies(scope, target, ...)`: the outgoing case, whatever direction was chosen. -/
def dependencies (scope : GraphSet) (target : Text) (options : QueryOptions) :
    Except QueryModelError NeighborResult :=
  neighbourTraversal py "dependencies" scope target
    { options with direction := some Direction.outgoing.name }

end Code

/-! ### When an answer is returned -/

/-- The setting of a request's walk. -/
def DirectedRequest.setting (request : DirectedRequest) : WalkSetting :=
  ⟨request.hops, request.heading, namedKinds request.kinds, request.nodeBudget,
    request.edgeBudget, none⟩

variable {py : Interpreter} {scope : GraphSet} {options : QueryOptions} {request : DirectedRequest}
  {target : Text} {resolved : Node}

/-- The walk of a request returns exactly when every node it sees is pinned. -/
theorem DirectedRequest.walk_outcome (accepted : request.Accepted scope options)
    (rooted : request.pinned.Pinned resolved.id) :
    LooksUp request.pinned
      (request.setting.search request.pinned [resolved.id] request.hops).seen
      (request.walk resolved) (Walked request.pinned request.setting [resolved.id]) := by
  have admitted : (walkOptions request.hops request.heading (namedKinds request.kinds) none
      request.nodeBudget request.edgeBudget).setting = .ok request.setting :=
    walkOptions_setting (validDepth_le accepted.hops) (validNodeBudget_range accepted.nodeBudget)
      (validEdgeBudget_le accepted.edgeBudget) (validKinds_sorted accepted.kinds)
      fun _ allowed => by cases allowed
  rw [DirectedRequest.walk, boundedWalk_single rooted admitted]
  have outcome : LooksUp request.pinned _ (walkFrom request.pinned request.setting [resolved.id]) _ :=
    walkFrom_outcome (List.nodup_singleton _)
  exact outcome

theorem neighbourTraversal_outcome {operation : Text} (accepted : request.Accepted scope options)
    (named : request.pinned.resolve py target = .ok resolved) :
    LooksUp request.pinned
      (request.setting.search request.pinned [resolved.id] request.hops).seen
      (neighbourTraversal py operation scope target options) fun _ => True := by
  have same : neighbourTraversal py operation scope target options =
      request.walk resolved >>= neighborAnswer operation request resolved := by
    unfold neighbourTraversal
    rw [directedRequest_ok.mpr accepted]
    change (selectTarget py request.pinned target >>= _) = _
    rw [selectTarget_one.mpr named]
    rfl
  rw [same]
  refine (request.walk_outcome accepted (GraphSet.pinned_of_resolve named)).bind fun walk walked => ?_
  obtain ⟨documents, shown, _⟩ := nodeDocuments_ok request.sections walked.nodes_pinned
  exact ⟨_, map_eq_ok.mpr ⟨documents, shown, rfl⟩, trivial⟩

/-- A bound passed on as given is the bound it is validated to. -/
theorem getD_of_boundedInt {value : Option ℤ} {name : Text} {low high default bound : ℕ}
    (accepted : boundedInt value name low high default = .ok bound) :
    value.getD default = (bound : ℤ) := by
  rcases boundedInt_ok accepted with ⟨rfl, rfl⟩ | ⟨rfl, _⟩
  · rfl
  · rfl

theorem context_outcome (accepted : request.Accepted scope options)
    (named : request.pinned.resolve py target = .ok resolved) :
    LooksUp request.pinned
      (request.setting.search request.pinned [resolved.id] request.hops).seen
      (context py scope target options) fun _ => True := by
  have same : context py scope target options =
      request.walk resolved >>= contextAnswer request.pinned request.sections resolved := by
    unfold context
    rw [accepted.pinned, accepted.sections, accepted.hops, accepted.heading, accepted.kinds,
      getD_of_boundedInt accepted.nodeBudget, getD_of_boundedInt accepted.edgeBudget]
    change (selectTarget py request.pinned target >>= _) = _
    rw [selectTarget_one.mpr named]
    rfl
  rw [same]
  refine (request.walk_outcome accepted (GraphSet.pinned_of_resolve named)).bind fun walk walked => ?_
  obtain ⟨documents, shown, _⟩ :=
    relatedDocuments_ok (relationsOf walk) request.sections walked.nodes_pinned
  exact ⟨_, map_eq_ok.mpr ⟨documents, shown, rfl⟩, trivial⟩

end AxiomMcp.Query
