/-
**The bounded walk every graph operation rests on.**

`boundedWalk` validates its options, then walks level by level from the sorted roots: `examine` is the
body of the inner loop, `expandLevel` the two loops around it, `visitAll` the lookups after a level and
`walkLevels` the outer loop. A node is looked up in the scope after the level that discovered it, so
an edge whose target is not pinned makes the walk raise `noNode`.
-/

import AxiomMcp.Query.Incident

namespace AxiomMcp.Query

open AxiomMcp.Lib

/-! ### Options -/

/-- The budget that stopped a walk. -/
inductive WalkReason
  | maxEdges | maxNodes
  deriving DecidableEq, Repr

/-- The name a reason is reported under. -/
def WalkReason.name : WalkReason → Text
  | .maxEdges => "max_edges"
  | .maxNodes => "max_nodes"

/-- The keyword arguments of a walk. -/
structure WalkOptions where
  depth : Option ℤ := none
  direction : Option Text := none
  edgeKinds : Option (List Text) := none
  resolutions : Option (List Text) := none
  maxNodes : Option ℤ := none
  maxEdges : Option ℤ := none

/-- The options once validated. -/
structure WalkSetting where
  hops : ℕ
  heading : Direction
  kinds : Option (List EdgeKind)
  nodeBudget : ℕ
  edgeBudget : ℕ
  allowedResolutions : Option (List Resolution)

/-- `None if edge_kinds is None else choice_list(edge_kinds, ...)` -/
def optionalKinds (edgeKinds : Option (List Text)) :
    Except QueryModelError (Option (List EdgeKind)) :=
  match edgeKinds with
  | none => .ok none
  | some values =>
    (choiceList EdgeKind.name (some values) "edge_kinds" EdgeKind.all []).map some

/-- The resolutions a walk follows, of which at least one has to be named. -/
def optionalResolutions (resolutions : Option (List Text)) :
    Except QueryModelError (Option (List Resolution)) :=
  match resolutions with
  | none => .ok none
  | some values =>
    match choiceList Resolution.name (some values) "resolutions" Resolution.all [] with
    | .error refused => .error refused
    | .ok [] => .error .noResolution
    | .ok selected => .ok (some selected)

/-- The validation at the head of `bounded_walk`. -/
def WalkOptions.setting (options : WalkOptions) : Except QueryModelError WalkSetting := do
  let hops ← boundedInt options.depth "depth" 0 maxDepth defaultDepth
  let heading ← choice Direction.name options.direction "direction" Direction.all .both
  let kinds ← optionalKinds options.edgeKinds
  let nodeBudget ← boundedInt options.maxNodes "max_nodes" 1 Query.maxNodes defaultMaxNodes
  let edgeBudget ← boundedInt options.maxEdges "max_edges" 0 Query.maxEdges defaultMaxEdges
  let allowedResolutions ← optionalResolutions options.resolutions
  return { hops, heading, kinds, nodeBudget, edgeBudget, allowedResolutions }

/-! ### The loops -/

/-- What a walk knows inside a level. -/
structure LevelScan where
  walked : Dict Text Edge
  unresolved : Dict Text Edge
  discovered : List Text
  reasons : List WalkReason
  blockedAt : List Text

/-- What a walk knows between two levels. -/
structure WalkState where
  visited : Dict Text Node
  walked : Dict Text Edge
  unresolved : Dict Text Edge
  reasons : List WalkReason
  blockedAt : List Text
  current : List Text
  depthReached : ℕ

section Loops

variable (pinned : GraphSet) (setting : WalkSetting)

/-- `_incident(pinned, node_id, heading, kinds, allowed_resolutions)` -/
def WalkSetting.incident (nodeId : Text) : List Edge :=
  Query.incident pinned nodeId setting.heading setting.kinds setting.allowedResolutions

/-- A budget refused something at a node. -/
def LevelScan.block (scan : LevelScan) (reason : WalkReason) (nodeId : Text) : LevelScan :=
  { scan with
    reasons := scan.reasons.insert reason
    blockedAt := scan.blockedAt.insert nodeId }

/-- An edge is collected, under its class. -/
def LevelScan.collect (scan : LevelScan) (edge : Edge) : LevelScan :=
  if edge.resolved then { scan with walked := scan.walked.setDefault edge.id edge }
  else { scan with unresolved := scan.unresolved.setDefault edge.id edge }

/-- The body of the loop over the incident edges of a node. -/
def examine (visited : Dict Text Node) (nodeId : Text) (scan : LevelScan) (edge : Edge) :
    LevelScan :=
  let known := scan.walked.has edge.id || scan.unresolved.has edge.id
  if !known && decide (scan.walked.size + scan.unresolved.size ≥ setting.edgeBudget) then
    scan.block .maxEdges nodeId
  else
    let scan := scan.collect edge
    match otherEnd edge nodeId setting.heading with
    | none => scan
    | some other =>
      if visited.has other || decide (other ∈ scan.discovered) then scan
      else if visited.size + scan.discovered.length ≥ setting.nodeBudget then
        scan.block .maxNodes nodeId
      else { scan with discovered := scan.discovered ++ [other] }

/-- The loop over the nodes of a level. -/
def expandLevel (state : WalkState) : LevelScan :=
  state.current.foldl
    (fun scan nodeId => (setting.incident pinned nodeId).foldl
      (examine setting state.visited nodeId) scan)
    ⟨state.walked, state.unresolved, [], state.reasons, state.blockedAt⟩

/-- `visited[node_id] = pinned.node(node_id)` for every discovered node. -/
def visitAll (visited : Dict Text Node) : List Text → Except QueryModelError (Dict Text Node)
  | [] => .ok visited
  | nodeId :: rest =>
    match pinned.node nodeId with
    | .error refused => .error refused
    | .ok node => visitAll (visited.set nodeId node) rest

/-- The state after a level. -/
def WalkState.next (state : WalkState) (scan : LevelScan) (visited : Dict Text Node) (level : ℕ) :
    WalkState where
  visited := visited
  walked := scan.walked
  unresolved := scan.unresolved
  reasons := scan.reasons
  blockedAt := scan.blockedAt
  current := scan.discovered
  depthReached := if scan.discovered = [] then state.depthReached else level

/-- The loop over the levels, `remaining` of them, `level` being the next one. -/
def walkLevels (state : WalkState) (level : ℕ) : ℕ → Except QueryModelError WalkState
  | 0 => .ok state
  | remaining + 1 =>
    if state.current = [] then .ok state
    else
      let scan := expandLevel pinned setting state
      match visitAll pinned state.visited scan.discovered with
      | .error refused => .error refused
      | .ok visited =>
        walkLevels (state.next scan visited level) (level + 1) remaining

/-- The loop over the roots: those over the node budget are refused at the first of them. -/
def visitRoots (visited : Dict Text Node) :
    List Text → Except QueryModelError (Dict Text Node × Option Text)
  | [] => .ok (visited, none)
  | nodeId :: rest =>
    if visited.size ≥ setting.nodeBudget then .ok (visited, some nodeId)
    else
      match pinned.node nodeId with
      | .error refused => .error refused
      | .ok node => visitRoots (visited.set nodeId node) rest

/-- The state before the first level. -/
def firstState (orderedRoots : List Text) (visited : Dict Text Node) (refusedRoot : Option Text) :
    WalkState where
  visited := visited
  walked := Dict.empty
  unresolved := Dict.empty
  reasons := if refusedRoot.isSome then [.maxNodes] else []
  blockedAt := refusedRoot.toList
  current := orderedRoots.filter visited.has
  depthReached := 0

/-- Everything before the first level. -/
def startWalk (orderedRoots : List Text) : Except QueryModelError WalkState :=
  match visitRoots pinned setting Dict.empty orderedRoots with
  | .error refused => .error refused
  | .ok (visited, refusedRoot) => .ok (firstState orderedRoots visited refusedRoot)

end Loops

/-! ### The result -/

/-- The bounded result of a walk. -/
structure Walk where
  roots : List Text
  nodes : List Node
  edges : List Edge
  unresolved : List Edge
  depth : ℕ
  depthReached : ℕ
  truncated : Bool
  reasons : List WalkReason
  frontier : List Text

/-- `walk.node_ids` -/
def Walk.nodeIds (walk : Walk) : List Text := walk.nodes.map Node.id

/-- `walk.visited` -/
def Walk.visited (walk : Walk) : ℕ := walk.nodes.length

/-- What the last state is returned as. -/
def WalkState.result (state : WalkState) (setting : WalkSetting) (orderedRoots : List Text) :
    Walk where
  roots := orderedRoots
  nodes := state.visited.inKeyOrder
  edges := state.walked.inKeyOrder
  unresolved := state.unresolved.inKeyOrder
  depth := setting.hops
  depthReached := state.depthReached
  truncated := !state.reasons.isEmpty
  reasons := sortedBy WalkReason.name state.reasons
  frontier := sortedBy id state.blockedAt

/-- The walk from validated roots. -/
def walkFrom (pinned : GraphSet) (setting : WalkSetting) (orderedRoots : List Text) :
    Except QueryModelError Walk :=
  match startWalk pinned setting orderedRoots with
  | .error refused => .error refused
  | .ok state =>
    match walkLevels pinned setting state 1 setting.hops with
    | .error refused => .error refused
    | .ok state => .ok (state.result setting orderedRoots)

/-- The roots, sorted and each once, where all of them are digests. -/
def orderRoots (roots : List Text) : Except QueryModelError (List Text) :=
  match roots.find? fun root => !isSha256 root with
  | some root => .error (.notDigest "walk root" root)
  | none => .ok (sortedSet id roots)

/-- `bounded_walk(scope, roots, ...)` -/
def boundedWalk (pinned : GraphSet) (roots : List Text) (options : WalkOptions) :
    Except QueryModelError Walk := do
  let setting ← options.setting
  let orderedRoots ← orderRoots roots
  walkFrom pinned setting orderedRoots

end AxiomMcp.Query
