/-
**A shortest bounded path between two nodes, and how sure the answer is.**

`path` searches level by level from the source with parent links, and stops at the goal or at the first
edge or node over a budget: `tryEdge` tries one edge, `tryEdges` is the loop over the edges of a node,
`tryNodes` the loop over a level, `searchLevels` the loop over the levels. `backtrack` reads a found
path off the parent links.

A search that ends without the goal says why absence is not proven: a budget, a missing member, an
unresolved edge at or naming a visited node, or the depth.
-/

import AxiomMcp.Query.Callers

namespace AxiomMcp.Query

open AxiomMcp.Lib

/-- A path or its absence. -/
structure PathResult where
  target : Option Text
  targetTo : Option Text
  status : Status
  operation : Text
  direction : Direction
  edgeKinds : List EdgeKind
  depth : ℕ
  found : Bool
  length : ℕ
  nodes : List JsonObject
  edges : List JsonObject
  candidates : List JsonObject
  unresolved : List JsonObject
  searchedProjects : List Text
  missingProjects : List Text
  visited : ℕ
  depthReached : ℕ
  budgetExhausted : Bool
  provenAbsent : Bool
  reasons : List WalkReason
  frontier : List Text
  incompleteReasons : List IncompleteReason
  warnings : List Text

namespace DirectedRequest

variable (request : DirectedRequest)

/-- `incident_edges(pinned, node_id, heading, tuple(kinds) or None)` -/
def incident (nodeId : Text) : List Edge :=
  Query.incident request.pinned nodeId request.heading (namedKinds request.kinds) none

/-! ### The search -/

/-- What a search knows. -/
structure State where
  /-- The edge each visited node was reached by, with where it was reached from. -/
  parent : Dict Text (Option (Text × Edge))
  visited : List Text
  seenEdges : List Text
  unresolved : Dict Text Edge
  nextLevel : List Text
  reasons : List WalkReason
  budgetExhausted : Bool
  found : Bool

/-- The search ends here. -/
def State.stopped (state : State) : Bool := state.found || state.budgetExhausted

/-- A budget ends the search. -/
def State.exhaust (state : State) (reason : WalkReason) : State :=
  { state with reasons := state.reasons.insert reason, budgetExhausted := true }

/-- A node is reached by an edge. -/
def State.reach (state : State) (far nodeId : Text) (edge : Edge) : State :=
  { state with
    parent := state.parent.set far (some (nodeId, edge))
    visited := state.visited ++ [far] }

/-- The body of the loop over the incident edges of a node. It leaves the loop where it stops the
search, and nowhere else. -/
def tryEdge (goal nodeId : Text) (state : State) (edge : Edge) : State :=
  if edge.id ∈ state.seenEdges then state
  else if state.seenEdges.length ≥ request.edgeBudget then state.exhaust .maxEdges
  else
    let state := { state with seenEdges := state.seenEdges ++ [edge.id] }
    if !edge.resolved then
      { state with unresolved := state.unresolved.setDefault edge.id edge }
    else if state.visited.length ≥ request.nodeBudget then state.exhaust .maxNodes
    else
      match otherEnd edge nodeId request.heading with
      | none => state
      | some far =>
        if far = goal then { state.reach far nodeId edge with found := true }
        else if state.parent.has far then state
        else { state.reach far nodeId edge with nextLevel := state.nextLevel ++ [far] }

/-- The loop over the incident edges of a node. -/
def tryEdges (goal nodeId : Text) : List Edge → State → State
  | [], state => state
  | edge :: rest, state =>
    let state := request.tryEdge goal nodeId state edge
    if state.stopped then state else tryEdges goal nodeId rest state

/-- The loop over the nodes of a level. -/
def tryNodes (goal : Text) : List Text → State → State
  | [], state => state
  | nodeId :: rest, state =>
    let state := request.tryEdges goal nodeId (request.incident nodeId) state
    if state.stopped then state else tryNodes goal rest state

/-- What a search ended with. -/
structure Outcome where
  state : State
  current : List Text
  depthReached : ℕ

/-- The loop over the levels, `remaining` of them after `level` done. -/
def searchLevels (goal : Text) (state : State) (current : List Text) (level : ℕ) : ℕ → Outcome
  | 0 => ⟨state, current, level⟩
  | remaining + 1 =>
    if current = [] then ⟨state, current, level⟩
    else
      let state := request.tryNodes goal current { state with nextLevel := [] }
      if state.stopped then ⟨state, current, level + 1⟩
      else searchLevels goal state state.nextLevel (level + 1) remaining

/-- The state before the first level. -/
def firstState (start : Text) : State where
  parent := Dict.empty.set start none
  visited := [start]
  seenEdges := []
  unresolved := Dict.empty
  nextLevel := []
  reasons := []
  budgetExhausted := false
  found := false

/-- The search from a source to a goal. -/
def search (start goal : Text) : Outcome :=
  if start = goal then ⟨{ firstState start with found := true }, [start], 0⟩
  else request.searchLevels goal (firstState start) [start] 0 request.hops

end DirectedRequest

/-- The loop over the parent links: from a node back to the source, its ids and its edges. It ends at
a node without a parent; a link leads to a node visited before, so it takes no more rounds than there
are nodes. -/
def backtrack (parent : Dict Text (Option (Text × Edge))) : ℕ → Text → List Text × List Edge
  | 0, _ => ([], [])
  | rounds + 1, cursor =>
    match parent.get? cursor with
    | some (some (previous, edge)) =>
      let (ids, edges) := backtrack parent rounds previous
      (cursor :: ids, edge :: edges)
    | _ => ([cursor], [])

/-! ### The answers -/

section Answers

variable (py : Interpreter) (request : DirectedRequest)

/-- `_ambiguous(...)` -/
def ambiguousPath (target targetTo label : Text) (candidateIds : List Text) :
    Except QueryModelError PathResult :=
  (candidateDocuments request.pinned request.sections candidateIds).map fun candidates => {
    target := none
    targetTo := none
    status := .ambiguousTarget
    operation := "path"
    direction := request.heading
    edgeKinds := request.kinds
    depth := request.hops
    found := false
    length := 0
    nodes := []
    edges := []
    candidates := candidates
    unresolved := []
    searchedProjects := request.pinned.searchedProjects
    missingProjects := request.pinned.missingProjects
    visited := 0
    depthReached := 0
    budgetExhausted := false
    provenAbsent := false
    reasons := []
    frontier := []
    incompleteReasons := [.ambiguousTarget]
    warnings := [Text.format ["ambiguous_target: ", Text.ofNat candidateIds.length,
      " pinned nodes match ", label.pyRepr py.isPrintable, " (", target.pyRepr py.isPrintable,
      " -> ", targetTo.pyRepr py.isPrintable,
      "); candidates are returned instead of one pick"]] }

/-- The answer when the goal was found. -/
def foundPath (start goal : Node) (outcome : DirectedRequest.Outcome) :
    Except QueryModelError PathResult := do
  let state := outcome.state
  let (ids, edges) := backtrack state.parent state.parent.size goal.id
  let pathNodes ← ids.reverse.mapM request.pinned.node
  let pathEdges := edges.reverse
  let nodes ← nodeDocuments request.pinned request.sections pathNodes
  return {
    target := some start.id
    targetTo := some goal.id
    status := .ok
    operation := "path"
    direction := request.heading
    edgeKinds := request.kinds
    depth := request.hops
    found := true
    length := pathEdges.length
    nodes := nodes
    edges := pathEdges.map Edge.asDocument
    candidates := []
    unresolved := state.unresolved.values.map Edge.asDocument
    searchedProjects := request.pinned.searchedProjects
    missingProjects := request.pinned.missingProjects
    visited := state.visited.length
    depthReached := pathEdges.length
    budgetExhausted := false
    provenAbsent := false
    reasons := []
    frontier := []
    incompleteReasons := []
    warnings := [] }

/-- The unresolved edges that name a visited node, then those met, each id once: the first place of an
id and the last edge with it by name, or the edge met. -/
def relevantUnresolved (visited : List Node) (unresolved : Dict Text Edge) : Dict Text Edge :=
  unresolved.values.foldl (fun relevant edge => relevant.setDefault edge.id edge)
    (Dict.ofList Edge.id (visited.flatMap (unresolvedReferences py request.pinned)))

/-- Why absence is not proven. -/
def pathIncomplete (state : DirectedRequest.State) (relevant : Dict Text Edge) (depthLimited : Bool) :
    List (IncompleteReason × Text) :=
  let missing := request.pinned.missingProjects
  reasonIf state.budgetExhausted .budgetExhausted
      (Text.format ["budget_exhausted: the search stopped at ",
        Text.join "/" ((sortedBy WalkReason.name state.reasons).map WalkReason.name),
        " before the frontier emptied; absence of a path is not proven"]) ++
    reasonIf (!missing.isEmpty) .missingMembers
      (Text.format ["incomplete_scope: ", Text.ofNat missing.length,
        " requested member(s) are not pinned in this scope (", Text.join ", " missing,
        "); a missing member could hold a path"]) ++
    reasonIf (!relevant.values.isEmpty) .unresolvedEdges
      (Text.format ["unresolved_edges: ", Text.ofNat relevant.size,
        " unresolved edge(s) name a node this search visited; one of them could be the missing hop"])
      ++
    reasonIf depthLimited .depthLimited
      (Text.format ["depth_limited: the search stopped at depth ", Text.ofNat request.hops,
        " with a non-empty frontier; a longer path cannot be excluded"])

/-- The answer when the goal was not found. -/
def absentPath (start goal : Node) (outcome : DirectedRequest.Outcome) :
    Except QueryModelError PathResult := do
  let state := outcome.state
  let visitedNodes ← state.visited.mapM request.pinned.node
  let relevant := relevantUnresolved py request visitedNodes state.unresolved
  let depthLimited := !outcome.current.isEmpty &&
    decide (outcome.depthReached ≥ request.hops) && !state.budgetExhausted
  let incomplete := pathIncomplete request state relevant depthLimited
  return {
    target := some start.id
    targetTo := some goal.id
    status := .ok
    operation := "path"
    direction := request.heading
    edgeKinds := request.kinds
    depth := request.hops
    found := false
    length := 0
    nodes := []
    edges := []
    candidates := []
    unresolved := relevant.values.map Edge.asDocument
    searchedProjects := request.pinned.searchedProjects
    missingProjects := request.pinned.missingProjects
    visited := state.visited.length
    depthReached := outcome.depthReached
    budgetExhausted := state.budgetExhausted
    provenAbsent := incomplete.isEmpty
    reasons := sortedBy WalkReason.name state.reasons
    frontier := sortedBy id outcome.current
    incompleteReasons := incomplete.map Prod.fst
    warnings := incomplete.map Prod.snd ++ warningIf incomplete.isEmpty
      (Text.format ["no_path: the frontier emptied within depth ", Text.ofNat request.hops, " over ",
        Text.ofNat state.visited.length,
        " node(s); no valid pinned path exists in this scope under these filters"]) }

/-- The answer of a search. -/
def answerPath (start goal : Node) : Except QueryModelError PathResult :=
  let outcome := request.search start.id goal.id
  if outcome.state.found then foundPath request start goal outcome
  else absentPath py request start goal outcome

/-- The keyword defaults of `path`. -/
def pathDefaults : QueryOptions := keywordDefaults (some defaultDepth) none (some defaultProjectionNames)

/-- `path(scope, target, target_to, ...)` -/
def path (scope : GraphSet) (target targetTo : Text) (options : QueryOptions) :
    Except QueryModelError PathResult := do
  let request ← directedRequest scope options
  match ← selectTarget py request.pinned target with
  | .ambiguous candidateIds => ambiguousPath py request target targetTo target candidateIds
  | .one start =>
    match ← selectTarget py request.pinned targetTo with
    | .ambiguous candidateIds => ambiguousPath py request target targetTo targetTo candidateIds
    | .one goal => answerPath py request start goal

end Answers

end AxiomMcp.Query
