/-
**The callers of a node, over every pinned member.**

`callers` walks backwards along incoming edges and calls its answer complete when no member is missing,
no budget cut the walk and no unresolved edge names the target.

* `ReverseRequest` is the validated request `callers` and `impact` share, `ReverseRequest.walk` the walk
  both make; it always returns (`ReverseRequest.walk_ok`), since an incoming edge starts at a pinned
  node.
* `callers_complete` — **on a scope with unique edge ids a complete answer is complete**. The
  unresolved edges are looked up in `scope.edges()`, which keeps one edge of each id, so an id shared by
  two members can hide one (`callers_complete_hides`).
-/

import AxiomMcp.Query.Traversal

namespace AxiomMcp.Query

open AxiomMcp.Lib

/-! ### Answers -/

/-- Whether the target was one node. -/
inductive Status
  | ok | ambiguousTarget
  deriving DecidableEq, Repr

/-- Why an answer may lack something. -/
inductive IncompleteReason
  | ambiguousTarget | budgetExhausted | coverageNotComplete | depthLimited | missingMembers
  | truncated | unresolvedEdges
  deriving DecidableEq, Repr

/-- The name a reason is reported under. -/
def IncompleteReason.name : IncompleteReason → Text
  | .ambiguousTarget => "ambiguous_target"
  | .budgetExhausted => "budget_exhausted"
  | .coverageNotComplete => "coverage_not_complete"
  | .depthLimited => "depth_limited"
  | .missingMembers => "missing_members"
  | .truncated => "truncated"
  | .unresolvedEdges => "unresolved_edges"

/-- A reason that applies, with its warning. -/
def reasonIf (applies : Bool) (reason : IncompleteReason) (warning : Text) :
    List (IncompleteReason × Text) :=
  if applies then [(reason, warning)] else []

/-- A warning that applies. -/
def warningIf (applies : Bool) (warning : Text) : List Text := if applies then [warning] else []

/-- The bounded reverse closure of one target, with the scope it read. -/
structure CallersResult where
  target : Option Text
  status : Status
  operation : Text
  direction : Direction
  edgeKinds : List EdgeKind
  depth : ℕ
  nodes : List JsonObject
  edges : List JsonObject
  unresolved : List JsonObject
  candidates : List JsonObject
  perKind : Dict Text ℕ
  perProject : Dict Text ℕ
  searchedProjects : List Text
  missingProjects : List Text
  crossProject : List Text
  visited : ℕ
  depthReached : ℕ
  truncated : Bool
  reasons : List WalkReason
  frontier : List Text
  complete : Bool
  incompleteReasons : List IncompleteReason
  warnings : List Text

/-! ### The request -/

/-- Every edge kind except containment, in the order of their names. -/
def callerKinds : List EdgeKind := EdgeKind.all.filter fun kind => decide (kind ≠ .contains)

/-- The validated request of an operation that walks backwards. -/
structure ReverseRequest where
  pinned : GraphSet
  sections : List Projection
  hops : ℕ
  kinds : List EdgeKind
  nodeBudget : ℕ
  edgeBudget : ℕ

/-- The validation at the head of `callers` and `impact`. -/
def reverseRequest (scope : GraphSet) (options : QueryOptions) :
    Except QueryModelError ReverseRequest := do
  let pinned ← narrowScope scope options.projectIds
  let sections ← normaliseProjection options.projection
  let hops ← validDepth options.depth
  let kinds ← validKinds options.edgeKinds callerKinds
  let nodeBudget ← validNodeBudget options.maxNodes
  let edgeBudget ← validEdgeBudget options.maxEdges
  return { pinned, sections, hops, kinds, nodeBudget, edgeBudget }

/-- The walk of a request to some depth, under some resolutions. -/
def ReverseRequest.walk (request : ReverseRequest) (resolved : Node) (hops : ℕ)
    (resolutions : Option (List Resolution)) : Except QueryModelError Walk :=
  boundedWalk request.pinned [resolved.id]
    (walkOptions hops .incoming (some request.kinds) resolutions request.nodeBudget
      request.edgeBudget)

/-! ### The code -/

section Code

variable (py : Interpreter)

/-- The answer to an ambiguous target. -/
def ambiguousCallers (request : ReverseRequest) (target : Text) (candidateIds : List Text) :
    Except QueryModelError CallersResult :=
  (candidateDocuments request.pinned request.sections candidateIds).map fun candidates => {
    target := none
    status := .ambiguousTarget
    operation := "callers"
    direction := .incoming
    edgeKinds := request.kinds
    depth := request.hops
    nodes := []
    edges := []
    unresolved := []
    candidates := candidates
    perKind := Dict.empty
    perProject := Dict.empty
    searchedProjects := request.pinned.searchedProjects
    missingProjects := request.pinned.missingProjects
    crossProject := []
    visited := 0
    depthReached := 0
    truncated := false
    reasons := []
    frontier := []
    complete := false
    incompleteReasons :=
      if request.pinned.missingProjects ≠ [] then [.missingMembers] else [.ambiguousTarget]
    warnings := [ambiguousWarning py target candidateIds] }

/-- The nodes a walk lists besides the target. -/
def besides (resolved : Node) (walk : Walk) : List Node :=
  walk.nodes.filter fun node => decide (node.id ≠ resolved.id)

/-- The projects other than the target's that hold a listed caller. -/
def crossProject (resolved : Node) (walk : Walk) : List Text :=
  sortedBy id ((perProject (besides resolved walk)).keys.filter
    fun project => decide (project ≠ resolved.projectId))

/-- What makes the answer of a walk incomplete. -/
def callersIncomplete (pinned : GraphSet) (resolved : Node) (walk : Walk)
    (unresolvedEdges : List Edge) : List (IncompleteReason × Text) :=
  let missing := pinned.missingProjects
  reasonIf (!missing.isEmpty) .missingMembers
      (Text.format ["incomplete_search: ", Text.ofNat missing.length,
        " requested member(s) are not pinned in this scope (", Text.join ", " missing,
        "); an empty or short caller list is not proof there are no callers"]) ++
    reasonIf walk.truncated .truncated
      (Text.format ["truncated: expansion stopped at ",
        Text.join "/" (walk.reasons.map WalkReason.name),
        "; more callers may exist beyond the searched region"]) ++
    reasonIf (!unresolvedEdges.isEmpty) .unresolvedEdges
      (Text.format ["unresolved_edges: ", Text.ofNat unresolvedEdges.length,
        " pinned edge(s) name ", resolved.name.pyRepr py.isPrintable,
        " without a resolved source and were not followed; they may be callers this ",
        "generation cannot place"])

/-- The answer of a walk. -/
def callersAnswer (request : ReverseRequest) (resolved : Node) (walk : Walk) :
    Except QueryModelError CallersResult :=
  let pinned := request.pinned
  let unresolvedEdges := walk.unresolved ++ unresolvedReferences py pinned resolved
  let callerNodes := besides resolved walk
  let across := crossProject resolved walk
  let incomplete := callersIncomplete py pinned resolved walk unresolvedEdges
  (nodeDocuments pinned request.sections callerNodes).map fun nodes => {
    target := some resolved.id
    status := .ok
    operation := "callers"
    direction := .incoming
    edgeKinds := request.kinds
    depth := walk.depth
    nodes := nodes
    edges := walk.edges.map Edge.asDocument
    unresolved := unresolvedEdges.map Edge.asDocument
    candidates := []
    perKind := perKind walk.edges
    perProject := perProject callerNodes
    searchedProjects := pinned.searchedProjects
    missingProjects := pinned.missingProjects
    crossProject := across
    visited := walk.visited
    depthReached := walk.depthReached
    truncated := walk.truncated
    reasons := walk.reasons
    frontier := walk.frontier
    complete := incomplete.isEmpty
    incompleteReasons := incomplete.map Prod.fst
    warnings := incomplete.map Prod.snd ++ warningIf (!across.isEmpty)
      (Text.format ["cross_project: ", Text.ofNat across.length, " member(s) outside ",
        resolved.projectId.pyRepr py.isPrintable, " hold callers of this node (",
        Text.join ", " across, ")"]) }

/-- The keyword defaults of `callers`. -/
def callersDefaults : QueryOptions := keywordDefaults (some defaultDepth) none (some defaultProjectionNames)

/-- `callers(scope, target, ...)` -/
def callers (scope : GraphSet) (target : Text) (options : QueryOptions) :
    Except QueryModelError CallersResult := do
  let request ← reverseRequest scope options
  match ← selectTarget py request.pinned target with
  | .ambiguous candidateIds => ambiguousCallers py request target candidateIds
  | .one resolved =>
    let walk ← request.walk resolved request.hops none
    callersAnswer py request resolved walk

end Code

/-! ### The request and its walks -/

/-- What the validation guarantees. -/
structure ReverseRequest.Valid (request : ReverseRequest) : Prop where
  hops : request.hops ≤ maxDepth
  nodeBudget : 1 ≤ request.nodeBudget ∧ request.nodeBudget ≤ maxNodes
  edgeBudget : request.edgeBudget ≤ maxEdges
  kinds : sortedSet EdgeKind.name request.kinds = request.kinds

/-- The setting of a request's walk. -/
def ReverseRequest.setting (request : ReverseRequest) (hops : ℕ)
    (resolutions : Option (List Resolution)) : WalkSetting :=
  ⟨hops, .incoming, some request.kinds, request.nodeBudget, request.edgeBudget, resolutions⟩

/-- One hop backwards along a resolved edge of a requested kind. -/
def ReverseRequest.Hop (request : ReverseRequest) : Text → Text → Prop :=
  Query.Hop request.pinned .incoming (some request.kinds) none

variable {py : Interpreter} {scope : GraphSet} {options : QueryOptions} {request : ReverseRequest}
  {resolved : Node} {walk : Walk}

theorem reverseRequest_ok (accepted : reverseRequest scope options = .ok request) :
    narrowScope scope options.projectIds = .ok request.pinned ∧ request.Valid := by
  obtain ⟨pinned, narrowed, accepted⟩ := bind_eq_ok.mp accepted
  obtain ⟨sections, _, accepted⟩ := bind_eq_ok.mp accepted
  obtain ⟨hops, depth, accepted⟩ := bind_eq_ok.mp accepted
  obtain ⟨kinds, chosen, accepted⟩ := bind_eq_ok.mp accepted
  obtain ⟨nodeBudget, nodes, accepted⟩ := bind_eq_ok.mp accepted
  obtain ⟨edgeBudget, edges, accepted⟩ := bind_eq_ok.mp accepted
  cases accepted
  have normal : sortedSet EdgeKind.name callerKinds = callerKinds := by decide
  exact ⟨narrowed, validDepth_le depth, validNodeBudget_range nodes, validEdgeBudget_le edges,
    choiceList_sorted normal chosen⟩

/-- The walks of a request return. -/
theorem ReverseRequest.walk_ok (valid : request.Valid) (rooted : request.pinned.Pinned resolved.id)
    {hops : ℕ} (depth : hops ≤ maxDepth) {resolutions : Option (List Resolution)}
    (normal : ∀ allowed, resolutions = some allowed →
      sortedSet Resolution.name allowed = allowed ∧ allowed ≠ []) :
    ∃ walk, request.walk resolved hops resolutions = .ok walk ∧
      Walked request.pinned (request.setting hops resolutions) [resolved.id] walk := by
  have admitted : (walkOptions hops .incoming (some request.kinds) resolutions request.nodeBudget
      request.edgeBudget).setting = .ok (request.setting hops resolutions) := by
    refine walkOptions_setting depth valid.nodeBudget valid.edgeBudget ?_ normal
    rintro chosen ⟨rfl⟩
    exact valid.kinds
  rw [ReverseRequest.walk, boundedWalk_single rooted admitted]
  exact walkFrom_incoming rfl rooted

theorem reverse_unmerged {hops : ℕ} {resolutions : Option (List Resolution)} :
    (request.setting hops resolutions).heading = .both → request.pinned.UniqueEdgeIds :=
  fun both => Direction.noConfusion both

/-- The ids a walk reaches from one node. -/
theorem reaches_single {setting : WalkSetting} {pinned : GraphSet} {nodeId : Text} {n : ℕ} :
    setting.Reaches pinned [nodeId] n = Ball (setting.Hop pinned) {nodeId} n := by
  unfold WalkSetting.Reaches
  simp only [List.mem_singleton]
  rfl

/-- An untruncated walk lists, besides the target, what has a distance from it within the depth. -/
theorem mem_besides (walked : Walked request.pinned (request.setting request.hops none)
      [resolved.id] walk) (whole : walk.truncated = false) {nodeId : Text} :
    nodeId ∈ (besides resolved walk).map Node.id ↔
      ∃ n, 1 ≤ n ∧ n ≤ request.hops ∧ Dist request.Hop resolved.id nodeId n := by
  have distinct : [resolved.id].Nodup := List.nodup_singleton _
  rw [← mem_ball_and_ne_iff, List.mem_map]
  constructor
  · rintro ⟨node, member, rfl⟩
    obtain ⟨listed, apart⟩ := List.mem_filter.mp member
    have reached := (walked.nodes_exact distinct reverse_unmerged whole).mp listed
    rw [reaches_single] at reached
    exact ⟨reached.2, of_decide_eq_true apart⟩
  · rintro ⟨reached, apart⟩
    have inside : nodeId ∈ (request.setting request.hops none).Reaches request.pinned
        [resolved.id] (request.setting request.hops none).hops := by
      rw [reaches_single]
      exact reached
    rw [← within_eq reverse_unmerged, ← (Walked.searched distinct).seen_iff
      (walked.truncated.symm.trans whole)] at inside
    obtain ⟨node, member, rfl⟩ := List.mem_map.mp (walked.seen_pinned nodeId inside)
    refine ⟨node, List.mem_filter.mpr ⟨walked.mem_nodes.mpr ⟨member, inside⟩, ?_⟩, rfl⟩
    exact decide_eq_true apart

/-! ### The answer -/

theorem selectTarget_one {pinned : GraphSet} {target : Text} :
    selectTarget py pinned target = .ok (.one resolved) ↔
      pinned.resolve py target = .ok resolved := by
  unfold selectTarget
  split <;> simp_all

theorem reasonIf_eq_nil {applies : Bool} {reason : IncompleteReason} {warning : Text} :
    reasonIf applies reason warning = [] ↔ applies = false := by
  cases applies <;> simp [reasonIf]

/-- Nothing makes an answer incomplete. -/
theorem callersIncomplete_eq_nil {pinned : GraphSet} {unresolvedEdges : List Edge} :
    callersIncomplete py pinned resolved walk unresolvedEdges = [] ↔
      pinned.missingProjects = [] ∧ walk.truncated = false ∧ unresolvedEdges = [] := by
  unfold callersIncomplete
  simp only [List.append_eq_nil_iff, reasonIf_eq_nil, Bool.not_eq_false', List.isEmpty_iff,
    and_assoc]

/-- An answer is one of the two. -/
theorem callers_ok {target : Text} {result : CallersResult}
    (done : callers py scope target options = .ok result) :
    ∃ request, reverseRequest scope options = .ok request ∧ request.Valid ∧
      ((∃ candidateIds, ambiguousCallers py request target candidateIds = .ok result) ∨
        ∃ resolved walk, request.pinned.resolve py target = .ok resolved ∧
          Walked request.pinned (request.setting request.hops none) [resolved.id] walk ∧
          callersAnswer py request resolved walk = .ok result) := by
  obtain ⟨request, accepted, done⟩ := bind_eq_ok.mp done
  obtain ⟨_, valid⟩ := reverseRequest_ok accepted
  obtain ⟨selected, found, done⟩ := bind_eq_ok.mp done
  refine ⟨request, accepted, valid, ?_⟩
  cases selected with
  | ambiguous candidateIds => exact Or.inl ⟨candidateIds, done⟩
  | one resolved =>
    have named := selectTarget_one.mp found
    obtain ⟨walk, walks, walked⟩ : ∃ walk, request.walk resolved request.hops none = .ok walk ∧
        Walked request.pinned (request.setting request.hops none) [resolved.id] walk :=
      request.walk_ok valid (GraphSet.pinned_of_resolve named) valid.hops fun _ none => by cases none
    obtain ⟨walk', again, answered⟩ := bind_eq_ok.mp done
    rw [walks] at again
    cases again
    exact Or.inr ⟨resolved, walk, named, walked, answered⟩

theorem mem_crossProject {project : Text} :
    project ∈ crossProject resolved walk ↔
      project ≠ resolved.projectId ∧ ∃ node ∈ besides resolved walk, node.projectId = project := by
  rw [crossProject, mem_sortedBy, List.mem_filter, perProject, mem_keys_countBy, and_comm,
    decide_eq_true_iff]

/-- **A complete callers answer is complete**: it lists exactly what has a reverse distance from the target
within the depth, no member is missing, and `cross_project` names the other projects that hold a listed
caller. If the ids of edges are unique, no unresolved edge names the target. -/
theorem callers_complete {target : Text} {result : CallersResult}
    (done : callers py scope target options = .ok result) (complete : result.complete = true) :
    ∃ request resolved, reverseRequest scope options = .ok request ∧
      request.pinned.resolve py target = .ok resolved ∧
      (∀ nodeId, nodeId ∈ listedIds result.nodes ↔
        ∃ n, 1 ≤ n ∧ n ≤ request.hops ∧ Dist request.Hop resolved.id nodeId n) ∧
      request.pinned.missingProjects = [] ∧
      (scope.UniqueEdgeIds → ∀ edge ∈ request.pinned.allEdges, edge.resolved = false →
        Names py edge resolved = false) ∧
      ∀ project, project ∈ result.crossProject ↔ project ≠ resolved.projectId ∧
        ∃ node ∈ request.pinned.allNodes, node.id ∈ listedIds result.nodes ∧
          node.projectId = project := by
  obtain ⟨request, accepted, _, answer⟩ := callers_ok done
  have narrowed := (reverseRequest_ok accepted).1
  rcases answer with ⟨candidateIds, ambiguous⟩ | ⟨resolved, walk, named, walked, answered⟩
  · obtain ⟨_, _, rfl⟩ := map_eq_ok.mp ambiguous
    cases complete
  have inside : ∀ node ∈ besides resolved walk, node ∈ request.pinned.allNodes :=
    fun node member => walked.nodes_pinned node (List.mem_filter.mp member).1
  obtain ⟨documents, shown, ids⟩ := nodeDocuments_ok request.sections inside
  obtain ⟨documents', shown', rfl⟩ := map_eq_ok.mp answered
  rw [shown] at shown'
  cases shown'
  have nothing := List.isEmpty_iff.mp complete
  obtain ⟨missing, whole, none⟩ := callersIncomplete_eq_nil.mp nothing
  refine ⟨request, resolved, accepted, named, ?_, missing, ?_, ?_⟩
  · intro nodeId
    rw [ids]
    exact mem_besides walked whole
  · intro unique edge member dangling
    by_contra names
    rw [Bool.not_eq_false] at names
    have found := (GraphSet.mem_unresolvedReferences (narrowScope_unique narrowed unique)).mpr
      ⟨member, dangling, names⟩
    rw [(List.append_eq_nil_iff.mp none).2] at found
    exact List.not_mem_nil found
  · intro project
    rw [mem_crossProject, ids]
    refine and_congr_right fun _ => ⟨?_, ?_⟩
    · rintro ⟨node, member, home⟩
      exact ⟨node, inside node member, List.mem_map.mpr ⟨node, member, rfl⟩, home⟩
    · rintro ⟨node, member, listed, home⟩
      obtain ⟨other, here, same⟩ := List.mem_map.mp listed
      rw [← GraphSet.node_eq_of_id (inside other here) member same] at home
      exact ⟨other, here, home⟩

/-- A function that is called by another one of a second project. -/
def crossPair : GraphSet :=
  plainScope [
    plainGraph "p" [plainNode "p" "a" 'a'] [] none (by decide),
    plainGraph "q" [plainNode "q" "b" 'b'] [plainEdge "p" '1' 'b' 'a' .calls] none (by decide)] (by decide)

/-- A complete answer with a caller in another project. -/
theorem callers_complete_crossPair : ∃ result request resolved,
    callers .ascii crossPair "a" callersDefaults = .ok result ∧ listedIds result.nodes = [digest 'b'] ∧
      reverseRequest crossPair callersDefaults = .ok request ∧
      request.pinned.resolve .ascii "a" = .ok resolved ∧
      (∃ n, 1 ≤ n ∧ n ≤ request.hops ∧ Dist request.Hop resolved.id (digest 'b') n) ∧
      ∃ node ∈ request.pinned.allNodes, node.id ∈ listedIds result.nodes ∧ node.projectId = "q" := by
  have done : callers .ascii crossPair "a" callersDefaults = .ok _ := rfl
  obtain ⟨request, resolved, accepted, named, nodes, _, _, projects⟩ :=
    callers_complete done (by decide +kernel)
  exact ⟨_, request, resolved, done, by decide +kernel, accepted, named, (nodes _).mp (by decide +kernel),
    ((projects "q").mp (by decide +kernel)).2⟩

/-- Two members whose edges share an id: the second names the target and is hidden by the first. -/
def sharedIdScope : GraphSet :=
  plainScope [
    plainGraph "p" [plainNode "p" "a" 'a'] [plainEdge "p" '1' 'a' 'a' .calls] none (by decide),
    plainGraph "q" [plainNode "q" "b" 'b'] [namedEdge "p" "a" '1' 'b' .calls] none (by decide)] (by decide)

/-- Without unique edge ids a complete answer can miss an unresolved edge that names the target. -/
theorem callers_complete_hides : ∃ result resolved,
    callers .ascii sharedIdScope "a" callersDefaults = .ok result ∧ result.complete = true ∧
      sharedIdScope.resolve .ascii "a" = .ok resolved ∧
      ∃ edge ∈ sharedIdScope.allEdges, edge.resolved = false ∧ Names .ascii edge resolved = true := by
  refine ⟨_, _, rfl, ?_, rfl, ?_⟩
  · decide +kernel
  · decide +kernel

end AxiomMcp.Query
