/-
**The impact closure of a node, labelled with how complete it is.**

`impact` makes the walk of `callers` three times: to its depth, to its depth along static edges, and one
hop deeper. It calls its answer exhaustive when the deeper walk lists no more nodes, no budget cut the
first walk, no member is missing, no unresolved edge names a listed node, and every member pins complete
coverage.

The deeper walk has the budgets of the first, so a closure that fills a budget leaves it nothing to see
with. `Overlooked` is the exact condition for that, in terms of the unlimited search, and
`impact_exhaustive_iff` says: **an exhaustive answer is exhaustive unless its closure goes on unseen**.
-/

import AxiomMcp.Query.Callers

namespace AxiomMcp.Query

open AxiomMcp.Lib

/-! ### The code -/

/-- The conservative reverse closure, split into proven and potential. -/
structure ImpactResult where
  target : Option Text
  status : Status
  operation : Text
  direction : Direction
  edgeKinds : List EdgeKind
  depth : ℕ
  nodes : List JsonObject
  proven : List Text
  potential : List Text
  edges : List JsonObject
  unresolved : List JsonObject
  candidates : List JsonObject
  perKind : Dict Text ℕ
  perProject : Dict Text ℕ
  searchedProjects : List Text
  missingProjects : List Text
  coverage : List (Text × Text)
  visited : ℕ
  depthReached : ℕ
  truncated : Bool
  reasons : List WalkReason
  frontier : List Text
  exhaustive : Bool
  incompleteReasons : List IncompleteReason
  warnings : List Text

/-- `tuple(sorted(STATIC_RESOLUTIONS))` -/
def staticResolutions : List Resolution := [.annotated, .exactStatic]

section Code

variable (py : Interpreter)

/-- The coverage status of every searched project, in project order. -/
def coverageStatuses (pinned : GraphSet) : List (Text × Text) :=
  pinned.graphs.map fun graph => (graph.projectId, graph.coverageStatus py)

/-- The searched projects whose coverage is not complete. -/
def partialCoverage (pinned : GraphSet) : List Text :=
  sortedBy id (((coverageStatuses py pinned).filter fun item =>
    decide (item.2 ≠ ("complete" : Text))).map Prod.fst)

/-- The unresolved edges that name a node of the closure, each id once. -/
def namedUnresolved (pinned : GraphSet) (closure : List Node) : List Edge :=
  (Dict.firstBy Edge.id (closure.flatMap (unresolvedReferences py pinned))).inKeyOrder

/-- The answer to an ambiguous target. -/
def ambiguousImpact (request : ReverseRequest) (target : Text) (candidateIds : List Text) :
    Except QueryModelError ImpactResult :=
  (candidateDocuments request.pinned request.sections candidateIds).map fun candidates => {
    target := none
    status := .ambiguousTarget
    operation := "impact"
    direction := .incoming
    edgeKinds := request.kinds
    depth := request.hops
    nodes := []
    proven := []
    potential := []
    edges := []
    unresolved := []
    candidates := candidates
    perKind := Dict.empty
    perProject := Dict.empty
    searchedProjects := request.pinned.searchedProjects
    missingProjects := request.pinned.missingProjects
    coverage := coverageStatuses py request.pinned
    visited := 0
    depthReached := 0
    truncated := false
    reasons := []
    frontier := []
    exhaustive := false
    incompleteReasons := [.ambiguousTarget]
    warnings := [ambiguousWarning py target candidateIds] }

/-- What makes the answer of a walk incomplete. -/
def impactIncomplete (request : ReverseRequest) (walk : Walk) (depthLimited : Bool)
    (unresolvedEdges : List Edge) : List (IncompleteReason × Text) :=
  let missing := request.pinned.missingProjects
  let uncovered := partialCoverage py request.pinned
  reasonIf depthLimited .depthLimited
      (Text.format ["depth_limited: the closure stops at depth ", Text.ofNat request.hops,
        " and more nodes reach the target beyond it; raise depth (maximum 8) to widen the view"]) ++
    reasonIf walk.truncated .truncated
      (Text.format ["truncated: expansion stopped at ",
        Text.join "/" (walk.reasons.map WalkReason.name),
        "; the closure beyond that point was not seen"]) ++
    reasonIf (!missing.isEmpty) .missingMembers
      (Text.format ["incomplete_scope: ", Text.ofNat missing.length,
        " requested member(s) are not pinned in this scope (", Text.join ", " missing,
        "); a short closure is not proof there is no further impact"]) ++
    reasonIf (!unresolvedEdges.isEmpty) .unresolvedEdges
      (Text.format ["unresolved_edges: ", Text.ofNat unresolvedEdges.length,
        " pinned edge(s) name a node in this closure without a resolved source and were not ",
        "followed; they may add impact"]) ++
    reasonIf (!uncovered.isEmpty) .coverageNotComplete
      (Text.format ["coverage: ", Text.ofNat uncovered.length,
        " searched member(s) do not pin complete coverage (", Text.join ", " uncovered,
        "); the graph itself may be missing nodes or edges"])

/-- The last warning of an answer. -/
def closingWarning (exhaustive : Bool) : Text :=
  if exhaustive then
    "static_potential_impact: a bounded static closure, not proof of runtime damage"
  else "not_exhaustive"

/-- The answer of the walks. -/
def impactAnswer (request : ReverseRequest) (resolved : Node) (walk exactWalk : Walk)
    (depthLimited : Bool) : Except QueryModelError ImpactResult :=
  let pinned := request.pinned
  let closureNodes := besides resolved walk
  let provenIds := sortedBy id ((besides resolved exactWalk).map Node.id)
  let potentialIds := sortedBy id
    ((closureNodes.filter fun node => decide (node.id ∉ provenIds)).map Node.id)
  let unresolvedEdges := walk.unresolved ++ namedUnresolved py pinned (resolved :: closureNodes)
  let incomplete := impactIncomplete py request walk depthLimited unresolvedEdges
  (nodeDocuments pinned request.sections closureNodes).map fun nodes => {
    target := some resolved.id
    status := .ok
    operation := "impact"
    direction := .incoming
    edgeKinds := request.kinds
    depth := walk.depth
    nodes := nodes
    proven := provenIds
    potential := potentialIds
    edges := walk.edges.map Edge.asDocument
    unresolved := unresolvedEdges.map Edge.asDocument
    candidates := []
    perKind := perKind walk.edges
    perProject := perProject closureNodes
    searchedProjects := pinned.searchedProjects
    missingProjects := pinned.missingProjects
    coverage := coverageStatuses py pinned
    visited := walk.visited
    depthReached := walk.depthReached
    truncated := walk.truncated
    reasons := walk.reasons
    frontier := walk.frontier
    exhaustive := incomplete.isEmpty
    incompleteReasons := incomplete.map Prod.fst
    warnings := incomplete.map Prod.snd ++
      warningIf (!potentialIds.isEmpty)
        (Text.format ["potential: ", Text.ofNat potentialIds.length,
          " node(s) rest on non-exact edges and are kept included; only `proven` is backed by ",
          "exact or annotated resolutions"]) ++
      [closingWarning incomplete.isEmpty] }

/-- Whether a closure to the depth of a request may go on beyond it: at the maximum depth always,
otherwise when the walk one hop deeper lists more nodes. -/
def probeDepth (request : ReverseRequest) (resolved : Node) (walk : Walk) :
    Except QueryModelError Bool :=
  if request.hops ≥ maxDepth then .ok true
  else (request.walk resolved (request.hops + 1) none).map fun deeper =>
    decide (deeper.nodes.length > walk.nodes.length)

/-- The keyword defaults of `impact`. -/
def impactDefaults : QueryOptions := keywordDefaults (some defaultDepth) none (some defaultProjectionNames)

/-- `impact(scope, target, ...)` -/
def impact (scope : GraphSet) (target : Text) (options : QueryOptions) :
    Except QueryModelError ImpactResult := do
  let request ← reverseRequest scope options
  match ← selectTarget py request.pinned target with
  | .ambiguous candidateIds => ambiguousImpact py request target candidateIds
  | .one resolved =>
    let walk ← request.walk resolved request.hops none
    let exactWalk ← request.walk resolved request.hops (some staticResolutions)
    let depthLimited ← probeDepth request resolved walk
    impactAnswer py request resolved walk exactWalk depthLimited

end Code

/-! ### The closure and the order it is met in -/

namespace ReverseRequest

variable (request : ReverseRequest) (resolved : Node)

/-- What reaches the target within a number of hops. -/
def Closure (n : ℕ) : Set Text := Ball request.Hop {resolved.id} n

/-- What the walks of a request follow. -/
def net : Net Text Edge Text Bool := walkNet request.pinned .incoming (some request.kinds) none

/-- The closure, in the order a breadth-first search without budgets meets it. -/
def order (n : ℕ) : List Text := (request.net.run unlimited [resolved.id] n).seen

/-- The ids of the edges that end in the closure one hop smaller, in the order that search meets
them. -/
def met (n : ℕ) : List Text := Net.keys (request.net.run unlimited [resolved.id] n).known

variable {request resolved}

theorem within_closure (n : ℕ) : request.net.Within [resolved.id] n = request.Closure resolved n := by
  have same : (request.setting n none).Reaches request.pinned [resolved.id] n =
      request.Closure resolved n := reaches_single
  rw [← same, ← within_eq reverse_unmerged]
  rfl

/-- Incoming edges are resolved, so an id is counted under one tag. -/
theorem inner_tag {n : ℕ} {slot : Text × Bool} (inside : slot ∈ request.net.Inner [resolved.id] n) :
    slot.2 = true := by
  obtain ⟨_, _, u, _, edge, member, rfl⟩ := inside
  have listed : edge ∈ incident request.pinned u .incoming (some request.kinds) none := member
  obtain ⟨_, _, touches⟩ := of_mem_incident listed
  exact Option.isSome_iff_exists.mpr ⟨u, touches⟩

theorem inner_single {n : ℕ} : ∀ a ∈ request.net.Inner [resolved.id] n,
    ∀ b ∈ request.net.Inner [resolved.id] n, a.1 = b.1 → a = b :=
  fun _ left _ right same => Prod.ext same ((inner_tag left).trans (inner_tag right).symm)

/-- The first walk is untruncated exactly when the closure and its edges fit the budgets. -/
theorem whole_iff {walk : Walk}
    (walked : Walked request.pinned (request.setting request.hops none) [resolved.id] walk) :
    walk.truncated = false ↔ (request.order resolved request.hops).length ≤ request.nodeBudget ∧
      (request.met resolved request.hops).length ≤ request.edgeBudget := by
  rw [walked.truncated, met, Net.keys, List.length_map]
  exact Net.cut_eq_false_iff (List.nodup_singleton _) inner_single

end ReverseRequest

/-- **The closure goes on beyond the depth, and nothing in the answer says so.** -/
structure Overlooked (py : Interpreter) (request : ReverseRequest) (resolved : Node) : Prop where
  /-- The depth is not the maximum. -/
  shallow : request.hops < maxDepth
  none_missing : request.pinned.missingProjects = []
  covered : ∀ graph ∈ request.pinned.members, graph.coverageStatus py = ("complete" : Text)
  /-- No unresolved edge names a node of the closure. -/
  none_named : ∀ node ∈ request.pinned.allNodes,
    node.id ∈ request.Closure resolved request.hops →
      unresolvedReferences py request.pinned node = []
  /-- The closure to the depth fits the budgets. -/
  nodes_fit : (request.order resolved request.hops).length ≤ request.nodeBudget
  edges_fit : (request.met resolved request.hops).length ≤ request.edgeBudget
  /-- The closure goes on. -/
  goes_on : ∃ nodeId ∈ request.Closure resolved (request.hops + 1),
    nodeId ∉ request.Closure resolved request.hops
  /-- The closure fills the node budget, or the edges leading on come after the edge budget. -/
  unseen : request.nodeBudget ≤ (request.order resolved request.hops).length ∨
    ∀ edge ∈ request.pinned.allEdges, edge.kind ∈ request.kinds →
      ∀ target ∈ request.Closure resolved request.hops, edge.targetId = some target →
        edge.sourceId ∉ request.Closure resolved request.hops →
          edge.id ∉ (request.met resolved (request.hops + 1)).take request.edgeBudget

section Probe

variable {py : Interpreter} {scope : GraphSet} {options : QueryOptions} {request : ReverseRequest}
  {resolved : Node} {walk deeper : Walk}

/-- The probe lists more exactly when it has room for a node and one of the first edges leads on. -/
theorem deeper_iff
    (walked : Walked request.pinned (request.setting request.hops none) [resolved.id] walk)
    (whole : walk.truncated = false)
    (probed : Walked request.pinned (request.setting (request.hops + 1) none) [resolved.id]
      deeper) :
    deeper.nodes.length > walk.nodes.length ↔
      (request.order resolved request.hops).length < request.nodeBudget ∧
        ∃ edge ∈ request.pinned.allEdges, edge.kind ∈ request.kinds ∧
          ∃ target ∈ request.Closure resolved request.hops, edge.targetId = some target ∧
            edge.sourceId ∉ request.Closure resolved request.hops ∧
            edge.id ∈ (request.met resolved (request.hops + 1)).take request.edgeBudget := by
  have distinct : [resolved.id].Nodup := List.nodup_singleton _
  obtain ⟨_, edges⟩ := (ReverseRequest.whole_iff walked).mp whole
  rw [ReverseRequest.met, Net.keys, List.length_map] at edges
  have uncut : (request.net.run ⟨some request.nodeBudget, some request.edgeBudget⟩ [resolved.id]
      request.hops).cut = false := walked.truncated.symm.trans whole
  have length : walk.nodes.length = (request.order resolved request.hops).length :=
    walked.nodes_length.trans (Net.seen_length_of_uncut distinct uncut)
  have length' : deeper.nodes.length = (request.net.run
      ⟨some request.nodeBudget, some request.edgeBudget⟩ [resolved.id] (request.hops + 1)).seen.length :=
    probed.nodes_length
  rw [gt_iff_lt, length, length', ReverseRequest.order, Net.grows_iff distinct edges,
    ReverseRequest.within_closure, ReverseRequest.met, Net.keys, Net.keys, List.map_take]
  refine and_congr_right fun _ => ⟨?_, ?_⟩
  · rintro ⟨target, within, edge, member, early, source, leads, outside⟩
    have listed : edge ∈ incident request.pinned target .incoming (some request.kinds) none := member
    obtain ⟨inside, passes, ends⟩ := of_mem_incident listed
    have other : otherEnd edge target .incoming = some source := leads
    obtain ⟨_, rfl⟩ : edge.targetId = some target ∧ edge.sourceId = source :=
      otherEnd_eq_some.mp other
    exact ⟨edge, inside, passes.1 _ rfl, target, within, ends, outside, early⟩
  · rintro ⟨edge, inside, kind, target, within, ends, outside, early⟩
    have passes : Passes (some request.kinds) none edge :=
      ⟨fun chosen same => Option.some.inj same ▸ kind, fun _ none => by cases none⟩
    have listed : edge ∈ incident request.pinned target .incoming (some request.kinds) none :=
      (mem_incident fun both => Direction.noConfusion both).mpr ⟨inside, passes, ends⟩
    have joins : Joins .incoming target edge edge.sourceId := ⟨ends, rfl⟩
    exact ⟨target, within, edge, listed, early, edge.sourceId, otherEnd_eq_some.mpr joins, outside⟩

/-! ### The answer -/

theorem impactIncomplete_eq_nil {depthLimited : Bool} {unresolvedEdges : List Edge} :
    impactIncomplete py request walk depthLimited unresolvedEdges = [] ↔
      depthLimited = false ∧ walk.truncated = false ∧ request.pinned.missingProjects = [] ∧
        unresolvedEdges = [] ∧ partialCoverage py request.pinned = [] := by
  unfold impactIncomplete
  simp only [List.append_eq_nil_iff, reasonIf_eq_nil, Bool.not_eq_false', List.isEmpty_iff,
    and_assoc]

theorem partialCoverage_eq_nil {pinned : GraphSet} :
    partialCoverage py pinned = [] ↔
      ∀ graph ∈ pinned.members, graph.coverageStatus py = ("complete" : Text) := by
  unfold partialCoverage
  rw [← List.length_eq_zero_iff, length_sortedBy, List.length_map, List.length_eq_zero_iff,
    List.filter_eq_nil_iff]
  simp only [coverageStatuses, List.mem_map, decide_eq_true_iff, not_not, forall_exists_index,
    and_imp, forall_apply_eq_imp_iff₂, GraphSet.mem_graphs]

/-- A walk along incoming edges meets no unresolved edge. -/
theorem unresolved_eq_nil
    (walked : Walked request.pinned (request.setting request.hops none) [resolved.id] walk) :
    walk.unresolved = [] := by
  refine List.eq_nil_iff_forall_not_mem.mpr fun edge member => ?_
  have counted := (walked.unresolved_ids edge.id).mp ⟨edge, member, rfl⟩
  have inner := (Walked.searched (List.nodup_singleton resolved.id)).known_inner _ counted
  exact Bool.false_ne_true (ReverseRequest.inner_tag inner)

theorem namedUnresolved_eq_nil {pinned : GraphSet} {closure : List Node} :
    namedUnresolved py pinned closure = [] ↔
      ∀ node ∈ closure, unresolvedReferences py pinned node = [] := by
  rw [namedUnresolved, Dict.inKeyOrder_firstBy_eq_nil, List.flatMap_eq_nil_iff]


/-- The node of the target and the nodes besides it are those of the closure. -/
theorem closure_nodes
    (walked : Walked request.pinned (request.setting request.hops none) [resolved.id] walk)
    (whole : walk.truncated = false) (target : resolved ∈ request.pinned.allNodes) {node : Node} :
    node ∈ resolved :: besides resolved walk ↔
      node ∈ request.pinned.allNodes ∧ node.id ∈ request.Closure resolved request.hops := by
  have same : (request.setting request.hops none).Reaches request.pinned [resolved.id]
      request.hops = request.Closure resolved request.hops := reaches_single
  have listed : node ∈ walk.nodes ↔
      node ∈ request.pinned.allNodes ∧ node.id ∈ request.Closure resolved request.hops := by
    rw [← same]
    exact walked.nodes_exact (List.nodup_singleton _) reverse_unmerged whole
  rw [List.mem_cons, besides, List.mem_filter, decide_eq_true_iff, listed]
  constructor
  · rintro (rfl | ⟨member, _⟩)
    · exact ⟨target, roots_subset_ball _ rfl⟩
    · exact member
  · intro member
    by_cases here : node.id = resolved.id
    · exact Or.inl (GraphSet.node_eq_of_id member.1 target here)
    · exact Or.inr ⟨member, here⟩

/-- The answer for a resolved target: the walks return, and the answer is exhaustive exactly when
nothing in it speaks against that. -/
theorem impact_answered {target : Text} (accepted : reverseRequest scope options = .ok request)
    (named : request.pinned.resolve py target = .ok resolved) :
    ∃ walk result,
      Walked request.pinned (request.setting request.hops none) [resolved.id] walk ∧
      impact py scope target options = .ok result ∧
      listedIds result.nodes = (besides resolved walk).map Node.id ∧
      (result.exhaustive = true ↔ probeDepth request resolved walk = .ok false ∧
        walk.truncated = false ∧ request.pinned.missingProjects = [] ∧
        (∀ node ∈ resolved :: besides resolved walk,
          unresolvedReferences py request.pinned node = []) ∧
        ∀ graph ∈ request.pinned.members, graph.coverageStatus py = ("complete" : Text)) := by
  obtain ⟨_, valid⟩ := reverseRequest_ok accepted
  have rooted := GraphSet.pinned_of_resolve named
  obtain ⟨walk, walks, walked⟩ : ∃ walk, request.walk resolved request.hops none = .ok walk ∧
      Walked request.pinned (request.setting request.hops none) [resolved.id] walk :=
    request.walk_ok valid rooted valid.hops fun _ none => by cases none
  obtain ⟨exactWalk, exactWalks, _⟩ : ∃ exactWalk,
      request.walk resolved request.hops (some staticResolutions) = .ok exactWalk ∧
        Walked request.pinned (request.setting request.hops (some staticResolutions)) [resolved.id]
          exactWalk :=
    request.walk_ok valid rooted valid.hops (by rintro allowed ⟨rfl⟩; decide)
  obtain ⟨depthLimited, probes⟩ : ∃ depthLimited,
      probeDepth request resolved walk = .ok depthLimited := by
    unfold probeDepth
    by_cases deep : request.hops ≥ maxDepth
    · exact ⟨true, if_pos deep⟩
    · obtain ⟨deeper, more, _⟩ : ∃ deeper,
          request.walk resolved (request.hops + 1) none = .ok deeper ∧
            Walked request.pinned (request.setting (request.hops + 1) none) [resolved.id] deeper :=
        request.walk_ok valid rooted (by omega) fun _ none => by cases none
      rw [if_neg deep]
      exact ⟨_, map_eq_ok.mpr ⟨deeper, more, rfl⟩⟩
  have inside : ∀ node ∈ besides resolved walk, node ∈ request.pinned.allNodes :=
    fun node member => walked.nodes_pinned node (List.mem_filter.mp member).1
  obtain ⟨documents, shown, ids⟩ := nodeDocuments_ok request.sections inside
  obtain ⟨result, answered⟩ : ∃ result,
      impactAnswer py request resolved walk exactWalk depthLimited = .ok result :=
    ⟨_, map_eq_ok.mpr ⟨documents, shown, rfl⟩⟩
  refine ⟨walk, result, walked, ?_, ?_, ?_⟩
  · refine bind_eq_ok.mpr ⟨request, accepted, bind_eq_ok.mpr
      ⟨.one resolved, selectTarget_one.mpr named, ?_⟩⟩
    exact bind_eq_ok.mpr ⟨walk, walks, bind_eq_ok.mpr ⟨exactWalk, exactWalks,
      bind_eq_ok.mpr ⟨depthLimited, probes, answered⟩⟩⟩
  · obtain ⟨documents', shown', rfl⟩ := map_eq_ok.mp answered
    rw [shown] at shown'
    cases shown'
    exact ids
  · obtain ⟨_, _, rfl⟩ := map_eq_ok.mp answered
    rw [probes, Except.ok.injEq]
    dsimp only
    rw [List.isEmpty_iff, impactIncomplete_eq_nil, unresolved_eq_nil walked, List.nil_append,
      namedUnresolved_eq_nil, partialCoverage_eq_nil]

/-- Whether the probe sees the closure go on. -/
theorem probe_eq_false_iff (valid : request.Valid) (rooted : request.pinned.Pinned resolved.id)
    (walked : Walked request.pinned (request.setting request.hops none) [resolved.id] walk)
    (whole : walk.truncated = false) :
    probeDepth request resolved walk = .ok false ↔ request.hops < maxDepth ∧
      (request.nodeBudget ≤ (request.order resolved request.hops).length ∨
        ∀ edge ∈ request.pinned.allEdges, edge.kind ∈ request.kinds →
          ∀ target ∈ request.Closure resolved request.hops, edge.targetId = some target →
            edge.sourceId ∉ request.Closure resolved request.hops →
              edge.id ∉ (request.met resolved (request.hops + 1)).take request.edgeBudget) := by
  unfold probeDepth
  by_cases deep : request.hops ≥ maxDepth
  · rw [if_pos deep]
    constructor
    · rintro ⟨⟩
    · rintro ⟨shallow, _⟩
      omega
  · obtain ⟨deeper, more, probed⟩ : ∃ deeper,
        request.walk resolved (request.hops + 1) none = .ok deeper ∧
          Walked request.pinned (request.setting (request.hops + 1) none) [resolved.id] deeper :=
      request.walk_ok valid rooted (by omega) fun _ none => by cases none
    rw [if_neg deep, more]
    change Except.ok _ = Except.ok false ↔ _
    rw [Except.ok.injEq, decide_eq_false_iff_not, deeper_iff walked whole probed, not_and_or, not_lt]
    push Not
    exact ⟨fun unseen => ⟨by omega, unseen⟩, fun unseen => unseen.2⟩

end Probe

/-! ### When an exhaustive answer is exhaustive -/

/-- **An exhaustive impact answer lists exactly the nodes that reach the target, by chains of any
length, if and only if the closure does not go on overlooked.** -/
theorem impact_exhaustive_iff (py : Interpreter) (scope : GraphSet) (target : Text)
    (options : QueryOptions) :
    (∀ request resolved result, reverseRequest scope options = .ok request →
        request.pinned.resolve py target = .ok resolved →
        impact py scope target options = .ok result → result.exhaustive = true →
        ∀ nodeId, nodeId ∈ listedIds result.nodes ↔
          nodeId ≠ resolved.id ∧ ∃ n, Chain request.Hop n resolved.id nodeId) ↔
      ∀ request resolved, reverseRequest scope options = .ok request →
        request.pinned.resolve py target = .ok resolved → ¬ Overlooked py request resolved := by
  constructor
  · intro exhausts request resolved accepted named overlooked
    obtain ⟨_, valid⟩ := reverseRequest_ok accepted
    obtain ⟨walk, result, walked, called, ids, exhaustive⟩ := impact_answered accepted named
    have whole : walk.truncated = false :=
      (ReverseRequest.whole_iff walked).mpr ⟨overlooked.nodes_fit, overlooked.edges_fit⟩
    have blind : probeDepth request resolved walk = .ok false :=
      (probe_eq_false_iff valid (GraphSet.pinned_of_resolve named) walked whole).mpr
        ⟨overlooked.shallow, overlooked.unseen⟩
    have unnamed : ∀ node ∈ resolved :: besides resolved walk,
        unresolvedReferences py request.pinned node = [] := fun node member => by
      obtain ⟨inside, reached⟩ :=
        (closure_nodes walked whole (GraphSet.resolve_mem named)).mp member
      exact overlooked.none_named node inside reached
    have claimed := exhaustive.mpr
      ⟨blind, whole, overlooked.none_missing, unnamed, overlooked.covered⟩
    obtain ⟨nodeId, beyond, outside⟩ := overlooked.goes_on
    obtain ⟨n, _, chain⟩ := mem_ball_singleton.mp beyond
    have apart : nodeId ≠ resolved.id := by
      rintro rfl
      exact outside (roots_subset_ball _ rfl)
    have listed := (exhausts request resolved result accepted named called claimed nodeId).mpr
      ⟨apart, n, chain⟩
    rw [ids, mem_besides walked whole, ← mem_ball_and_ne_iff] at listed
    exact outside listed.1
  · intro clear request resolved result accepted named called claimed nodeId
    obtain ⟨_, valid⟩ := reverseRequest_ok accepted
    obtain ⟨walk, result', walked, called', ids, exhaustive⟩ := impact_answered accepted named
    rw [called] at called'
    cases called'
    obtain ⟨blind, whole, missing, unnamed, covered⟩ := exhaustive.mp claimed
    obtain ⟨nodes, edges⟩ := (ReverseRequest.whole_iff walked).mp whole
    obtain ⟨shallow, unseen⟩ :=
      (probe_eq_false_iff valid (GraphSet.pinned_of_resolve named) walked whole).mp blind
    have closed : request.Closure resolved (request.hops + 1) ⊆
        request.Closure resolved request.hops := by
      by_contra goesOn
      obtain ⟨v, beyond, outside⟩ := Set.not_subset.mp goesOn
      exact clear request resolved accepted named {
        shallow := shallow
        none_missing := missing
        covered := covered
        none_named := fun node inside reached => unnamed node
          ((closure_nodes walked whole (GraphSet.resolve_mem named)).mpr ⟨inside, reached⟩)
        nodes_fit := nodes
        edges_fit := edges
        goes_on := ⟨v, beyond, outside⟩
        unseen := unseen }
    rw [ids, mem_besides walked whole, ← mem_ball_and_ne_iff, and_comm]
    refine and_congr_right fun _ => ⟨?_, ?_⟩
    · intro reached
      obtain ⟨n, _, chain⟩ := mem_ball_singleton.mp reached
      exact ⟨n, chain⟩
    · rintro ⟨n, chain⟩
      exact mem_ball_of_chain closed rfl chain

/-- A chain of three calls in one project with complete coverage. -/
def callChain : GraphSet :=
  plainScope [plainGraph "p"
    [plainNode "p" "a" 'a',
      plainNode "p" "b" 'b',
      plainNode "p" "c" 'c']
    [plainEdge "p" '1' 'b' 'a' .calls,
      plainEdge "p" '2' 'c' 'b' .calls]
    (some [("status", .str "complete")]) (by decide)] (by decide)

/-- Under a budget of two nodes, the impact of `a` to depth 1 is called exhaustive without `c`. -/
theorem impact_exhaustive_overlooks : ∃ result,
    impact .ascii callChain "a" { impactDefaults with depth := some 1, maxNodes := some 2 } = .ok result ∧
      result.exhaustive = true ∧ digest 'c' ∉ listedIds result.nodes ∧
      Chain (Hop callChain .incoming (some callerKinds) none) 2 (digest 'a') (digest 'c') := by
  refine ⟨_, rfl, by decide +kernel, by decide +kernel, ?_⟩
  have first : Hop callChain .incoming (some callerKinds) none (digest 'a') (digest 'b') :=
    ⟨plainEdge "p" '1' 'b' 'a' .calls,
      List.mem_cons_self,
      ⟨by rintro chosen ⟨rfl⟩; decide, by rintro allowed ⟨⟩⟩, rfl, rfl⟩
  have second : Hop callChain .incoming (some callerKinds) none (digest 'b') (digest 'c') :=
    ⟨plainEdge "p" '2' 'c' 'b' .calls,
      List.mem_cons_of_mem _ List.mem_cons_self,
      ⟨by rintro chosen ⟨rfl⟩; decide, by rintro allowed ⟨⟩⟩, rfl, rfl⟩
  exact .snoc (.snoc (.nil _) first) second

end AxiomMcp.Query
