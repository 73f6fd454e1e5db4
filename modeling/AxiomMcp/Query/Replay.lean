/-
**Answers do not depend on the order a scope was assembled in.**

Every operation reads its scope through the lookups of `GraphSet.SameLookups`, so scopes with the same
lookups get the same answer: function by function from `visitAll_same` to the operations. What an
operation is given and what it raises are covered alike, and so are truncated answers: the order in
which a budget is spent is the order of the lookups.

* `answers_relisted` — **two assemblies of one scope, with unique edge ids, get equal answers from
  `boundedWalk`, `impact`, `callers`, `path`, `searchSymbols` and `changes`**.
-/

import AxiomMcp.Query.Assembly
import AxiomMcp.Query.Impact
import AxiomMcp.Query.Path
import AxiomMcp.Query.Search
import AxiomMcp.Query.Changes

namespace AxiomMcp.Query

open AxiomMcp.Lib

variable {a b : GraphSet}

/-- Narrowed scopes have the same lookups. -/
theorem narrowScope_lookups (same : a.Relisted b) (unique : a.UniqueEdgeIds)
    (projectIds : Option (List Text)) :
    Alike GraphSet.SameLookups (narrowScope a projectIds) (narrowScope b projectIds) := by
  rcases (narrowScope_relisted same projectIds).outcomes with
    ⟨refused, left, right⟩ | ⟨pinned, pinned', left, right, related⟩
  · rw [left, right]
    exact .error _
  · rw [left, right]
    exact .ok (sameLookups related (narrowScope_unique left unique))

/-! ### The walk -/

section Walk

variable (same : a.SameLookups b)
include same

theorem visitAll_same (nodeIds : List Text) :
    ∀ visited, visitAll a visited nodeIds = visitAll b visited nodeIds := by
  induction nodeIds with
  | nil => exact fun _ => rfl
  | cons nodeId rest ih =>
    intro visited
    rw [visitAll, visitAll, same.node]
    cases b.node nodeId with
    | error refused => rfl
    | ok node => exact ih _

theorem visitRoots_same (setting : WalkSetting) (roots : List Text) :
    ∀ visited, visitRoots a setting visited roots = visitRoots b setting visited roots := by
  induction roots with
  | nil => exact fun _ => rfl
  | cons nodeId rest ih =>
    intro visited
    rw [visitRoots, visitRoots, same.node]
    cases b.node nodeId with
    | error refused => rfl
    | ok node =>
      dsimp only
      rw [ih]

theorem walkLevels_same (setting : WalkSetting) (remaining : ℕ) :
    ∀ state level, walkLevels a setting state level remaining =
      walkLevels b setting state level remaining := by
  induction remaining with
  | zero => exact fun _ _ => rfl
  | succ remaining ih =>
    intro state level
    have expanded : expandLevel a setting state = expandLevel b setting state := by
      unfold expandLevel WalkSetting.incident
      rw [same.incident]
    rw [walkLevels, walkLevels, expanded]
    simp only [visitAll_same same, ih]

theorem boundedWalk_same (roots : List Text) (options : WalkOptions) :
    boundedWalk a roots options = boundedWalk b roots options := by
  have walks : ∀ setting ordered, walkFrom a setting ordered = walkFrom b setting ordered := by
    intro setting ordered
    unfold walkFrom startWalk
    rw [visitRoots_same same]
    simp only [walkLevels_same same]
  unfold boundedWalk
  simp only [walks]

end Walk

/-! ### Targets and documents -/

section Targets

variable (same : a.SameLookups b)
include same

theorem selectTarget_same (py : Interpreter) (target : Text) :
    selectTarget py a target = selectTarget py b target := by
  unfold selectTarget GraphSet.resolve GraphSet.matchText
  rw [same.nodes]

theorem candidateDocuments_same (sections : List Projection) (candidateIds : List Text) :
    candidateDocuments a sections candidateIds = candidateDocuments b sections candidateIds := by
  unfold candidateDocuments
  rw [same.node]

theorem nodeDocuments_same (sections : List Projection) (nodes : List Node) :
    nodeDocuments a sections nodes = nodeDocuments b sections nodes := by
  unfold nodeDocuments relatedDocuments
  congr 1
  funext node
  rcases (same.graph node.projectId).outcomes with
    ⟨refused, left, right⟩ | ⟨graph, other, left, right, related⟩
  · rw [left, right]
  · rw [left, right]
    simp only [Except.map, Graph.coverageDocument, related.coverage]

theorem unresolvedReferences_same (py : Interpreter) (node : Node) :
    unresolvedReferences py a node = unresolvedReferences py b node := by
  unfold unresolvedReferences
  rw [same.edges]

theorem coverageStatuses_same (py : Interpreter) :
    coverageStatuses py a = coverageStatuses py b :=
  GraphSet.Relisted.map_eq (fun related => by
    rw [related.projectId, Graph.coverageStatus, Graph.coverageStatus, related.coverage]) same.graphs

end Targets

/-! ### Callers and impact -/

/-- Two requests that differ in their scopes only, which have the same lookups. -/
def ReverseRequest.Relisted (r r' : ReverseRequest) : Prop :=
  ∃ pinned, r.pinned.SameLookups pinned ∧ r' = { r with pinned := pinned }

theorem reverseRequest_relisted (same : a.Relisted b) (unique : a.UniqueEdgeIds)
    (options : QueryOptions) :
    Alike ReverseRequest.Relisted (reverseRequest a options) (reverseRequest b options) := by
  unfold reverseRequest
  refine (narrowScope_lookups same unique _).bind fun pinned pinned' lookups => ?_
  refine Alike.after _ fun sections => Alike.after _ fun hops => Alike.after _ fun kinds => ?_
  refine Alike.after _ fun nodeBudget => Alike.after _ fun edgeBudget => ?_
  exact .ok ⟨pinned', lookups, rfl⟩

theorem callers_relisted (py : Interpreter) (same : a.Relisted b) (unique : a.UniqueEdgeIds)
    (target : Text) (options : QueryOptions) :
    callers py a target options = callers py b target options := by
  unfold callers
  refine (reverseRequest_relisted same unique options).bind_eq ?_
  rintro request _ ⟨pinned, lookups, rfl⟩
  unfold ambiguousCallers ReverseRequest.walk callersAnswer callersIncomplete
  simp only [selectTarget_same lookups, candidateDocuments_same lookups, boundedWalk_same lookups,
    nodeDocuments_same lookups, unresolvedReferences_same lookups, GraphSet.searchedProjects,
    lookups.projectIds, lookups.missingProjects]

theorem impact_relisted (py : Interpreter) (same : a.Relisted b) (unique : a.UniqueEdgeIds)
    (target : Text) (options : QueryOptions) :
    impact py a target options = impact py b target options := by
  unfold impact
  refine (reverseRequest_relisted same unique options).bind_eq ?_
  rintro request _ ⟨pinned, lookups, rfl⟩
  have references : unresolvedReferences py request.pinned = unresolvedReferences py pinned :=
    funext (unresolvedReferences_same lookups py)
  unfold ambiguousImpact ReverseRequest.walk probeDepth ReverseRequest.walk impactAnswer
    impactIncomplete partialCoverage namedUnresolved
  simp only [selectTarget_same lookups, candidateDocuments_same lookups, boundedWalk_same lookups,
    nodeDocuments_same lookups, references, coverageStatuses_same lookups,
    GraphSet.searchedProjects, lookups.projectIds, lookups.missingProjects]

/-! ### Path -/

/-- Two requests that differ in their scopes only, which have the same lookups. -/
def DirectedRequest.Relisted (r r' : DirectedRequest) : Prop :=
  ∃ pinned, r.pinned.SameLookups pinned ∧ r' = { r with pinned := pinned }

theorem directedRequest_relisted (same : a.Relisted b) (unique : a.UniqueEdgeIds)
    (options : QueryOptions) :
    Alike DirectedRequest.Relisted (directedRequest a options) (directedRequest b options) := by
  unfold directedRequest
  refine (narrowScope_lookups same unique _).bind fun pinned pinned' lookups => ?_
  refine Alike.after _ fun sections => Alike.after _ fun hops => Alike.after _ fun heading => ?_
  refine Alike.after _ fun kinds => Alike.after _ fun nodeBudget => Alike.after _ fun edgeBudget => ?_
  exact .ok ⟨pinned', lookups, rfl⟩

section Search

/-- The loop over some edges does not read the scope. -/
theorem tryEdges_same (request : DirectedRequest) (pinned : GraphSet) (goal nodeId : Text) (edges : List Edge) :
    ∀ state, request.tryEdges goal nodeId edges state =
      DirectedRequest.tryEdges { request with pinned := pinned } goal nodeId edges state := by
  induction edges with
  | nil => exact fun _ => rfl
  | cons edge rest ih =>
    intro state
    rw [DirectedRequest.tryEdges, DirectedRequest.tryEdges]
    simp only [ih]
    rfl

variable {request : DirectedRequest} {pinned : GraphSet}
  (lookups : request.pinned.SameLookups pinned)
include lookups

theorem tryNodes_same (goal : Text) (nodeIds : List Text) :
    ∀ state, request.tryNodes goal nodeIds state =
      DirectedRequest.tryNodes { request with pinned := pinned } goal nodeIds state := by
  induction nodeIds with
  | nil => exact fun _ => rfl
  | cons nodeId rest ih =>
    intro state
    have edges : request.incident nodeId =
        DirectedRequest.incident { request with pinned := pinned } nodeId := by
      unfold DirectedRequest.incident
      rw [lookups.incident]
    rw [DirectedRequest.tryNodes, DirectedRequest.tryNodes]
    simp only [edges, tryEdges_same request pinned, ih]

theorem searchLevels_same (goal : Text) (remaining : ℕ) :
    ∀ state current level, request.searchLevels goal state current level remaining =
      DirectedRequest.searchLevels { request with pinned := pinned } goal state current level
        remaining := by
  induction remaining with
  | zero => exact fun _ _ _ => rfl
  | succ remaining ih =>
    intro state current level
    rw [DirectedRequest.searchLevels, DirectedRequest.searchLevels]
    simp only [tryNodes_same lookups, ih]

theorem answerPath_same (py : Interpreter) (start goal : Node) :
    answerPath py request start goal =
      answerPath py { request with pinned := pinned } start goal := by
  have searched : request.search start.id goal.id =
      DirectedRequest.search { request with pinned := pinned } start.id goal.id := by
    unfold DirectedRequest.search
    rw [searchLevels_same lookups]
  have references : unresolvedReferences py request.pinned = unresolvedReferences py pinned :=
    funext (unresolvedReferences_same lookups py)
  unfold answerPath foundPath absentPath relevantUnresolved pathIncomplete
  simp only [searched, lookups.node, nodeDocuments_same lookups, references,
    GraphSet.searchedProjects, lookups.projectIds, lookups.missingProjects]

end Search

theorem path_relisted (py : Interpreter) (same : a.Relisted b) (unique : a.UniqueEdgeIds)
    (target targetTo : Text) (options : QueryOptions) :
    path py a target targetTo options = path py b target targetTo options := by
  unfold path
  refine (directedRequest_relisted same unique options).bind_eq ?_
  rintro request _ ⟨pinned, lookups, rfl⟩
  unfold ambiguousPath
  simp only [selectTarget_same lookups, candidateDocuments_same lookups, answerPath_same lookups,
    GraphSet.searchedProjects, lookups.projectIds, lookups.missingProjects]

/-! ### Symbol search -/

theorem scanNodes_same (py : Interpreter) {request : SearchRequest} {pinned : GraphSet}
    (lookups : request.pinned.SameLookups pinned) (order : List Text) :
    ∀ ranked scanned, scanNodes py request ranked scanned order =
      scanNodes py { request with pinned := pinned } ranked scanned order := by
  induction order with
  | nil => exact fun _ _ => rfl
  | cons nodeId rest ih =>
    intro ranked scanned
    rw [scanNodes, scanNodes, lookups.node]
    simp only [ih]
    rfl

/-- Two requests that differ in their scopes only, which have the same lookups. -/
def SearchRequest.Relisted (r r' : SearchRequest) : Prop :=
  ∃ pinned, r.pinned.SameLookups pinned ∧ r' = { r with pinned := pinned }

theorem searchRequest_relisted (same : a.Relisted b) (unique : a.UniqueEdgeIds) (query : Text)
    (options : SearchOptions) :
    Alike SearchRequest.Relisted (searchRequest a query options) (searchRequest b query options) := by
  unfold searchRequest
  split
  · exact .error _
  · refine (narrowScope_lookups same unique _).bind fun pinned pinned' lookups => ?_
    dsimp only
    split
    all_goals
      refine Alike.after _ fun _ => Alike.after _ fun ceiling => Alike.after _ fun allowance => ?_
      exact .ok ⟨pinned', lookups, rfl⟩

theorem searchSymbols_relisted (py : Interpreter) (same : a.Relisted b) (unique : a.UniqueEdgeIds)
    (query : Text) (options : SearchOptions) :
    searchSymbols py a query options = searchSymbols py b query options := by
  unfold searchSymbols
  refine (searchRequest_relisted same unique query options).bind_eq ?_
  rintro request _ ⟨pinned, lookups, rfl⟩
  have index : buildSymbolIndex py request.pinned = buildSymbolIndex py pinned := by
    unfold buildSymbolIndex
    rw [lookups.nodes, lookups.projectIds]
  have ranked : ∀ index, rankAll py request index =
      rankAll py { request with pinned := pinned } index := by
    intro index
    unfold rankAll
    simp only [scanNodes_same py lookups]
  have listed : ∀ ranked, rankedCandidates request ranked =
      rankedCandidates { request with pinned := pinned } ranked := by
    intro ranked
    unfold rankedCandidates
    rw [lookups.node]
    rfl
  unfold answerSearch
  simp only [index, ranked, listed]
  rfl

/-! ### Changes -/

theorem schemaOf_relisted (same : a.Relisted b) : schemaOf a = schemaOf b := by
  unfold schemaOf
  rw [GraphSet.Relisted.map_eq Graph.Relisted.schemaMajor same.graphs_pairs]

theorem generations_relisted (same : a.Relisted b) : a.generations = b.generations :=
  GraphSet.Relisted.map_eq (fun related => by rw [related.projectId, related.generationId])
    same.graphs_pairs

theorem chooseHead_relisted (same : a.Relisted b) (projectIds : Option (List Text)) :
    Alike GraphSet.Relisted (chooseHead a projectIds) (chooseHead b projectIds) := by
  cases projectIds with
  | none => exact .ok same
  | some projectIds => exact Alike.after _ fun chosen => chosen_alike same chosen []

variable {c d : GraphSet}

theorem diffProject_relisted (same : a.Relisted b) (same' : c.Relisted d) (project : Text) :
    diffProject a c project = diffProject b d project := by
  unfold diffProject
  refine (same.graph_alike project).bind_eq fun head head' related => ?_
  refine (same'.graph_alike project).bind_eq fun baseline baseline' related' => ?_
  rw [diffKind_perm head.node_ids baseline.node_ids related.nodes related'.nodes,
    diffKind_perm head.edge_ids baseline.edge_ids related.edges related'.edges]

theorem changesBetween_relisted (same : a.Relisted b) (same' : c.Relisted d) :
    changesBetween a c = changesBetween b d := by
  have diffs : diffProject a c = diffProject b d :=
    funext (diffProject_relisted same same')
  unfold changesBetween compareScopes refusedChanges
  simp only [same.projectIds_eq, same'.projectIds_eq, schemaOf_relisted same,
    schemaOf_relisted same', generations_relisted same, generations_relisted same', diffs,
    Option.map_some, Option.bind_some]

theorem changes_relisted (same : a.Relisted b) {base base' : Option GraphSet}
    (same' : Option.Rel GraphSet.Relisted base base') (projectIds : Option (List Text)) :
    changes a base projectIds = changes b base' projectIds := by
  unfold changes
  refine (chooseHead_relisted same projectIds).bind_eq fun head head' related => ?_
  cases same' with
  | none =>
    unfold refusedChanges
    rw [generations_relisted related, schemaOf_relisted related]
  | some baselines => exact changesBetween_relisted related baselines

/-! ### All operations -/

/-- **Two assemblies of one scope get equal answers.** -/
theorem answers_relisted (py : Interpreter) (same : a.Relisted b) (unique : a.UniqueEdgeIds) :
    (∀ roots options, boundedWalk a roots options = boundedWalk b roots options) ∧
      (∀ target options, impact py a target options = impact py b target options) ∧
      (∀ target options, callers py a target options = callers py b target options) ∧
      (∀ target targetTo options,
        path py a target targetTo options = path py b target targetTo options) ∧
      (∀ query options, searchSymbols py a query options = searchSymbols py b query options) ∧
      ∀ base base' projectIds, Option.Rel GraphSet.Relisted base base' →
        changes a base projectIds = changes b base' projectIds :=
  ⟨boundedWalk_same (sameLookups same unique), impact_relisted py same unique,
    callers_relisted py same unique, path_relisted py same unique,
    searchSymbols_relisted py same unique,
    fun _ _ projectIds baselines => changes_relisted same baselines projectIds⟩

/-- The functions of `callPair`, listed the other way round. -/
def callPairReversed : GraphSet :=
  plainScope [plainGraph "p"
    [plainNode "p" "b" 'b',
      plainNode "p" "a" 'a']
    [plainEdge "p" '1' 'a' 'b' .calls]
    none (by decide)] (by decide)

theorem answers_relisted_callPair :
    (∀ roots options,
      boundedWalk callPair roots options = boundedWalk callPairReversed roots options) ∧
      changes callPair (some callPairReversed) none =
        changes callPairReversed (some callPair) none := by
  have turned : callPair.Relisted callPairReversed :=
    ⟨⟨_, .refl _, .cons ⟨rfl, rfl, .swap _ _ _, .refl _, rfl, rfl⟩ .nil⟩, rfl⟩
  have back : callPairReversed.Relisted callPair :=
    ⟨⟨_, .refl _, .cons ⟨rfl, rfl, .swap _ _ _, .refl _, rfl, rfl⟩ .nil⟩, rfl⟩
  have equal := answers_relisted .ascii turned (by decide)
  exact ⟨equal.1, equal.2.2.2.2.2 _ _ none (.some back)⟩

end AxiomMcp.Query
