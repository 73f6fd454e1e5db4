/-
**How an impact answer splits its closure.**

The proven ids are those of a second walk, along exact and annotated edges only, and the potential ids are
what is left of the first walk. Both walks have the same budgets, so where a budget strikes, the second can
list nodes the first never does, and such a node is proven without being listed.

* `impact_parts`: the answer in terms of its two walks;
* `proven_chain`: from a proven node a chain of exact or annotated edges leads to the target;
* `impact_splits_iff`: **the split is exact if and only if the first nodes along exact and annotated edges are
  among the first nodes along all edges** (`ReverseRequest.firstNodes`, which the unlimited searches tell).

With a budget of two nodes an inferred edge can take the room of an exact one (`impact_split_overruns`).
-/

import AxiomMcp.Query.Impact

namespace AxiomMcp.Query

open AxiomMcp.Lib

variable {py : Interpreter} {scope : GraphSet} {target : Text} {options : QueryOptions}
  {request : ReverseRequest} {resolved : Node}

/-! ### The split and the condition for it -/

/-- A backward hop along an exact or annotated edge of a requested kind. -/
def ReverseRequest.StaticHop (request : ReverseRequest) : Text → Text → Prop :=
  Query.Hop request.pinned .incoming (some request.kinds) (some staticResolutions)

/-- The closure is split exactly into proven and potential ids, and what is proven is proven. -/
structure ImpactResult.Splits (py : Interpreter) (scope : GraphSet) (target : Text) (options : QueryOptions)
    (result : ImpactResult) : Prop where
  disjoint : ∀ nodeId ∈ result.proven, nodeId ∉ result.potential
  union : ∀ nodeId, nodeId ∈ result.proven ∨ nodeId ∈ result.potential ↔ nodeId ∈ listedIds result.nodes
  proven : ∀ nodeId ∈ result.proven, ∃ request resolved, reverseRequest scope options = .ok request ∧
    request.pinned.resolve py target = .ok resolved ∧
      ∃ n ≤ request.hops, Chain request.StaticHop n resolved.id nodeId

/-- The first nodes met from the target, as many as the node budget allows, along the first edges met, as many
as the edge budget allows. Both orders are those of breadth-first searches without budgets. -/
def ReverseRequest.firstNodes (request : ReverseRequest) (resolved : Node)
    (resolutions : Option (List Resolution)) : List Text :=
  let net := walkNet request.pinned .incoming (some request.kinds) resolutions
  let met := Net.keys ((net.run unlimited [resolved.id] request.hops).known.take request.edgeBudget)
  ((net.only met).run unlimited [resolved.id] request.hops).seen.take request.nodeBudget

/-- The first nodes are those a search under the budgets sees. -/
theorem firstNodes_eq (resolutions : Option (List Resolution)) :
    request.firstNodes resolved resolutions =
      ((walkNet request.pinned .incoming (some request.kinds) resolutions).run
        ⟨some request.nodeBudget, some request.edgeBudget⟩ [resolved.id] request.hops).seen :=
  (Net.run_seen _ _ _ _ _).symm

/-- The target itself comes first. -/
theorem root_first (valid : request.Valid) {resolutions : Option (List Resolution)} :
    resolved.id ∈ request.firstNodes resolved resolutions := by
  rw [firstNodes_eq]
  refine (Net.run_seen_mono (Nat.zero_le request.hops)).subset ?_
  obtain ⟨more, room⟩ : ∃ more, request.nodeBudget = more + 1 :=
    ⟨request.nodeBudget - 1, by have low := valid.nodeBudget.1; omega⟩
  rw [room]
  exact List.mem_cons_self

/-! ### The two walks of an answer -/

/-- A walk of a request lists its first nodes. -/
theorem walked_first {resolutions : Option (List Resolution)} {walk : Walk}
    (walked : Walked request.pinned (request.setting request.hops resolutions) [resolved.id] walk)
    {nodeId : Text} : nodeId ∈ walk.nodeIds ↔ nodeId ∈ request.firstNodes resolved resolutions := by
  rw [walked.mem_nodeIds, firstNodes_eq]
  rfl

theorem mem_besides_ids {walk : Walk} {nodeId : Text} :
    nodeId ∈ (besides resolved walk).map Node.id ↔ nodeId ∈ walk.nodeIds ∧ nodeId ≠ resolved.id := by
  rw [Walk.nodeIds, besides, List.mem_map, List.mem_map]
  constructor
  · rintro ⟨node, member, rfl⟩
    obtain ⟨listed, apart⟩ := List.mem_filter.mp member
    exact ⟨⟨node, listed, rfl⟩, of_decide_eq_true apart⟩
  · rintro ⟨⟨node, listed, rfl⟩, apart⟩
    exact ⟨node, List.mem_filter.mpr ⟨listed, decide_eq_true apart⟩, rfl⟩

/-- What an answer for a resolved target says of its two walks. -/
structure ImpactParts (request : ReverseRequest) (resolved : Node) (walk exactWalk : Walk)
    (result : ImpactResult) : Prop where
  walked : Walked request.pinned (request.setting request.hops none) [resolved.id] walk
  exactWalked :
    Walked request.pinned (request.setting request.hops (some staticResolutions)) [resolved.id] exactWalk
  listed : ∀ nodeId, nodeId ∈ listedIds result.nodes ↔ nodeId ∈ walk.nodeIds ∧ nodeId ≠ resolved.id
  proven : ∀ nodeId, nodeId ∈ result.proven ↔ nodeId ∈ exactWalk.nodeIds ∧ nodeId ≠ resolved.id
  potential : ∀ nodeId, nodeId ∈ result.potential ↔
    (nodeId ∈ walk.nodeIds ∧ nodeId ≠ resolved.id) ∧ nodeId ∉ result.proven

theorem impact_parts {result : ImpactResult} (accepted : reverseRequest scope options = .ok request)
    (named : request.pinned.resolve py target = .ok resolved)
    (answered : impact py scope target options = .ok result) :
    ∃ walk exactWalk, ImpactParts request resolved walk exactWalk result := by
  obtain ⟨_, valid⟩ := reverseRequest_ok accepted
  have rooted := GraphSet.pinned_of_resolve named
  obtain ⟨walk, walks, walked⟩ : ∃ walk, request.walk resolved request.hops none = .ok walk ∧
      Walked request.pinned (request.setting request.hops none) [resolved.id] walk :=
    request.walk_ok valid rooted valid.hops fun _ none => by cases none
  obtain ⟨exactWalk, exactWalks, exactWalked⟩ : ∃ exactWalk,
      request.walk resolved request.hops (some staticResolutions) = .ok exactWalk ∧
        Walked request.pinned (request.setting request.hops (some staticResolutions)) [resolved.id]
          exactWalk :=
    request.walk_ok valid rooted valid.hops (by rintro allowed ⟨rfl⟩; decide)
  obtain ⟨request', accepted', answered⟩ := bind_eq_ok.mp answered
  obtain rfl := Except.ok.inj (accepted.symm.trans accepted')
  obtain ⟨selected, selects, answered⟩ := bind_eq_ok.mp answered
  obtain rfl := Except.ok.inj ((selectTarget_one.mpr named).symm.trans selects)
  obtain ⟨walk', walks', answered⟩ := bind_eq_ok.mp answered
  obtain rfl := Except.ok.inj (walks.symm.trans walks')
  obtain ⟨exactWalk', exactWalks', answered⟩ := bind_eq_ok.mp answered
  obtain rfl := Except.ok.inj (exactWalks.symm.trans exactWalks')
  obtain ⟨depthLimited, _, answered⟩ := bind_eq_ok.mp answered
  obtain ⟨documents, shown, rfl⟩ := map_eq_ok.mp answered
  have inside : ∀ node ∈ besides resolved walk, node ∈ request.pinned.allNodes :=
    fun node member => walked.nodes_pinned node (List.mem_filter.mp member).1
  obtain ⟨documents', shown', ids⟩ := nodeDocuments_ok request.sections inside
  obtain rfl := Except.ok.inj (shown.symm.trans shown')
  refine ⟨walk, exactWalk, walked, exactWalked, fun nodeId => ?_, fun nodeId => ?_, fun nodeId => ?_⟩
  · rw [ids]
    exact mem_besides_ids
  · rw [mem_sortedBy]
    exact mem_besides_ids
  · rw [mem_sortedBy, ← mem_besides_ids, List.mem_map, List.mem_map]
    constructor
    · rintro ⟨node, member, rfl⟩
      obtain ⟨listed, unproven⟩ := List.mem_filter.mp member
      exact ⟨⟨node, listed, rfl⟩, of_decide_eq_true unproven⟩
    · rintro ⟨⟨node, listed, rfl⟩, unproven⟩
      exact ⟨node, List.mem_filter.mpr ⟨listed, decide_eq_true unproven⟩, rfl⟩

/-- From a proven node a chain of exact or annotated edges leads to the target. -/
theorem proven_chain {walk exactWalk : Walk} {result : ImpactResult}
    (parts : ImpactParts request resolved walk exactWalk result) {nodeId : Text}
    (proven : nodeId ∈ result.proven) : ∃ n ≤ request.hops, Chain request.StaticHop n resolved.id nodeId := by
  obtain ⟨seen, _⟩ := (parts.proven nodeId).mp proven
  obtain ⟨node, listed, rfl⟩ := List.mem_map.mp seen
  have reached := parts.exactWalked.within (List.nodup_singleton _) listed
  rw [reaches_single] at reached
  exact mem_ball_singleton.mp reached

/-! ### When the split is exact -/

/-- The answer to an ambiguous target lists nothing. -/
theorem ambiguous_splits {candidateIds : List Text} {result : ImpactResult}
    (answered : ambiguousImpact py request target candidateIds = .ok result) :
    result.Splits py scope target options := by
  obtain ⟨candidates, _, rfl⟩ := map_eq_ok.mp answered
  refine ⟨fun _ none => (List.not_mem_nil none).elim, fun nodeId => ?_, fun _ none => (List.not_mem_nil none).elim⟩
  exact ⟨fun none => none.elim id id, Or.inl⟩

/-- **An impact answer splits its closure exactly if and only if the first nodes along exact and annotated
edges are among the first nodes along all edges of the requested kinds.** -/
theorem impact_splits_iff {result : ImpactResult} (answered : impact py scope target options = .ok result) :
    result.Splits py scope target options ↔
      ∀ request resolved, reverseRequest scope options = .ok request →
        request.pinned.resolve py target = .ok resolved →
          request.firstNodes resolved (some staticResolutions) ⊆ request.firstNodes resolved none := by
  constructor
  · intro splits request resolved accepted named nodeId first
    obtain ⟨walk, exactWalk, parts⟩ := impact_parts accepted named answered
    by_cases here : nodeId = resolved.id
    · exact here ▸ root_first (reverseRequest_ok accepted).2
    · have proven := (parts.proven nodeId).mpr ⟨(walked_first parts.exactWalked).mpr first, here⟩
      have listed := (parts.listed nodeId).mp ((splits.union nodeId).mp (Or.inl proven))
      exact (walked_first parts.walked).mp listed.1
  · intro covers
    obtain ⟨request, accepted, chosen⟩ := bind_eq_ok.mp answered
    obtain ⟨selected, selects, chosen⟩ := bind_eq_ok.mp chosen
    cases selected with
    | ambiguous candidateIds => exact ambiguous_splits chosen
    | one resolved =>
      have named := selectTarget_one.mp selects
      obtain ⟨walk, exactWalk, parts⟩ := impact_parts accepted named answered
      refine ⟨fun nodeId proven potential => ((parts.potential nodeId).mp potential).2 proven,
        fun nodeId => ?_, fun nodeId proven => ?_⟩
      · rw [parts.potential, parts.listed]
        constructor
        · rintro (proven | ⟨listed, _⟩)
          · obtain ⟨seen, apart⟩ := (parts.proven nodeId).mp proven
            refine ⟨(walked_first parts.walked).mpr ?_, apart⟩
            exact covers request resolved accepted named ((walked_first parts.exactWalked).mp seen)
          · exact listed
        · intro listed
          by_cases proven : nodeId ∈ result.proven
          · exact Or.inl proven
          · exact Or.inr ⟨listed, proven⟩
      · exact ⟨request, resolved, accepted, named, proven_chain parts proven⟩

/-! ### An inferred edge takes the room of an exact one -/

/-- An inferred edge between two nodes. -/
def inferredEdge (projectId : Text) (digit source target : Char) (kind : EdgeKind)
    (hex : hexadecimal digit = true := by exact Eq.refl true)
    (source_hex : hexadecimal source = true := by exact Eq.refl true)
    (target_hex : hexadecimal target = true := by exact Eq.refl true)
    (projectId_identifier : isIdentifier projectId = true := by exact Eq.refl true) : Edge :=
  { plainEdge projectId digit source target kind hex source_hex target_hex projectId_identifier with
    resolution := .inferredStatic
    unresolved_iff := by simp [plainEdge] }

/-- A function called by one along an inferred edge and by another along an exact one. -/
def mixedCalls : GraphSet :=
  plainScope [plainGraph "p"
    [plainNode "p" "a" 'a', plainNode "p" "b" 'b', plainNode "p" "c" 'c']
    [inferredEdge "p" '1' 'b' 'a' .calls, plainEdge "p" '2' 'c' 'a' .calls]
    (some [("status", .str "complete")]) (by decide)] (by decide)

theorem impact_splits_mixedCalls : ∃ result,
    impact .ascii mixedCalls "a" { impactDefaults with maxNodes := some 2 } = .ok result ∧
      (result.Splits .ascii mixedCalls "a" { impactDefaults with maxNodes := some 2 } ↔
        ∀ request resolved, reverseRequest mixedCalls { impactDefaults with maxNodes := some 2 } = .ok request →
          request.pinned.resolve .ascii "a" = .ok resolved →
            request.firstNodes resolved (some staticResolutions) ⊆ request.firstNodes resolved none) := by
  have answered : impact .ascii mixedCalls "a" { impactDefaults with maxNodes := some 2 } = .ok _ := rfl
  exact ⟨_, answered, impact_splits_iff answered⟩

/-- Under a budget of two nodes, `c` is proven and not listed. -/
theorem impact_split_overruns : ¬ ∀ (scope : GraphSet) (target : Text) (options : QueryOptions)
    (result : ImpactResult), impact .ascii scope target options = .ok result →
      result.Splits .ascii scope target options := by
  intro all
  have splits := all mixedCalls "a" { impactDefaults with maxNodes := some 2 } _ rfl
  have listed := (splits.union (digest 'c')).mp (Or.inl (by decide +kernel))
  exact absurd listed (by decide +kernel)

end AxiomMcp.Query
