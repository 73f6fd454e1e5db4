/-
**The bounded walk is exact.**

`WalkSetting.Hop` is one hop under the options of a walk and `WalkSetting.Reaches` the ball around its
roots. Read through `Walked`, the search behind a walk gives, on any scope:

* `Walked.within`, `Walked.nodes_fit` — the nodes lie in the ball and in the node budget;
* `Walked.nodes_exact` — where no merge loses an edge, an untruncated walk lists the whole ball.

On a scope with unique edge ids and pinned targets, `boundedWalk_exact` is the full statement:
**untruncated is the same as exact, for the nodes and for the edges**.
-/

import AxiomMcp.Query.WalkSearch

namespace AxiomMcp.Query

open AxiomMcp.Lib

variable {pinned : GraphSet} {setting : WalkSetting} {roots : List Text} {walk : Walk}

/-- One hop under the options of a walk. -/
def WalkSetting.Hop (setting : WalkSetting) (pinned : GraphSet) : Text → Text → Prop :=
  Query.Hop pinned setting.heading setting.kinds setting.allowedResolutions

/-- The ids within a number of hops of the roots. -/
def WalkSetting.Reaches (setting : WalkSetting) (pinned : GraphSet) (roots : List Text) (n : ℕ) :
    Set Text :=
  Ball (setting.Hop pinned) {root | root ∈ roots} n

/-- The pinned edges that pass and touch a node less than `n` hops away. -/
def WalkSetting.EdgeWithin (setting : WalkSetting) (pinned : GraphSet) (roots : List Text) (n : ℕ)
    (edge : Edge) : Prop :=
  edge ∈ pinned.allEdges ∧ Passes setting.kinds setting.allowedResolutions edge ∧
    ∃ m < n, ∃ nodeId ∈ setting.Reaches pinned roots m, Touches setting.heading nodeId edge

/-! ### On any scope -/

/-- The walk's ball lies in the ball. -/
theorem within_subset (n : ℕ) :
    (setting.net pinned).Within roots n ⊆ setting.Reaches pinned roots n := by
  rintro v ⟨root, member, k, bound, chain⟩
  exact ⟨root, member, k, bound, chain.mono fun _ _ => hop_of_walkNet⟩

/-- Where no merge loses an edge, the walk's ball is the ball. -/
theorem within_eq (exact : setting.heading = .both → pinned.UniqueEdgeIds) (n : ℕ) :
    (setting.net pinned).Within roots n = setting.Reaches pinned roots n := by
  have same : (setting.net pinned).Hop = setting.Hop pinned := walkNet_hop exact
  rw [Net.Within, same]
  rfl

theorem inner_iff (exact : setting.heading = .both → pinned.UniqueEdgeIds) {n : ℕ}
    {slot : Text × Bool} :
    slot ∈ (setting.net pinned).Inner roots n ↔
      ∃ edge, setting.EdgeWithin pinned roots n edge ∧ (edge.id, edge.resolved) = slot := by
  constructor
  · rintro ⟨m, bound, u, within, edge, member, rfl⟩
    obtain ⟨inside, passes, touches⟩ := (mem_incident exact).mp member
    rw [within_eq exact] at within
    exact ⟨edge, ⟨inside, passes, m, bound, u, within, touches⟩, rfl⟩
  · rintro ⟨edge, ⟨inside, passes, m, bound, u, within, touches⟩, rfl⟩
    rw [← within_eq exact] at within
    exact ⟨m, bound, u, within, edge, (mem_incident exact).mpr ⟨inside, passes, touches⟩, rfl⟩

namespace Walked

theorem searched (distinct : roots.Nodup) :
    (setting.net pinned).Searched setting.limits roots setting.hops
      (setting.search pinned roots setting.hops) :=
  Net.searched_run distinct setting.hops

theorem mem_nodeIds (walked : Walked pinned setting roots walk) {nodeId : Text} :
    nodeId ∈ walk.nodeIds ↔ nodeId ∈ (setting.search pinned roots setting.hops).seen := by
  rw [walked.node_ids, mem_sortedBy]

theorem mem_nodes (walked : Walked pinned setting roots walk) {node : Node} :
    node ∈ walk.nodes ↔
      node ∈ pinned.allNodes ∧ node.id ∈ (setting.search pinned roots setting.hops).seen := by
  rw [← walked.mem_nodeIds, Walk.nodeIds, List.mem_map]
  constructor
  · exact fun member => ⟨walked.nodes_pinned node member, node, member, rfl⟩
  · rintro ⟨inside, other, member, same⟩
    rw [← GraphSet.node_eq_of_id (walked.nodes_pinned other member) inside same]
    exact member

theorem nodes_length (walked : Walked pinned setting roots walk) :
    walk.nodes.length = (setting.search pinned roots setting.hops).seen.length := by
  have ids : walk.nodeIds.length = walk.nodes.length := List.length_map _
  rw [← ids, walked.node_ids, length_sortedBy]

theorem nodes_fit (walked : Walked pinned setting roots walk) (distinct : roots.Nodup) :
    walk.nodes.length ≤ setting.nodeBudget := by
  rw [walked.nodes_length]
  exact (searched distinct).nodes_fit _ rfl

theorem within (walked : Walked pinned setting roots walk) (distinct : roots.Nodup) {node : Node}
    (member : node ∈ walk.nodes) : node.id ∈ setting.Reaches pinned roots setting.hops :=
  within_subset _ ((searched distinct).seen_within _ (walked.mem_nodes.mp member).2)

/-- An untruncated walk lists the whole ball. -/
theorem nodes_exact (walked : Walked pinned setting roots walk) (distinct : roots.Nodup)
    (exact : setting.heading = .both → pinned.UniqueEdgeIds) (whole : walk.truncated = false)
    {node : Node} :
    node ∈ walk.nodes ↔
      node ∈ pinned.allNodes ∧ node.id ∈ setting.Reaches pinned roots setting.hops := by
  rw [walked.truncated] at whole
  rw [walked.mem_nodes, (searched distinct).seen_iff whole, within_eq exact]

end Walked

/-! ### With unique edge ids -/

/-- The collected edges are told by the slots counted. -/
theorem Walked.mem_collected (unique : pinned.UniqueEdgeIds)
    (walked : Walked pinned setting roots walk) {edge : Edge} :
    edge ∈ walk.edges ++ walk.unresolved ↔ edge ∈ pinned.allEdges ∧
      (edge.id, edge.resolved) ∈ (setting.search pinned roots setting.hops).known := by
  rw [List.mem_append]
  constructor
  · rintro (member | member)
    · obtain ⟨inside, tag⟩ := walked.edges_pinned edge member
      rw [tag]
      exact ⟨inside, (walked.edge_ids edge.id).mp ⟨edge, member, rfl⟩⟩
    · obtain ⟨inside, tag⟩ := walked.unresolved_pinned edge member
      rw [tag]
      exact ⟨inside, (walked.unresolved_ids edge.id).mp ⟨edge, member, rfl⟩⟩
  · rintro ⟨inside, counted⟩
    cases tag : edge.resolved with
    | true =>
      rw [tag] at counted
      obtain ⟨other, member, same⟩ := (walked.edge_ids edge.id).mpr counted
      rw [GraphSet.edge_eq_of_id unique inside (walked.edges_pinned other member).1 same.symm]
      exact Or.inl member
    | false =>
      rw [tag] at counted
      obtain ⟨other, member, same⟩ := (walked.unresolved_ids edge.id).mpr counted
      rw [GraphSet.edge_eq_of_id unique inside (walked.unresolved_pinned other member).1 same.symm]
      exact Or.inr member

/-- Two inner slots of one id are one slot. -/
theorem inner_eq (unique : pinned.UniqueEdgeIds) {n : ℕ} {a b : Text × Bool}
    (left : a ∈ (setting.net pinned).Inner roots n) (right : b ∈ (setting.net pinned).Inner roots n)
    (same : a.1 = b.1) : a = b := by
  obtain ⟨first, ⟨inside, _⟩, rfl⟩ := (inner_iff fun _ => unique).mp left
  obtain ⟨second, ⟨inside', _⟩, rfl⟩ := (inner_iff fun _ => unique).mp right
  rw [GraphSet.edge_eq_of_id unique inside inside' same]

theorem Walked.edges_fit (unique : pinned.UniqueEdgeIds)
    (walked : Walked pinned setting roots walk) (distinct : roots.Nodup) :
    walk.edges.length + walk.unresolved.length ≤ setting.edgeBudget := by
  rw [walked.count]
  have here : (setting.net pinned).Searched setting.limits roots setting.hops _ :=
    Walked.searched distinct
  exact here.edges_fit _ rfl fun a left b right same =>
    inner_eq unique (here.known_inner a left) (here.known_inner b right) same

/-- The collected edges are those within the ball exactly when the keys counted are theirs. -/
theorem Walked.keys_iff (unique : pinned.UniqueEdgeIds) (walked : Walked pinned setting roots walk)
    (distinct : roots.Nodup) :
    (∀ key, key ∈ (setting.search pinned roots setting.hops).known.map Prod.fst ↔
        ∃ slot ∈ (setting.net pinned).Inner roots setting.hops, slot.1 = key) ↔
      ∀ edge, edge ∈ walk.edges ++ walk.unresolved ↔
        setting.EdgeWithin pinned roots setting.hops edge := by
  have here : (setting.net pinned).Searched setting.limits roots setting.hops _ :=
    Walked.searched distinct
  have inner : ∀ {slot : Text × Bool}, slot ∈ (setting.net pinned).Inner roots setting.hops ↔
      ∃ edge, setting.EdgeWithin pinned roots setting.hops edge ∧
        (edge.id, edge.resolved) = slot := inner_iff fun _ => unique
  constructor
  · intro keys edge
    rw [walked.mem_collected unique]
    constructor
    · rintro ⟨inside, counted⟩
      obtain ⟨other, within, same⟩ := inner.mp (here.known_inner _ counted)
      rw [GraphSet.edge_eq_of_id unique inside within.1 (Prod.mk.inj same).1.symm]
      exact within
    · intro within
      have slot := inner.mpr ⟨edge, within, rfl⟩
      obtain ⟨counted, member, same⟩ := List.mem_map.mp ((keys edge.id).mpr ⟨_, slot, rfl⟩)
      rw [inner_eq unique slot (here.known_inner _ member) same.symm]
      exact ⟨within.1, member⟩
  · intro edges key
    rw [List.mem_map]
    constructor
    · rintro ⟨slot, member, rfl⟩
      exact ⟨slot, here.known_inner slot member, rfl⟩
    · rintro ⟨slot, member, rfl⟩
      obtain ⟨edge, within, rfl⟩ := inner.mp member
      exact ⟨_, ((walked.mem_collected unique).mp ((edges edge).mpr within)).2, rfl⟩

/-- The nodes are those of the ball exactly when the ids seen are, where the ball is pinned. -/
theorem Walked.nodes_iff (walked : Walked pinned setting roots walk)
    (exact : setting.heading = .both → pinned.UniqueEdgeIds)
    (every : ∀ nodeId ∈ setting.Reaches pinned roots setting.hops, pinned.Pinned nodeId) :
    (∀ nodeId, nodeId ∈ (setting.search pinned roots setting.hops).seen ↔
        nodeId ∈ (setting.net pinned).Within roots setting.hops) ↔
      ∀ node, node ∈ walk.nodes ↔
        node ∈ pinned.allNodes ∧ node.id ∈ setting.Reaches pinned roots setting.hops := by
  rw [within_eq exact]
  constructor
  · intro ids node
    rw [walked.mem_nodes, ids]
  · intro nodes nodeId
    constructor
    · intro seen
      obtain ⟨node, inside, rfl⟩ := List.mem_map.mp (walked.seen_pinned nodeId seen)
      exact ((nodes node).mp (walked.mem_nodes.mpr ⟨inside, seen⟩)).2
    · intro reached
      obtain ⟨node, inside, rfl⟩ := List.mem_map.mp (every nodeId reached)
      exact (walked.mem_nodes.mp ((nodes node).mpr ⟨inside, reached⟩)).2

/-! ### The walk as it is called -/

/-- A hop leads to a pinned node, so a ball around pinned roots is pinned. -/
theorem reaches_pinned (targets : pinned.TargetsPinned)
    (rooted : ∀ root ∈ roots, pinned.Pinned root) {n : ℕ} {nodeId : Text}
    (reached : nodeId ∈ setting.Reaches pinned roots n) : pinned.Pinned nodeId := by
  obtain ⟨root, member, k, _, chain⟩ := reached
  cases chain with
  | nil => exact rooted _ member
  | snoc _ last => exact pinned_of_hop targets last

/-- Pinned roots are digests, so they are ordered without an error. -/
theorem orderRoots_pinned (rooted : ∀ root ∈ roots, pinned.Pinned root) :
    orderRoots roots = .ok (sortedSet id roots) := by
  have digests : roots.find? (fun root => !isSha256 root) = none := by
    rw [List.find?_eq_none]
    intro root member
    obtain ⟨node, _, rfl⟩ := List.mem_map.mp (rooted root member)
    simp [node.id_digest]
  rw [orderRoots, digests]

theorem reaches_ordered {n : ℕ} :
    setting.Reaches pinned (sortedSet id roots) n = setting.Reaches pinned roots n := by
  unfold WalkSetting.Reaches
  simp only [mem_sortedSet]

theorem edgeWithin_ordered {n : ℕ} {edge : Edge} :
    setting.EdgeWithin pinned (sortedSet id roots) n edge ↔
      setting.EdgeWithin pinned roots n edge := by
  unfold WalkSetting.EdgeWithin
  simp only [reaches_ordered]

/-- **The bounded walk is exact.** On a scope with unique edge ids whose resolved edges end at pinned
nodes, and from pinned roots, the walk returns within its budgets, what it lists is joined to a root by
a chain within the depth, and it is untruncated exactly when it lists all such nodes and all edges at
those less than the depth away. -/
theorem boundedWalk_exact {options : WalkOptions} (unique : pinned.UniqueEdgeIds)
    (targets : pinned.TargetsPinned) (rooted : ∀ root ∈ roots, pinned.Pinned root)
    (admitted : options.setting = .ok setting) :
    ∃ walk, boundedWalk pinned roots options = .ok walk ∧
      walk.nodes.length ≤ setting.nodeBudget ∧
      walk.edges.length + walk.unresolved.length ≤ setting.edgeBudget ∧
      (∀ node ∈ walk.nodes, node.id ∈ setting.Reaches pinned roots setting.hops) ∧
      (walk.truncated = false ↔
        (∀ node, node ∈ walk.nodes ↔
          node ∈ pinned.allNodes ∧ node.id ∈ setting.Reaches pinned roots setting.hops) ∧
        ∀ edge, edge ∈ walk.edges ++ walk.unresolved ↔
          setting.EdgeWithin pinned roots setting.hops edge) := by
  have distinct : (sortedSet id roots).Nodup := sortedSet_nodup id roots
  have every : ∀ nodeId ∈ setting.Reaches pinned (sortedSet id roots) setting.hops,
      pinned.Pinned nodeId := by
    rw [reaches_ordered]
    exact fun nodeId reached => reaches_pinned targets rooted reached
  have called : boundedWalk pinned roots options =
      walkFrom pinned setting (sortedSet id roots) := by
    rw [boundedWalk, admitted, orderRoots_pinned rooted]
    rfl
  have outcome : LooksUp pinned _ (walkFrom pinned setting (sortedSet id roots)) _ :=
    walkFrom_outcome distinct
  rcases outcome with ⟨walk, done, walked, _⟩ | ⟨nodeId, seen, absent, _⟩
  · refine ⟨walk, called.trans done, walked.nodes_fit distinct, walked.edges_fit unique distinct,
      ?_, ?_⟩
    · intro node member
      rw [← reaches_ordered]
      exact walked.within distinct member
    · rw [walked.truncated, (Walked.searched distinct).cut_iff,
        walked.nodes_iff (fun _ => unique) every, walked.keys_iff unique distinct]
      simp only [reaches_ordered, edgeWithin_ordered]
  · have within := (Walked.searched distinct).seen_within nodeId seen
    exact (absent (every nodeId (within_subset _ within))).elim

/-- Two functions of one project, the first calling the second. -/
def callPair : GraphSet :=
  plainScope [plainGraph "p"
    [plainNode "p" "a" 'a',
      plainNode "p" "b" 'b']
    [plainEdge "p" '1' 'a' 'b' .calls]
    none (by decide)] (by decide)

theorem boundedWalk_exact_callPair : ∃ walk,
    boundedWalk callPair [digest 'a'] { depth := some 1 } = .ok walk ∧
      walk.nodes.length ≤ 50 ∧ walk.edges.length + walk.unresolved.length ≤ 100 := by
  have admitted : ({ depth := some 1 } : WalkOptions).setting =
      .ok ⟨1, .both, none, 50, 100, none⟩ := rfl
  have rooted : ∀ root ∈ [digest 'a'], callPair.Pinned root := by decide
  obtain ⟨walk, done, nodes, edges, _⟩ :=
    boundedWalk_exact (by decide : callPair.UniqueEdgeIds) (by decide) rooted admitted
  exact ⟨walk, done, nodes, edges⟩

end AxiomMcp.Query
