/-
**The edges a walk tries at a node, and where each leads.**

`incident` lists the pinned edges at a node in the walked direction that pass the kind filter and the
resolution filter, in the order of their kinds and ids. In direction `both` the two lists are merged by
id, so of two edges with one id only the outgoing one is kept.

* `Passes` and `Touches` say which edges those are; `mem_incident` reads the list back where no merge
  loses an edge, `of_mem_incident` on any scope;
* `walkNet_hop` — **one hop of a walk is one pinned edge that passes, followed in the walked
  direction**;
* a hop backwards along `incoming` is a hop forwards along `outgoing` (`hop_incoming_iff`).
-/

import AxiomMcp.Query.Selectors
import AxiomMcp.Lib.SearchOrder

namespace AxiomMcp.Query

open AxiomMcp.Lib

/-! ### The code -/

/-- `_other_end(edge, node_id, direction)` -/
def otherEnd (edge : Edge) (nodeId : Text) (direction : Direction) : Option Text :=
  match edge.targetId with
  | none => none
  | some target =>
    match direction with
    | .outgoing => if edge.sourceId = nodeId then some target else none
    | .incoming => if target = nodeId then some edge.sourceId else none
    | .both =>
      if edge.sourceId = nodeId then some target
      else if target = nodeId then some edge.sourceId
      else none

/-- `_restrict_resolutions(edges, resolutions)` -/
def restrictResolutions (edges : List Edge) (resolutions : Option (List Resolution)) : List Edge :=
  match resolutions with
  | none => edges
  | some resolutions => edges.filter fun edge => decide (edge.resolution ∈ resolutions)

/-- The order edges are tried in. -/
def edgeOrder (edge : Edge) : Text ×ₗ Text := toLex (edge.kind.name, edge.id)

/-- `_incident(pinned, node_id, direction, kinds, resolutions)` -/
def incident (pinned : GraphSet) (nodeId : Text) (direction : Direction)
    (kinds : Option (List EdgeKind)) (resolutions : Option (List Resolution)) : List Edge :=
  let outgoing := restrictResolutions (pinned.outgoing nodeId kinds) resolutions
  let incoming := restrictResolutions (pinned.incoming nodeId kinds) resolutions
  match direction with
  | .outgoing => sortedBy edgeOrder outgoing
  | .incoming => sortedBy edgeOrder incoming
  | .both =>
    let merged := Dict.firstBy Edge.id (outgoing ++ incoming)
    sortedBy edgeOrder merged.values

/-! ### Which edges they are -/

/-- An edge passes the filters; `none` lets every edge pass. -/
def Passes (kinds : Option (List EdgeKind)) (resolutions : Option (List Resolution)) (edge : Edge) :
    Prop :=
  (∀ chosen, kinds = some chosen → edge.kind ∈ chosen) ∧
    ∀ allowed, resolutions = some allowed → edge.resolution ∈ allowed

theorem passes_none (edge : Edge) : Passes none none edge :=
  ⟨fun _ chosen => (by cases chosen), fun _ allowed => (by cases allowed)⟩

/-- An edge is at a node, in the walked direction. -/
def Touches (direction : Direction) (nodeId : Text) (edge : Edge) : Prop :=
  match direction with
  | .outgoing => edge.sourceId = nodeId
  | .incoming => edge.targetId = some nodeId
  | .both => edge.sourceId = nodeId ∨ edge.targetId = some nodeId

variable {pinned : GraphSet} {nodeId : Text} {direction : Direction}
  {kinds : Option (List EdgeKind)} {resolutions : Option (List Resolution)} {edge : Edge}

theorem mem_restrictResolutions {edges : List Edge} :
    edge ∈ restrictResolutions edges resolutions ↔
      edge ∈ edges ∧ ∀ allowed, resolutions = some allowed → edge.resolution ∈ allowed := by
  cases resolutions with
  | none => simp [restrictResolutions]
  | some resolutions => simp [restrictResolutions]

theorem mem_outgoing : edge ∈ restrictResolutions (pinned.outgoing nodeId kinds) resolutions ↔
    edge ∈ pinned.allEdges ∧ Passes kinds resolutions edge ∧ Touches .outgoing nodeId edge := by
  rw [mem_restrictResolutions, GraphSet.outgoing_eq, GraphSet.mem_selectKinds, List.mem_filter,
    decide_eq_true_iff]
  unfold Passes Touches
  tauto

theorem mem_incoming : edge ∈ restrictResolutions (pinned.incoming nodeId kinds) resolutions ↔
    edge ∈ pinned.allEdges ∧ Passes kinds resolutions edge ∧ Touches .incoming nodeId edge := by
  rw [mem_restrictResolutions, GraphSet.incoming_eq, GraphSet.mem_selectKinds, List.mem_filter,
    decide_eq_true_iff]
  unfold Passes Touches
  tauto

/-- An incident edge is a pinned edge at the node that passes the filters. -/
theorem of_mem_incident (member : edge ∈ incident pinned nodeId direction kinds resolutions) :
    edge ∈ pinned.allEdges ∧ Passes kinds resolutions edge ∧ Touches direction nodeId edge := by
  unfold incident at member
  cases direction with
  | outgoing => exact mem_outgoing.mp ((mem_sortedBy _ _).mp member)
  | incoming => exact mem_incoming.mp ((mem_sortedBy _ _).mp member)
  | both =>
    dsimp only at member
    rw [mem_sortedBy, Dict.mem_values_firstBy] at member
    rcases List.mem_append.mp (List.mem_of_find?_eq_some member) with left | right
    · obtain ⟨inside, passes, touches⟩ := mem_outgoing.mp left
      exact ⟨inside, passes, Or.inl touches⟩
    · obtain ⟨inside, passes, touches⟩ := mem_incoming.mp right
      exact ⟨inside, passes, Or.inr touches⟩

/-- The incident edges are the pinned edges at the node that pass. Only direction `both` merges by id,
and only there the ids have to be unique. -/
theorem mem_incident (exact : direction = .both → pinned.UniqueEdgeIds) :
    edge ∈ incident pinned nodeId direction kinds resolutions ↔
      edge ∈ pinned.allEdges ∧ Passes kinds resolutions edge ∧ Touches direction nodeId edge := by
  refine ⟨of_mem_incident, ?_⟩
  rintro ⟨inside, passes, touches⟩
  unfold incident
  cases direction with
  | outgoing => exact (mem_sortedBy _ _).mpr (mem_outgoing.mpr ⟨inside, passes, touches⟩)
  | incoming => exact (mem_sortedBy _ _).mpr (mem_incoming.mpr ⟨inside, passes, touches⟩)
  | both =>
    dsimp only
    rw [mem_sortedBy, Dict.mem_values_firstBy]
    have listed : edge ∈ restrictResolutions (pinned.outgoing nodeId kinds) resolutions ++
        restrictResolutions (pinned.incoming nodeId kinds) resolutions := by
      rcases touches with out | into
      · exact List.mem_append_left _ (mem_outgoing.mpr ⟨inside, passes, out⟩)
      · exact List.mem_append_right _ (mem_incoming.mpr ⟨inside, passes, into⟩)
    refine Dict.find?_of_unique listed (by simp) fun other member same => ?_
    have pinnedOther : other ∈ pinned.allEdges := by
      rcases List.mem_append.mp member with left | right
      · exact (mem_outgoing.mp left).1
      · exact (mem_incoming.mp right).1
    exact GraphSet.edge_eq_of_id (exact rfl) pinnedOther inside (of_decide_eq_true same)

/-! ### Hops -/

/-- What a walk follows: an edge at the node, to its other end. -/
def walkNet (pinned : GraphSet) (direction : Direction) (kinds : Option (List EdgeKind))
    (resolutions : Option (List Resolution)) : Net Text Edge Text Bool where
  incident nodeId := incident pinned nodeId direction kinds resolutions
  far nodeId edge := otherEnd edge nodeId direction
  key edge := edge.id
  tag edge := edge.resolved

/-- An edge joins two nodes when walked in a direction. -/
def Joins (direction : Direction) (u : Text) (edge : Edge) (v : Text) : Prop :=
  match direction with
  | .outgoing => edge.sourceId = u ∧ edge.targetId = some v
  | .incoming => edge.targetId = some u ∧ edge.sourceId = v
  | .both => (edge.sourceId = u ∧ edge.targetId = some v) ∨
      (edge.targetId = some u ∧ edge.sourceId = v)

/-- One hop: a pinned edge that passes the filters and joins the two nodes in the direction. -/
def Hop (pinned : GraphSet) (direction : Direction) (kinds : Option (List EdgeKind))
    (resolutions : Option (List Resolution)) (u v : Text) : Prop :=
  ∃ edge ∈ pinned.allEdges, Passes kinds resolutions edge ∧ Joins direction u edge v

/-- The other end is where the edge joins the node to. -/
theorem otherEnd_eq_some {u v : Text} :
    otherEnd edge u direction = some v ↔ Joins direction u edge v := by
  unfold otherEnd Joins
  cases target : edge.targetId with
  | none => cases direction <;> simp
  | some t =>
    cases direction with
    | outgoing =>
      by_cases here : edge.sourceId = u
      · simp [here]
      · simp [here]
    | incoming =>
      by_cases here : t = u
      · simp [here]
      · simp [here]
    | both =>
      by_cases here : edge.sourceId = u
      · by_cases there : t = u
        · simp [here, there]
        · simp [here, there]
      · by_cases there : t = u
        · simp [here, there]
        · simp [here, there]

theorem Joins.touches {u v : Text} (joins : Joins direction u edge v) :
    Touches direction u edge := by
  cases direction with
  | outgoing => exact joins.1
  | incoming => exact joins.1
  | both => exact joins.imp And.left And.left

/-- An edge that joins two nodes is resolved. -/
theorem Joins.resolved {u v : Text} (joins : Joins direction u edge v) : edge.resolved = true := by
  have known : ∃ target, edge.targetId = some target := by
    cases direction with
    | outgoing => exact ⟨v, joins.2⟩
    | incoming => exact ⟨u, joins.1⟩
    | both => exact joins.elim (fun h => ⟨v, h.2⟩) fun h => ⟨u, h.1⟩
  exact Option.isSome_iff_exists.mpr known

/-- A hop of a walk is a hop. -/
theorem hop_of_walkNet {u v : Text}
    (hop : (walkNet pinned direction kinds resolutions).Hop u v) :
    Hop pinned direction kinds resolutions u v := by
  obtain ⟨edge, member, leads⟩ := hop
  obtain ⟨inside, passes, _⟩ := of_mem_incident member
  exact ⟨edge, inside, passes, otherEnd_eq_some.mp leads⟩

/-- The hops of a walk are the hops, where no merge loses an edge. -/
theorem walkNet_hop (exact : direction = .both → pinned.UniqueEdgeIds) :
    (walkNet pinned direction kinds resolutions).Hop = Hop pinned direction kinds resolutions := by
  funext u v
  refine propext ⟨hop_of_walkNet, ?_⟩
  rintro ⟨edge, inside, passes, joins⟩
  exact ⟨edge, (mem_incident exact).mpr ⟨inside, passes, joins.touches⟩, otherEnd_eq_some.mpr joins⟩

/-- A hop along incoming edges arrives at a pinned node. -/
theorem pinned_of_hop_incoming {u v : Text} (hop : Hop pinned .incoming kinds resolutions u v) :
    pinned.Pinned v := by
  obtain ⟨edge, inside, _, joins⟩ := hop
  exact joins.2 ▸ GraphSet.source_pinned inside

/-- Where all targets are pinned, every hop arrives at a pinned node. -/
theorem pinned_of_hop (targets : pinned.TargetsPinned) {u v : Text}
    (hop : Hop pinned direction kinds resolutions u v) : pinned.Pinned v := by
  obtain ⟨edge, inside, _, joins⟩ := hop
  cases direction with
  | outgoing => exact targets edge inside v joins.2
  | incoming => exact joins.2 ▸ GraphSet.source_pinned inside
  | both =>
    rcases joins with ⟨_, ends⟩ | ⟨_, starts⟩
    · exact targets edge inside v ends
    · exact starts ▸ GraphSet.source_pinned inside

end AxiomMcp.Query
