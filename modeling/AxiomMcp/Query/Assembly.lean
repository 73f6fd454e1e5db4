/-
**Scopes assembled in another order.**

`GraphSet.Relisted` relates two scopes of the same generations, whose members, nodes and edges are listed
in another order; an order of shards shows as an order of nodes and edges. `GraphSet.SameLookups` gathers
what the query operations read of a scope.

* `sameLookups` — **relisted scopes with unique edge ids have the same lookups**: every list a lookup
  returns is sorted by a key that tells its members apart;
* `narrowScope_relisted` — narrowing relisted scopes fails alike or gives relisted scopes.
-/

import AxiomMcp.Query.Incident
import AxiomMcp.Lib.Fallible

namespace AxiomMcp.Query

open AxiomMcp.Lib

/-! ### Relisted scopes -/

/-- The same generation, its nodes and edges listed in another order. -/
structure Graph.Relisted (a b : Graph) : Prop where
  projectId : a.projectId = b.projectId
  generationId : a.generationId = b.generationId
  nodes : a.nodes.Perm b.nodes
  edges : a.edges.Perm b.edges
  coverage : a.coverage = b.coverage
  schemaMajor : a.schemaMajor = b.schemaMajor

/-- The same generations, listed in another order, with the same members missing. -/
structure GraphSet.Relisted (a b : GraphSet) : Prop where
  members : ∃ reordered, a.members.Perm reordered ∧ List.Forall₂ Graph.Relisted reordered b.members
  missingProjects : a.missingProjects = b.missingProjects

namespace GraphSet.Relisted

variable {a b : GraphSet}

/-- Lists that the related members list in another order are listed in another order. -/
theorem flatMap_perm {α : Type} {f : Graph → List α}
    (related : ∀ {g h : Graph}, g.Relisted h → (f g).Perm (f h)) {gs hs : List Graph}
    (pairs : List.Forall₂ Graph.Relisted gs hs) : (gs.flatMap f).Perm (hs.flatMap f) := by
  induction pairs with
  | nil => exact .refl _
  | cons here _ ih =>
    rw [List.flatMap_cons, List.flatMap_cons]
    exact (related here).append ih

/-- What related members agree on is the same list. -/
theorem map_eq {α : Type} {f : Graph → α} (related : ∀ {g h : Graph}, g.Relisted h → f g = f h)
    {gs hs : List Graph} (pairs : List.Forall₂ Graph.Relisted gs hs) : gs.map f = hs.map f := by
  induction pairs with
  | nil => rfl
  | cons here _ ih => rw [List.map_cons, List.map_cons, related here, ih]

theorem allNodes_perm (same : a.Relisted b) : a.allNodes.Perm b.allNodes := by
  obtain ⟨reordered, perm, pairs⟩ := same.members
  exact (perm.flatMap_right _).trans (flatMap_perm Graph.Relisted.nodes pairs)

theorem allEdges_perm (same : a.Relisted b) : a.allEdges.Perm b.allEdges := by
  obtain ⟨reordered, perm, pairs⟩ := same.members
  exact (perm.flatMap_right _).trans (flatMap_perm Graph.Relisted.edges pairs)

/-- Every member of the first scope is a member of the second, relisted. -/
theorem exists_right (same : a.Relisted b) {g : Graph} (member : g ∈ a.members) :
    ∃ h ∈ b.members, g.Relisted h := by
  obtain ⟨reordered, perm, pairs⟩ := same.members
  obtain ⟨i, inside, rfl⟩ := List.getElem_of_mem (perm.mem_iff.mp member)
  exact ⟨_, List.getElem_mem (pairs.length_eq ▸ inside), pairs.get inside _⟩

theorem exists_left (same : a.Relisted b) {h : Graph} (member : h ∈ b.members) :
    ∃ g ∈ a.members, g.Relisted h := by
  obtain ⟨reordered, perm, pairs⟩ := same.members
  obtain ⟨i, inside, rfl⟩ := List.getElem_of_mem member
  exact ⟨_, perm.mem_iff.mpr (List.getElem_mem (pairs.length_eq ▸ inside)), pairs.get _ inside⟩

theorem projectIds_eq (same : a.Relisted b) : a.projectIds = b.projectIds := by
  obtain ⟨reordered, perm, pairs⟩ := same.members
  have projects : (a.members.map Graph.projectId).Perm (b.members.map Graph.projectId) := by
    rw [← map_eq Graph.Relisted.projectId pairs]
    exact perm.map _
  exact sortedBy_eq_of_perm projects fun _ _ _ _ equal => equal

/-- A project is pinned in both scopes, relisted, or in neither. -/
theorem graph?_cases (same : a.Relisted b) (project : Text) :
    (a.graph? project = none ∧ b.graph? project = none) ∨
      ∃ g h, a.graph? project = some g ∧ b.graph? project = some h ∧ g.Relisted h := by
  cases left : a.graph? project with
  | some g =>
    obtain ⟨member, named⟩ := GraphSet.graph?_eq_some.mp left
    obtain ⟨h, inside, related⟩ := same.exists_right member
    exact Or.inr ⟨g, h, rfl, GraphSet.graph?_eq_some.mpr ⟨inside, related.projectId ▸ named⟩, related⟩
  | none =>
    cases right : b.graph? project with
    | none => exact Or.inl ⟨rfl, rfl⟩
    | some h =>
      obtain ⟨member, named⟩ := GraphSet.graph?_eq_some.mp right
      obtain ⟨g, inside, related⟩ := same.exists_left member
      have found := GraphSet.graph?_eq_some.mpr ⟨inside, related.projectId.trans named⟩
      rw [left] at found
      cases found

theorem graph_alike (same : a.Relisted b) (project : Text) :
    Alike Graph.Relisted (a.graph project) (b.graph project) := by
  unfold GraphSet.graph
  rcases same.graph?_cases project with ⟨left, right⟩ | ⟨g, h, left, right, related⟩
  · rw [left, right]
    exact .error _
  · rw [left, right]
    exact .ok related

/-- The members in project order are related one by one. -/
theorem graphs_pairs (same : a.Relisted b) : List.Forall₂ Graph.Relisted a.graphs b.graphs := by
  unfold GraphSet.graphs
  rw [same.projectIds_eq]
  induction b.projectIds with
  | nil => exact .nil
  | cons project rest ih =>
    rcases same.graph?_cases project with ⟨left, right⟩ | ⟨g, h, left, right, related⟩
    · rw [List.filterMap_cons_none left, List.filterMap_cons_none right]
      exact ih
    · rw [List.filterMap_cons_some left, List.filterMap_cons_some right]
      exact .cons related ih

end GraphSet.Relisted

/-! ### The lookups -/

/-- What the query operations read of a scope is the same. -/
structure GraphSet.SameLookups (a b : GraphSet) : Prop where
  node : a.node = b.node
  nodes : a.nodes = b.nodes
  edges : a.edges = b.edges
  incident : incident a = incident b
  projectIds : a.projectIds = b.projectIds
  missingProjects : a.missingProjects = b.missingProjects
  graphs : List.Forall₂ Graph.Relisted a.graphs b.graphs
  graph : ∀ project, Alike Graph.Relisted (a.graph project) (b.graph project)

section Lookups

variable {a b : GraphSet}

theorem nodeIndex_relisted (same : a.Relisted b) (nodeId : Text) :
    a.nodeIndex.get? nodeId = b.nodeIndex.get? nodeId :=
  Dict.get?_ofList_perm a.node_ids_nodup same.allNodes_perm nodeId

theorem node_relisted (same : a.Relisted b) : a.node = b.node := by
  funext nodeId
  rw [GraphSet.node, GraphSet.node, nodeIndex_relisted same]

theorem nodes_relisted (same : a.Relisted b) : a.nodes = b.nodes :=
  Dict.inKeyOrder_congr (nodeIndex_relisted same)

theorem edges_relisted (same : a.Relisted b) (unique : a.UniqueEdgeIds) : a.edges = b.edges := by
  refine Dict.inKeyOrder_congr (Dict.get?_firstBy_congr ?_ fun edge => ?_)
  · intro edge left other right equal
    exact GraphSet.edge_eq_of_id unique (GraphSet.mem_graphs_edges.mp left)
      (GraphSet.mem_graphs_edges.mp right) equal
  · rw [GraphSet.mem_graphs_edges, GraphSet.mem_graphs_edges, same.allEdges_perm.mem_iff]

/-- The filters keep an order an order. -/
theorem restricted_perm {edges others : List Edge} (same : edges.Perm others)
    (kinds : Option (List EdgeKind)) (resolutions : Option (List Resolution)) :
    (restrictResolutions (selectKinds edges kinds) resolutions).Perm
      (restrictResolutions (selectKinds others kinds) resolutions) := by
  have chosen : (selectKinds edges kinds).Perm (selectKinds others kinds) := by
    cases kinds with
    | none => exact same
    | some kinds => exact same.filter _
  cases resolutions with
  | none => exact chosen
  | some resolutions => exact chosen.filter _

/-- Edges of a scope with unique ids are tried in one order. -/
theorem edgeOrder_apart (unique : a.UniqueEdgeIds) {edges : List Edge}
    (inside : ∀ edge ∈ edges, edge ∈ a.allEdges) :
    ∀ edge ∈ edges, ∀ other ∈ edges, edgeOrder edge = edgeOrder other → edge = other := by
  intro edge left other right equal
  have ids : edge.id = other.id := congrArg (fun order => (ofLex order).2) equal
  exact GraphSet.edge_eq_of_id unique (inside edge left) (inside other right) ids

theorem incident_relisted (same : a.Relisted b) (unique : a.UniqueEdgeIds) :
    incident a = incident b := by
  funext nodeId direction kinds resolutions
  have outgoing : (restrictResolutions (a.outgoing nodeId kinds) resolutions).Perm
      (restrictResolutions (b.outgoing nodeId kinds) resolutions) := by
    rw [GraphSet.outgoing_eq, GraphSet.outgoing_eq]
    exact restricted_perm (same.allEdges_perm.filter _) kinds resolutions
  have incoming : (restrictResolutions (a.incoming nodeId kinds) resolutions).Perm
      (restrictResolutions (b.incoming nodeId kinds) resolutions) := by
    rw [GraphSet.incoming_eq, GraphSet.incoming_eq]
    exact restricted_perm (same.allEdges_perm.filter _) kinds resolutions
  have pinned : ∀ edge ∈ incident a nodeId direction kinds resolutions, edge ∈ a.allEdges :=
    fun edge member => (of_mem_incident member).1
  unfold incident at pinned ⊢
  cases direction with
  | outgoing =>
    exact sortedBy_eq_of_perm outgoing (edgeOrder_apart unique fun edge member =>
      pinned edge ((mem_sortedBy _ _).mpr member))
  | incoming =>
    exact sortedBy_eq_of_perm incoming (edgeOrder_apart unique fun edge member =>
      pinned edge ((mem_sortedBy _ _).mpr member))
  | both =>
    dsimp only at pinned ⊢
    -- a self loop is listed twice, so the merged dictionaries are compared by their lookups
    refine sortedBy_eq_of_perm (Dict.values_perm_of_lookups (Dict.get?_firstBy_congr ?_ ?_))
      (edgeOrder_apart unique fun edge member => pinned edge ((mem_sortedBy _ _).mpr member))
    · have inside : ∀ edge ∈ restrictResolutions (a.outgoing nodeId kinds) resolutions ++
          restrictResolutions (a.incoming nodeId kinds) resolutions, edge ∈ a.allEdges := by
        intro edge member
        rcases List.mem_append.mp member with left | right
        · exact (mem_outgoing.mp left).1
        · exact (mem_incoming.mp right).1
      exact fun edge left other right equal =>
        GraphSet.edge_eq_of_id unique (inside edge left) (inside other right) equal
    · intro edge
      rw [List.mem_append, List.mem_append, outgoing.mem_iff, incoming.mem_iff]

/-- **Relisted scopes with unique edge ids have the same lookups.** -/
theorem sameLookups (same : a.Relisted b) (unique : a.UniqueEdgeIds) : a.SameLookups b where
  node := node_relisted same
  nodes := nodes_relisted same
  edges := edges_relisted same unique
  incident := incident_relisted same unique
  projectIds := same.projectIds_eq
  missingProjects := same.missingProjects
  graphs := same.graphs_pairs
  graph := same.graph_alike

end Lookups

/-! ### Narrowing -/

section Narrowing

variable {a b : GraphSet}

/-- A member of a scope is refused only beside a member of its project: two members of a scope share no
node. -/
theorem admitGraph_member {members : List Graph} {graph : Graph} (inside : members ⊆ a.members)
    (member : graph ∈ a.members) :
    admitGraph members graph =
      match members.find? fun other => other.projectId = graph.projectId with
      | some existing =>
        .error (.pinnedTwice graph.projectId existing.generationId graph.generationId)
      | none => .ok (members ++ [graph]) := by
  unfold admitGraph
  cases fresh : members.find? fun other => other.projectId = graph.projectId with
  | some existing => rfl
  | none =>
    have apart : (graph.nodes.find? fun node =>
        node.id ∈ (members.flatMap Graph.nodes).map Node.id) = none := by
      rw [List.find?_eq_none]
      intro node inGraph clash
      obtain ⟨twin, listed, sameId⟩ := List.mem_map.mp (of_decide_eq_true clash)
      obtain ⟨other, among, inOther⟩ := List.mem_flatMap.mp listed
      have one : twin = node := GraphSet.node_eq_of_id
        (List.mem_flatMap.mpr ⟨other, inside among, inOther⟩)
        (List.mem_flatMap.mpr ⟨graph, member, inGraph⟩) sameId
      have project : other.projectId = graph.projectId := by
        rw [← other.node_project twin inOther, one, graph.node_project node inGraph]
      exact List.find?_eq_none.mp fresh other among (decide_eq_true project)
    dsimp only
    rw [apart]

/-- The first member of a project, in two lists related one by one. -/
theorem find?_project {gs hs : List Graph} (pairs : List.Forall₂ Graph.Relisted gs hs)
    (project : Text) :
    (gs.find? fun other => other.projectId = project).map Graph.generationId =
      (hs.find? fun other => other.projectId = project).map Graph.generationId := by
  induction pairs with
  | nil => rfl
  | cons here _ ih =>
    rw [List.find?_cons, List.find?_cons, here.projectId]
    split
    · exact congrArg some here.generationId
    · exact ih

/-- One admission to related members fails alike or gives related members. -/
theorem admitGraph_alike {gs hs : List Graph} {g h : Graph} (insideA : gs ⊆ a.members)
    (insideB : hs ⊆ b.members) (memberA : g ∈ a.members) (memberB : h ∈ b.members)
    (pairs : List.Forall₂ Graph.Relisted gs hs) (related : g.Relisted h) :
    Alike (List.Forall₂ Graph.Relisted) (admitGraph gs g) (admitGraph hs h) := by
  have generations := find?_project pairs h.projectId
  rw [admitGraph_member insideA memberA, admitGraph_member insideB memberB, related.projectId,
    related.generationId]
  cases left : gs.find? fun other => other.projectId = h.projectId with
  | some existing =>
    cases right : hs.find? fun other => other.projectId = h.projectId with
    | some twin =>
      rw [left, right] at generations
      dsimp only
      rw [Option.some.inj generations]
      exact .error _
    | none =>
      rw [left, right] at generations
      cases generations
  | none =>
    cases right : hs.find? fun other => other.projectId = h.projectId with
    | some twin =>
      rw [left, right] at generations
      cases generations
    | none => exact .ok (List.rel_append pairs (.cons related .nil))

/-- The constructor's loop over chosen members. -/
theorem admitAll_alike (same : a.Relisted b) (chosen : List Text) :
    ∀ {gs hs : List Graph}, gs ⊆ a.members → hs ⊆ b.members →
      List.Forall₂ Graph.Relisted gs hs →
      Alike (List.Forall₂ Graph.Relisted) (admitAll gs (chosen.map a.graph))
        (admitAll hs (chosen.map b.graph)) := by
  induction chosen with
  | nil =>
    intro gs hs _ _ pairs
    exact .ok pairs
  | cons project rest ih =>
    intro gs hs insideA insideB pairs
    rw [List.map_cons, List.map_cons]
    unfold GraphSet.graph
    rcases same.graph?_cases project with ⟨left, right⟩ | ⟨g, h, left, right, related⟩
    · rw [left, right]
      exact .error _
    · rw [left, right]
      have memberA := (GraphSet.graph?_eq_some.mp left).1
      have memberB := (GraphSet.graph?_eq_some.mp right).1
      have admitted := admitGraph_alike insideA insideB memberA memberB pairs related
      simp only [admitAll]
      rcases admitted.outcomes with ⟨refused, one, other⟩ | ⟨next, next', one, other, pairs'⟩
      · rw [one, other]
        exact .error _
      · rw [one, other]
        obtain ⟨rfl, _⟩ := admitGraph_ok one
        obtain ⟨rfl, _⟩ := admitGraph_ok other
        refine ih (List.append_subset.mpr ⟨insideA, fun graph last => ?_⟩)
          (List.append_subset.mpr ⟨insideB, fun graph last => ?_⟩) pairs'
        · exact List.mem_singleton.mp last ▸ memberA
        · exact List.mem_singleton.mp last ▸ memberB

/-- What the constructor of a scope computes, its proofs left out. -/
theorem init_parts (graphs : List (Except QueryModelError Graph)) (missing : List Text) :
    (GraphSet.init graphs missing).map (fun scope => (scope.members, scope.missingProjects)) = (do
      let members ← admitAll [] graphs
      let accepted ← identifiers "project_id" missing
      match (sortedSet id accepted).find? fun pid => pid ∈ members.map Graph.projectId with
      | some pid => .error (.pinnedAndMissing pid)
      | none => .ok (members, sortedSet id accepted)) := by
  unfold GraphSet.init
  split
  · next refused admission =>
    rw [admission]
    rfl
  · next members admission =>
    split
    · next refused named =>
      simp only [admission, named]
      rfl
    · next accepted named =>
      split
      · next pid overlap =>
        simp only [admission, named, bind, Except.bind, overlap]
        rfl
      · next overlap =>
        simp only [admission, named, bind, Except.bind, overlap]
        rfl

/-- Building a scope of members admitted alike. -/
theorem init_alike {graphs others : List (Except QueryModelError Graph)} {missing : List Text}
    (admitted : Alike (List.Forall₂ Graph.Relisted) (admitAll [] graphs) (admitAll [] others)) :
    Alike GraphSet.Relisted (GraphSet.init graphs missing) (GraphSet.init others missing) := by
  have parts : Alike (fun p q : List Graph × List Text =>
      List.Forall₂ Graph.Relisted p.1 q.1 ∧ p.2 = q.2)
      ((GraphSet.init graphs missing).map fun scope => (scope.members, scope.missingProjects))
      ((GraphSet.init others missing).map fun scope => (scope.members, scope.missingProjects)) := by
    rw [init_parts, init_parts]
    refine admitted.bind fun members members' pairs => ?_
    refine Alike.after _ fun named => ?_
    rw [GraphSet.Relisted.map_eq Graph.Relisted.projectId pairs]
    split
    · exact .error _
    · exact .ok ⟨pairs, rfl⟩
  rcases parts.of_map.outcomes with ⟨refused, left, right⟩ | ⟨scope, scope', left, right, same⟩
  · rw [left, right]
    exact .error _
  · rw [left, right]
    exact .ok ⟨⟨_, .refl _, same.1⟩, same.2⟩

/-- The chosen members of relisted scopes. -/
theorem chosen_alike (same : a.Relisted b) (chosen missing : List Text) :
    Alike GraphSet.Relisted (GraphSet.init (chosen.map a.graph) missing)
      (GraphSet.init (chosen.map b.graph) missing) :=
  init_alike (admitAll_alike same chosen (List.nil_subset _) (List.nil_subset _) .nil)

/-- **Narrowing relisted scopes fails alike or gives relisted scopes.** -/
theorem narrowScope_relisted (same : a.Relisted b) (projectIds : Option (List Text)) :
    Alike GraphSet.Relisted (narrowScope a projectIds) (narrowScope b projectIds) := by
  cases projectIds with
  | none => exact .ok same
  | some projectIds =>
    unfold narrowScope
    dsimp only
    split
    · exact .error _
    · rw [same.missingProjects]
      exact chosen_alike same _ _

end Narrowing

end AxiomMcp.Query
