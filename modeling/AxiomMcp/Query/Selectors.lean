/-
**Selecting in a scope: ranking, resolving, references by name, narrowing to projects.**

* `rank`, `GraphSet.matchText`, `GraphSet.resolve`: a selector is matched against id, qualified name and
  name, and resolves to a node only when one node alone has the best rank (`resolve_ok`);
* `unresolvedReferences`: the unresolved edges whose target text names a node (`Names`). They are
  looked up in `scope.edges()`, so on a scope with unique edge ids they are all the edges that name it
  (`mem_unresolvedReferences`);
* `GraphSet.init` is the constructor of a scope, fed by a generator whose items may fail, and
  `narrowScope` narrows a scope to chosen projects through it.
-/

import AxiomMcp.Query.Model
import Mathlib.Data.List.Pairwise

namespace AxiomMcp.Query

open AxiomMcp.Lib

variable (py : Interpreter)

/-! ### Ranking -/

/-- `_rank(node, selector)`: how well a node matches, 0 best, -1 not at all. -/
def rank (node : Node) (selector : Text) : ℤ :=
  let folded := py.casefold selector
  if node.id = selector then 0
  else if node.qualifiedName = selector then 1
  else if node.name = selector then 2
  else if py.casefold node.qualifiedName = folded then 3
  else if py.casefold node.name = folded then 4
  else if (py.casefold node.qualifiedName).startsWith folded ||
      (py.casefold node.name).startsWith folded then 5
  else if (py.casefold node.qualifiedName).contains folded ||
      (py.casefold node.name).contains folded then 6
  else -1

namespace GraphSet

variable (scope : GraphSet)

/-- `scope.match(text)`: the matching nodes by rank, qualified name and id. -/
def matchText (text : Text) : Except QueryModelError (List Node) :=
  if text = [] then .error (.emptyText "target selector" text)
  else .ok (sortedBy (fun node => toLex (rank py node text, toLex (node.qualifiedName, node.id)))
    (scope.nodes.filter fun node => rank py node text ≥ 0))

/-- `scope.resolve(text)`: the one node with the best rank. -/
def resolve (text : Text) : Except QueryModelError Node :=
  match scope.matchText py text with
  | .error refused => .error refused
  | .ok [] => .error (.noMatch text)
  | .ok (first :: rest) =>
    let best := rank py first text
    match (first :: rest).filter fun node => rank py node text = best with
    | [] => .error (.noMatch text)
    | [node] => .ok node
    | tied => .error (.ambiguous text (tied.map Node.id))

variable {py scope}

/-- A resolved selector is a pinned node. -/
theorem resolve_mem {text : Text} {node : Node} (found : scope.resolve py text = .ok node) :
    node ∈ scope.allNodes := by
  unfold resolve at found
  split at found
  · cases found
  · cases found
  · next first rest matched =>
    have inside : ∀ other ∈ first :: rest, other ∈ scope.allNodes := by
      intro other member
      unfold GraphSet.matchText at matched
      split at matched
      · cases matched
      · rw [← Except.ok.inj matched, mem_sortedBy, List.mem_filter] at member
        exact mem_nodes.mp member.1
    dsimp only at found
    split at found
    · cases found
    · next other only =>
      cases found
      have kept : node ∈ (first :: rest).filter fun node =>
          rank py node text = rank py first text := by
        rw [only]
        exact List.mem_singleton.mpr rfl
      exact inside node (List.mem_filter.mp kept).1
    · cases found

theorem node_of_resolve {text : Text} {node : Node} (found : scope.resolve py text = .ok node) :
    scope.node node.id = .ok node := node_ok.mpr ⟨resolve_mem found, rfl⟩

theorem pinned_of_resolve {text : Text} {node : Node} (found : scope.resolve py text = .ok node) :
    scope.Pinned node.id := exists_node_iff.mp ⟨node, node_of_resolve found⟩

end GraphSet

/-! ### References by name -/

/-- An unresolved edge names a node: its target text is the folded name, the folded qualified name, or
a dotted path that ends in the folded name. -/
def Names (edge : Edge) (node : Node) : Bool :=
  let foldedName := py.casefold node.name
  let foldedQualified := py.casefold node.qualifiedName
  let named := py.casefold (edge.unresolvedTarget.getD [])
  (named == foldedName || named == foldedQualified) ||
    named.endsWith (("." : Text) ++ foldedName)

/-- `unresolved_references(scope, node)` -/
def unresolvedReferences (scope : GraphSet) (node : Node) : List Edge :=
  scope.edges.filter fun edge => !edge.resolved && Names py edge node

namespace GraphSet

variable {scope : GraphSet}

/-- What `scope.edges()` holds under an id: the first edge with it, in project order. -/
theorem mem_edges {edge : Edge} :
    edge ∈ scope.edges ↔
      (scope.graphs.flatMap Graph.edges).find? (fun other => other.id = edge.id) = some edge := by
  rw [edges, Dict.mem_inKeyOrder, ← Dict.mem_values, Dict.mem_values_firstBy]

theorem mem_graphs_edges {edge : Edge} :
    edge ∈ scope.graphs.flatMap Graph.edges ↔ edge ∈ scope.allEdges := by
  rw [allEdges, List.mem_flatMap, List.mem_flatMap]
  simp only [mem_graphs]

theorem edges_subset {edge : Edge} (member : edge ∈ scope.edges) : edge ∈ scope.allEdges :=
  mem_graphs_edges.mp (List.mem_of_find?_eq_some (mem_edges.mp member))

/-- With unique edge ids the id alone tells two pinned edges apart. -/
theorem edge_eq_of_id (unique : scope.UniqueEdgeIds) {a b : Edge} (left : a ∈ scope.allEdges)
    (right : b ∈ scope.allEdges) (same : a.id = b.id) : a = b :=
  List.inj_on_of_nodup_map unique left right same

/-- With unique edge ids `scope.edges()` holds every pinned edge. -/
theorem mem_edges_of_unique (unique : scope.UniqueEdgeIds) {edge : Edge} :
    edge ∈ scope.edges ↔ edge ∈ scope.allEdges := by
  refine ⟨edges_subset, fun member => mem_edges.mpr ?_⟩
  refine Dict.find?_of_unique (mem_graphs_edges.mpr member) (by simp) fun other inside named => ?_
  exact edge_eq_of_id unique (mem_graphs_edges.mp inside) member (of_decide_eq_true named)

variable {py}

/-- On a scope with unique edge ids, the references by name are all of them. -/
theorem mem_unresolvedReferences (unique : scope.UniqueEdgeIds) {edge : Edge} {node : Node} :
    edge ∈ unresolvedReferences py scope node ↔
      edge ∈ scope.allEdges ∧ edge.resolved = false ∧ Names py edge node = true := by
  rw [unresolvedReferences, List.mem_filter, mem_edges_of_unique unique]
  simp

end GraphSet

/-! ### Building a scope -/

/-- The check of one more graph against the members admitted so far. Its node ids may not be among
theirs; that two nodes of one graph differ is the graph's own invariant. -/
def admitGraph (members : List Graph) (graph : Graph) : Except QueryModelError (List Graph) :=
  match members.find? fun other => other.projectId = graph.projectId with
  | some existing =>
    .error (.pinnedTwice graph.projectId existing.generationId graph.generationId)
  | none =>
    match graph.nodes.find? fun node => node.id ∈ (members.flatMap Graph.nodes).map Node.id with
    | some node => .error (.nodePinnedTwice node.id)
    | none => .ok (members ++ [graph])

/-- The loop of the constructor over a generator of graphs. -/
def admitAll (members : List Graph) :
    List (Except QueryModelError Graph) → Except QueryModelError (List Graph)
  | [] => .ok members
  | .error refused :: _ => .error refused
  | .ok graph :: rest =>
    match admitGraph members graph with
    | .error refused => .error refused
    | .ok admitted => admitAll admitted rest

/-- Members a scope can be built of. -/
structure Admissible (members : List Graph) : Prop where
  projects_nodup : (members.map Graph.projectId).Nodup
  node_ids_nodup : ((members.flatMap Graph.nodes).map Node.id).Nodup

/-- One admission: the graph is new, by project and by node ids. -/
theorem admitGraph_ok {members admitted : List Graph} {graph : Graph}
    (accepted : admitGraph members graph = .ok admitted) :
    admitted = members ++ [graph] ∧ graph.projectId ∉ members.map Graph.projectId ∧
      ∀ node ∈ graph.nodes, node.id ∉ (members.flatMap Graph.nodes).map Node.id := by
  unfold admitGraph at accepted
  split at accepted
  · cases accepted
  · next fresh =>
    split at accepted
    · cases accepted
    · next apart =>
      cases accepted
      refine ⟨rfl, ?_, ?_⟩
      · intro member
        obtain ⟨other, inside, same⟩ := List.mem_map.mp member
        have missed := List.find?_eq_none.mp fresh other inside
        exact missed (by simpa using same)
      · intro node inside member
        have missed := List.find?_eq_none.mp apart node inside
        exact missed (by simpa using member)

theorem admissible_nil : Admissible [] := ⟨List.nodup_nil, List.nodup_nil⟩

theorem Admissible.snoc {members admitted : List Graph} {graph : Graph}
    (fits : Admissible members) (accepted : admitGraph members graph = .ok admitted) :
    Admissible admitted := by
  obtain ⟨rfl, newProject, newNodes⟩ := admitGraph_ok accepted
  constructor
  · rw [List.map_append, List.nodup_append]
    refine ⟨fits.projects_nodup, List.nodup_singleton _, ?_⟩
    intro a inside b last same
    rw [List.map_singleton, List.mem_singleton] at last
    exact newProject (last ▸ same ▸ inside)
  · rw [List.flatMap_append, List.flatMap_singleton, List.map_append, List.nodup_append]
    refine ⟨fits.node_ids_nodup, graph.node_ids, ?_⟩
    intro a inside b last same
    obtain ⟨node, inGraph, rfl⟩ := List.mem_map.mp last
    exact newNodes node inGraph (same ▸ inside)

theorem Admissible.all {graphs : List (Except QueryModelError Graph)} :
    ∀ {members admitted : List Graph}, Admissible members →
      admitAll members graphs = .ok admitted → Admissible admitted := by
  induction graphs with
  | nil =>
    intro members admitted fits accepted
    cases accepted
    exact fits
  | cons item rest ih =>
    intro members admitted fits accepted
    cases item with
    | error refused => cases accepted
    | ok graph =>
      cases one : admitGraph members graph with
      | error refused =>
        simp only [admitAll, one] at accepted
        cases accepted
      | ok next =>
        simp only [admitAll, one] at accepted
        exact ih (fits.snoc one) accepted

/-- `identifier_text(pid, what=...)` of every item. -/
def identifiers (what : Text) : List Text → Except QueryModelError (List Text)
  | [] => .ok []
  | value :: rest =>
    if isIdentifier value then (identifiers what rest).map (value :: ·)
    else .error (.notIdentifier what value)

theorem identifiers_ok {what : Text} :
    ∀ {values accepted : List Text}, identifiers what values = .ok accepted →
      accepted = values ∧ ∀ value ∈ values, isIdentifier value = true := by
  intro values
  induction values with
  | nil =>
    intro accepted result
    cases result
    exact ⟨rfl, fun _ member => (List.not_mem_nil member).elim⟩
  | cons value rest ih =>
    intro accepted result
    unfold identifiers at result
    by_cases good : isIdentifier value = true
    · rw [if_pos good] at result
      cases tail : identifiers what rest with
      | error refused =>
        rw [tail] at result
        cases result
      | ok accepted' =>
        rw [tail] at result
        cases result
        obtain ⟨rfl, others⟩ := ih tail
        refine ⟨rfl, fun other member => ?_⟩
        rcases List.mem_cons.mp member with rfl | member
        · exact good
        · exact others other member
    · rw [if_neg good] at result
      cases result

/-- `GraphSet(graphs, missing_projects=...)`, fed by a generator. -/
def GraphSet.init (graphs : List (Except QueryModelError Graph)) (missing : List Text) :
    Except QueryModelError GraphSet :=
  match admission : admitAll [] graphs with
  | .error refused => .error refused
  | .ok members =>
    match named : identifiers "project_id" missing with
    | .error refused => .error refused
    | .ok missing =>
      match overlap : (sortedSet id missing).find? fun pid => pid ∈ members.map Graph.projectId with
      | some pid => .error (.pinnedAndMissing pid)
      | none =>
        have fits : Admissible members := admissible_nil.all admission
        .ok {
          members := members
          missingProjects := sortedSet id missing
          projects_nodup := fits.projects_nodup
          node_ids_nodup := fits.node_ids_nodup
          missing_identifiers := fun project member => by
            obtain ⟨rfl, good⟩ := identifiers_ok named
            exact good project (mem_sortedSet.mp member)
          missing_normal := sortedSet_idem id missing
          missing_not_pinned := fun project member => by
            have missed := List.find?_eq_none.mp overlap project member
            simpa using missed }

/-- `narrow_scope(scope, project_ids)` -/
def narrowScope (scope : GraphSet) (projectIds : Option (List Text)) :
    Except QueryModelError GraphSet :=
  match projectIds with
  | none => .ok scope
  | some projectIds =>
    match identifiers "project_id" projectIds with
    | .error refused => .error refused
    | .ok chosen =>
      GraphSet.init (chosen.map scope.graph)
        (scope.missingProjects.filter fun pid => decide (pid ∈ chosen))

/-! ### What a narrowed scope keeps -/

/-- What is admitted was offered. -/
theorem mem_admitAll {graphs : List (Except QueryModelError Graph)} {graph : Graph} :
    ∀ {members admitted : List Graph}, admitAll members graphs = .ok admitted →
      graph ∈ admitted → graph ∈ members ∨ .ok graph ∈ graphs := by
  induction graphs with
  | nil =>
    intro members admitted accepted member
    cases accepted
    exact Or.inl member
  | cons item rest ih =>
    intro members admitted accepted member
    cases item with
    | error refused => cases accepted
    | ok first =>
      cases one : admitGraph members first with
      | error refused =>
        simp only [admitAll, one] at accepted
        cases accepted
      | ok next =>
        simp only [admitAll, one] at accepted
        rcases ih accepted member with old | later
        · obtain ⟨rfl, _⟩ := admitGraph_ok one
          rcases List.mem_append.mp old with before | here
          · exact Or.inl before
          · rw [List.mem_singleton.mp here]
            exact Or.inr List.mem_cons_self
        · exact Or.inr (List.mem_cons_of_mem _ later)

theorem init_members {graphs : List (Except QueryModelError Graph)} {missing : List Text}
    {scope : GraphSet} (built : GraphSet.init graphs missing = .ok scope) :
    admitAll [] graphs = .ok scope.members := by
  unfold GraphSet.init at built
  split at built
  · cases built
  · next members admission =>
    split at built
    · cases built
    · split at built
      · cases built
      · cases built
        exact admission

/-- A narrowed scope pins some of the members. -/
theorem narrowScope_members {scope pinned : GraphSet} {projectIds : Option (List Text)}
    (narrowed : narrowScope scope projectIds = .ok pinned) : pinned.members ⊆ scope.members := by
  intro graph member
  cases projectIds with
  | none =>
    cases narrowed
    exact member
  | some projectIds =>
    simp only [narrowScope] at narrowed
    split at narrowed
    · cases narrowed
    · rcases mem_admitAll (init_members narrowed) member with none | offered
      · exact (List.not_mem_nil none).elim
      · obtain ⟨projectId, _, found⟩ := List.mem_map.mp offered
        unfold GraphSet.graph at found
        split at found
        · next other here =>
          cases found
          exact (GraphSet.graph?_eq_some.mp here).1
        · cases found

/-- Unique edge ids stay unique. -/
theorem narrowScope_unique {scope pinned : GraphSet} {projectIds : Option (List Text)}
    (narrowed : narrowScope scope projectIds = .ok pinned) (unique : scope.UniqueEdgeIds) :
    pinned.UniqueEdgeIds := by
  have members := narrowScope_members narrowed
  have flat : ∀ set : GraphSet, set.allEdges.map Edge.id =
      set.members.flatMap fun graph => graph.edges.map Edge.id := fun set => List.map_flatMap
  unfold GraphSet.UniqueEdgeIds at unique ⊢
  rw [flat, List.nodup_flatMap] at unique ⊢
  refine ⟨fun graph member => unique.1 graph (members member), ?_⟩
  have apart : ∀ graph ∈ scope.members, ∀ other ∈ scope.members, graph ≠ other →
      List.Disjoint (graph.edges.map Edge.id) (other.edges.map Edge.id) := by
    have : Std.Symm (Function.onFun List.Disjoint fun graph : Graph => graph.edges.map Edge.id) :=
      ⟨fun _ _ disjoint => disjoint.symm⟩
    exact fun graph left other right different => unique.2.forall left right different
  have distinct : pinned.members.Nodup := pinned.projects_nodup.of_map _
  refine distinct.pairwise_of_forall_ne fun graph left other right different => ?_
  exact apart graph (members left) other (members right) different

end AxiomMcp.Query
