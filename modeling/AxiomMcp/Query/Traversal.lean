/-
**What the operations built on a walk share: options, projection, documents, counts.**

`QueryOptions` are the keyword arguments the operations take. `normaliseProjection` and `projectNode` say
which sections of a node an answer shows; **every projection shows the id** (`idOf_projectNode`), so the
ids of an answer can be read off its documents (`listedIds`).

`selectTarget` is the `try: resolve except TargetAmbiguous` at the head of every operation.
-/

import AxiomMcp.Query.WalkExact
import AxiomMcp.Lib.Fallible

namespace AxiomMcp.Query

open AxiomMcp.Lib

/-! ### Projection -/

/-- The sections a node is projected to. -/
inductive Projection
  | identity | relations | sourceLocations | coverage
  deriving DecidableEq, Repr

/-- The contract name of a section. -/
def Projection.name : Projection → Text
  | .identity => "identity"
  | .relations => "relations"
  | .sourceLocations => "source_locations"
  | .coverage => "coverage"

/-- The contract order of the sections. -/
def Projection.all : List Projection := [.identity, .relations, .sourceLocations, .coverage]

def defaultProjection : List Projection := [.identity, .sourceLocations]

/-- The projection an operation takes when none is passed. -/
def defaultProjectionNames : List Text := defaultProjection.map Projection.name

/-- `normalise_projection(projection)` -/
def normaliseProjection (projection : Option (List Text)) :
    Except QueryModelError (List Projection) :=
  match projection with
  | none => .ok defaultProjection
  | some values =>
    match choiceList Projection.name (some values) "projection" Projection.all [] with
    | .error refused => .error refused
    | .ok [] => .error .noProjection
    | .ok requested =>
      .ok (Projection.all.filter fun name => decide (name ∈ requested ∨ name = .identity))

/-- The ids of the edges at a node, by direction. -/
structure Relations where
  incoming : List Text := []
  outgoing : List Text := []

/-- The identity fields of a node. -/
def Node.identityFields (node : Node) : JsonObject :=
  [("id", .str node.id), ("project_id", .str node.projectId), ("kind", .str node.kind.name),
    ("name", .str node.name), ("qualified_name", .str node.qualifiedName),
    ("language", .str node.language), ("identity_quality", .str node.identityQuality.name)]

/-- A list of texts as a document. -/
def texts (items : List Text) : Json := .arr (items.map .str)

/-- A field that is shown or left out. -/
def shownField (shown : Bool) (name : Text) (value : Json) : JsonObject :=
  if shown then [(name, value)] else []

/-- `project_node(node, projection, relations=..., coverage=...)` -/
def projectNode (node : Node) (projection : List Projection) (relations : Relations := {})
    (coverage : JsonObject := []) : JsonObject :=
  node.identityFields ++
    shownField (decide (.sourceLocations ∈ projection)) "source" node.source.asDocument ++
    shownField (decide (.relations ∈ projection)) "relations"
      (.obj [("incoming", texts (sortedBy id relations.incoming)),
        ("outgoing", texts (sortedBy id relations.outgoing))]) ++
    shownField (decide (.coverage ∈ projection)) "coverage" (.obj coverage)

/-- The id a projected node shows. -/
def idOf (document : JsonObject) : Option Text := Json.text? (.obj document) "id"

/-- The ids a list of projected nodes shows. -/
def listedIds (documents : List JsonObject) : List Text := documents.filterMap idOf

/-- Every projection shows the id. -/
@[simp] theorem idOf_projectNode (node : Node) (projection : List Projection)
    (relations : Relations) (coverage : JsonObject) :
    idOf (projectNode node projection relations coverage) = some node.id := by
  unfold projectNode Node.identityFields
  rfl

/-! ### Options -/

/-- The keyword arguments of an operation. -/
structure QueryOptions where
  projectIds : Option (List Text)
  depth : Option ℤ
  direction : Option Text
  edgeKinds : Option (List Text)
  projection : Option (List Text)
  maxNodes : Option ℤ
  maxEdges : Option ℤ

/-- The keyword defaults of an operation, which differ in three of the keywords. -/
def keywordDefaults (depth : Option ℤ) (edgeKinds projection : Option (List Text)) : QueryOptions where
  projectIds := none
  depth
  direction := none
  edgeKinds
  projection
  maxNodes := none
  maxEdges := none

/-- `bounded_int(depth, "depth", ...)` -/
def validDepth (depth : Option ℤ) : Except QueryModelError ℕ :=
  boundedInt depth "depth" 0 maxDepth defaultDepth

/-- `choice(direction, "direction", ...)` -/
def validDirection (direction : Option Text) : Except QueryModelError Direction :=
  choice Direction.name direction "direction" Direction.all .both

/-- `choice_list(edge_kinds, "edge_kinds", ...)` -/
def validKinds (edgeKinds : Option (List Text)) (default : List EdgeKind) :
    Except QueryModelError (List EdgeKind) :=
  choiceList EdgeKind.name edgeKinds "edge_kinds" EdgeKind.all default

/-- `bounded_int(max_nodes, "max_nodes", ...)` -/
def validNodeBudget (limit : Option ℤ) : Except QueryModelError ℕ :=
  boundedInt limit "max_nodes" 1 maxNodes defaultMaxNodes

/-- `bounded_int(max_edges, "max_edges", ...)` -/
def validEdgeBudget (limit : Option ℤ) : Except QueryModelError ℕ :=
  boundedInt limit "max_edges" 0 maxEdges defaultMaxEdges

/-- `tuple(kinds) or None`: no kind named lets every kind pass. -/
def namedKinds (kinds : List EdgeKind) : Option (List EdgeKind) :=
  if kinds = [] then none else some kinds

/-- The validated request of an operation that walks in a chosen direction. -/
structure DirectedRequest where
  pinned : GraphSet
  sections : List Projection
  hops : ℕ
  heading : Direction
  kinds : List EdgeKind
  nodeBudget : ℕ
  edgeBudget : ℕ

/-- The validation at the head of `path` and `_neighbour_traversal`. -/
def directedRequest (scope : GraphSet) (options : QueryOptions) :
    Except QueryModelError DirectedRequest := do
  let pinned ← narrowScope scope options.projectIds
  let sections ← normaliseProjection options.projection
  let hops ← validDepth options.depth
  let heading ← validDirection options.direction
  let kinds ← validKinds options.edgeKinds []
  let nodeBudget ← validNodeBudget options.maxNodes
  let edgeBudget ← validEdgeBudget options.maxEdges
  return { pinned, sections, hops, heading, kinds, nodeBudget, edgeBudget }

/-- The options of a walk, from values already validated. -/
def walkOptions (hops : ℕ) (heading : Direction) (kinds : Option (List EdgeKind))
    (resolutions : Option (List Resolution)) (nodeBudget edgeBudget : ℕ) : WalkOptions where
  depth := some hops
  direction := some heading.name
  edgeKinds := kinds.map (·.map EdgeKind.name)
  resolutions := resolutions.map (·.map Resolution.name)
  maxNodes := some nodeBudget
  maxEdges := some edgeBudget

/-! ### Targets and counts -/

/-- What a selector names, where ambiguity is an answer and not an error. -/
inductive Selected
  | one (node : Node)
  | ambiguous (candidateIds : List Text)

/-- `pinned.resolve(target)`, with `TargetAmbiguous` caught. -/
def selectTarget (py : Interpreter) (pinned : GraphSet) (target : Text) :
    Except QueryModelError Selected :=
  match pinned.resolve py target with
  | .ok node => .ok (.one node)
  | .error (.ambiguous _ candidateIds) => .ok (.ambiguous candidateIds)
  | .error refused => .error refused

/-- The candidates of an ambiguous target, projected. -/
def candidateDocuments (pinned : GraphSet) (sections : List Projection) (candidateIds : List Text) :
    Except QueryModelError (List JsonObject) :=
  (sortedBy id candidateIds).mapM fun nodeId =>
    (pinned.node nodeId).map fun node => projectNode node sections

/-- The warning of an ambiguous target. -/
def ambiguousWarning (py : Interpreter) (target : Text) (candidateIds : List Text) : Text :=
  Text.format ["ambiguous_target: ", Text.ofNat candidateIds.length, " pinned nodes match ",
    target.pyRepr py.isPrintable, "; candidates are returned instead of one pick"]

/-- The nodes of an answer, projected with their relations and the coverage of their projects. -/
def relatedDocuments (relations : Dict Text Relations) (pinned : GraphSet)
    (sections : List Projection) (nodes : List Node) : Except QueryModelError (List JsonObject) :=
  nodes.mapM fun node =>
    (pinned.graph node.projectId).map fun graph =>
      projectNode node sections ((relations.get? node.id).getD {}) graph.coverageDocument

/-- The nodes of an answer that shows no relations. -/
def nodeDocuments (pinned : GraphSet) (sections : List Projection) (nodes : List Node) :
    Except QueryModelError (List JsonObject) :=
  relatedDocuments Dict.empty pinned sections nodes

/-! ### Validated options make a walk -/

theorem validDepth_le {depth : Option ℤ} {hops : ℕ} (valid : validDepth depth = .ok hops) :
    hops ≤ maxDepth := by
  rcases boundedInt_ok valid with ⟨_, rfl⟩ | ⟨_, _, below⟩
  · decide
  · exact below

theorem validNodeBudget_range {limit : Option ℤ} {budget : ℕ}
    (valid : validNodeBudget limit = .ok budget) : 1 ≤ budget ∧ budget ≤ maxNodes := by
  rcases boundedInt_ok valid with ⟨_, rfl⟩ | ⟨_, above, below⟩
  · decide
  · exact ⟨above, below⟩

theorem validEdgeBudget_le {limit : Option ℤ} {budget : ℕ}
    (valid : validEdgeBudget limit = .ok budget) : budget ≤ maxEdges := by
  rcases boundedInt_ok valid with ⟨_, rfl⟩ | ⟨_, _, below⟩
  · decide
  · exact below

theorem validKinds_sorted {edgeKinds : Option (List Text)} {kinds : List EdgeKind}
    (valid : validKinds edgeKinds [] = .ok kinds) :
    ∀ chosen, namedKinds kinds = some chosen → sortedSet EdgeKind.name chosen = chosen := by
  intro chosen named
  unfold namedKinds at named
  by_cases none : kinds = []
  · rw [if_pos none] at named
    cases named
  · rw [if_neg none] at named
    cases named
    exact choiceList_sorted rfl valid

/-- The checks a validated request has passed. -/
structure DirectedRequest.Accepted (request : DirectedRequest) (scope : GraphSet)
    (options : QueryOptions) : Prop where
  pinned : narrowScope scope options.projectIds = .ok request.pinned
  sections : normaliseProjection options.projection = .ok request.sections
  hops : validDepth options.depth = .ok request.hops
  heading : validDirection options.direction = .ok request.heading
  kinds : validKinds options.edgeKinds [] = .ok request.kinds
  nodeBudget : validNodeBudget options.maxNodes = .ok request.nodeBudget
  edgeBudget : validEdgeBudget options.maxEdges = .ok request.edgeBudget

theorem directedRequest_ok {scope : GraphSet} {options : QueryOptions} {request : DirectedRequest} :
    directedRequest scope options = .ok request ↔ request.Accepted scope options := by
  constructor
  · intro accepted
    obtain ⟨pinned, narrowed, accepted⟩ := bind_eq_ok.mp accepted
    obtain ⟨sections, projected, accepted⟩ := bind_eq_ok.mp accepted
    obtain ⟨hops, depth, accepted⟩ := bind_eq_ok.mp accepted
    obtain ⟨heading, direction, accepted⟩ := bind_eq_ok.mp accepted
    obtain ⟨kinds, chosen, accepted⟩ := bind_eq_ok.mp accepted
    obtain ⟨nodeBudget, nodes, accepted⟩ := bind_eq_ok.mp accepted
    obtain ⟨edgeBudget, edges, accepted⟩ := bind_eq_ok.mp accepted
    cases accepted
    exact ⟨narrowed, projected, depth, direction, chosen, nodes, edges⟩
  · rintro ⟨narrowed, projected, depth, direction, chosen, nodes, edges⟩
    unfold directedRequest
    rw [narrowed, projected, depth, direction, chosen, nodes, edges]
    rfl

/-- Validated values are accepted again by the walk they are passed to. -/
theorem walkOptions_setting {hops nodeBudget edgeBudget : ℕ} {heading : Direction}
    {kinds : Option (List EdgeKind)} {resolutions : Option (List Resolution)}
    (depth : hops ≤ maxDepth) (nodes : 1 ≤ nodeBudget ∧ nodeBudget ≤ maxNodes)
    (edges : edgeBudget ≤ maxEdges)
    (kindsNormal : ∀ chosen, kinds = some chosen → sortedSet EdgeKind.name chosen = chosen)
    (resolutionsNormal : ∀ allowed, resolutions = some allowed →
      sortedSet Resolution.name allowed = allowed ∧ allowed ≠ []) :
    (walkOptions hops heading kinds resolutions nodeBudget edgeBudget).setting =
      .ok ⟨hops, heading, kinds, nodeBudget, edgeBudget, resolutions⟩ := by
  have direction : choice Direction.name (some heading.name) "direction" Direction.all .both =
      .ok heading := choice_label Direction.name_injective (Direction.mem_all heading)
  have kinds' : optionalKinds (kinds.map (·.map EdgeKind.name)) = .ok kinds := by
    cases kinds with
    | none => rfl
    | some chosen =>
      simp only [Option.map_some, optionalKinds,
        choiceList_normal EdgeKind.name_injective (fun kind _ => EdgeKind.mem_all kind)
          (kindsNormal chosen rfl)]
      rfl
  have resolutions' : optionalResolutions (resolutions.map (·.map Resolution.name)) =
      .ok resolutions := by
    cases resolutions with
    | none => rfl
    | some allowed =>
      obtain ⟨normal, nonempty⟩ := resolutionsNormal allowed rfl
      simp only [Option.map_some, optionalResolutions,
        choiceList_normal Resolution.name_injective (fun resolution _ => Resolution.mem_all resolution)
          normal]
  unfold walkOptions WalkOptions.setting
  dsimp only
  rw [boundedInt_some (Nat.zero_le hops) depth, direction, kinds',
    boundedInt_some nodes.1 nodes.2, boundedInt_some (Nat.zero_le edgeBudget) edges, resolutions']
  rfl

/-- The walk from one pinned node. -/
theorem boundedWalk_single {pinned : GraphSet} {nodeId : Text} {options : WalkOptions}
    {setting : WalkSetting} (rooted : pinned.Pinned nodeId)
    (admitted : options.setting = .ok setting) :
    boundedWalk pinned [nodeId] options = walkFrom pinned setting [nodeId] := by
  have all : ∀ root ∈ [nodeId], pinned.Pinned root := by
    intro root member
    rw [List.mem_singleton.mp member]
    exact rooted
  rw [boundedWalk, admitted]
  change (orderRoots [nodeId] >>= walkFrom pinned setting) = _
  rw [orderRoots_pinned all]
  rfl

/-- A walk along incoming edges from a pinned node returns. -/
theorem walkFrom_incoming {pinned : GraphSet} {setting : WalkSetting} {nodeId : Text}
    (incoming : setting.heading = .incoming) (rooted : pinned.Pinned nodeId) :
    ∃ walk, walkFrom pinned setting [nodeId] = .ok walk ∧ Walked pinned setting [nodeId] walk := by
  have distinct : [nodeId].Nodup := List.nodup_singleton nodeId
  have outcome : LooksUp pinned _ (walkFrom pinned setting [nodeId]) _ := walkFrom_outcome distinct
  rcases outcome with ⟨walk, done, walked, _⟩ | ⟨other, seen, absent, _⟩
  · exact ⟨walk, done, walked⟩
  · refine (absent ?_).elim
    have reached := within_subset _ ((Walked.searched distinct).seen_within other seen)
    obtain ⟨root, member, k, _, chain⟩ := reached
    cases chain with
    | nil => exact (List.mem_singleton.mp member) ▸ rooted
    | snoc _ last =>
      unfold WalkSetting.Hop at last
      rw [incoming] at last
      exact pinned_of_hop_incoming last

/-! ### The documents of pinned nodes -/

theorem graph_of_node {pinned : GraphSet} {node : Node} (inside : node ∈ pinned.allNodes) :
    ∃ graph, pinned.graph node.projectId = .ok graph ∧ graph ∈ pinned.members ∧
      graph.projectId = node.projectId := by
  obtain ⟨graph, member, inGraph⟩ := List.mem_flatMap.mp inside
  have project := graph.node_project node inGraph
  refine ⟨graph, ?_, member, project.symm⟩
  rw [GraphSet.graph, GraphSet.graph?_eq_some.mpr ⟨member, project.symm⟩]

/-- The documents of pinned nodes show their ids, in order. -/
theorem relatedDocuments_ok (relations : Dict Text Relations) {pinned : GraphSet}
    (sections : List Projection) {nodes : List Node}
    (inside : ∀ node ∈ nodes, node ∈ pinned.allNodes) :
    ∃ documents, relatedDocuments relations pinned sections nodes = .ok documents ∧
      listedIds documents = nodes.map Node.id := by
  have each : ∀ node ∈ nodes, ∃ document,
      ((pinned.graph node.projectId).map fun graph =>
        projectNode node sections ((relations.get? node.id).getD {}) graph.coverageDocument) =
          .ok document := by
    intro node member
    obtain ⟨graph, found, _⟩ := graph_of_node (inside node member)
    exact ⟨_, map_eq_ok.mpr ⟨graph, found, rfl⟩⟩
  obtain ⟨documents, done⟩ := mapM_of_ok each
  refine ⟨documents, done, ?_⟩
  have pairs := mapM_ok.mp done
  clear done each inside
  induction pairs with
  | nil => rfl
  | cons here _ ih =>
    obtain ⟨graph, _, rfl⟩ := map_eq_ok.mp here
    rw [listedIds, List.filterMap_cons, idOf_projectNode, List.map_cons, ← ih]
    rfl

theorem nodeDocuments_ok {pinned : GraphSet} (sections : List Projection) {nodes : List Node}
    (inside : ∀ node ∈ nodes, node ∈ pinned.allNodes) :
    ∃ documents, nodeDocuments pinned sections nodes = .ok documents ∧
      listedIds documents = nodes.map Node.id := relatedDocuments_ok Dict.empty sections inside

/-! ### Counting -/

/-- `counts[key] = counts.get(key, 0) + 1` over a list. -/
def countBy {α : Type} (key : α → Text) (items : List α) : Dict Text ℕ :=
  items.foldl (fun counts item =>
    counts.set (key item) ((counts.get? (key item)).getD 0 + 1)) Dict.empty

/-- `_per_kind(edges)` -/
def perKind (edges : List Edge) : Dict Text ℕ := countBy (fun edge => edge.kind.name) edges

/-- The number of nodes in each project. -/
def perProject (nodes : List Node) : Dict Text ℕ := countBy Node.projectId nodes

/-- The keys counted are those met. -/
theorem mem_keys_countBy {α : Type} {key : α → Text} {items : List α} {k : Text} :
    k ∈ (countBy key items).keys ↔ ∃ item ∈ items, key item = k := by
  have general : ∀ counts : Dict Text ℕ, k ∈ (items.foldl (fun counts item =>
      counts.set (key item) ((counts.get? (key item)).getD 0 + 1)) counts).keys ↔
        k ∈ counts.keys ∨ ∃ item ∈ items, key item = k := by
    induction items with
    | nil => simp
    | cons item rest ih =>
      intro counts
      rw [List.foldl_cons, ih, Dict.mem_keys_set, or_assoc, List.exists_mem_cons_iff]
      simp only [eq_comm]
  rw [countBy, general]
  simp

end AxiomMcp.Query
