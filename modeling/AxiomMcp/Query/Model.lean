/-
**The pinned graph: nodes, edges, one project's generation, and several projects indexed together.**

`Node`, `Edge` and `Graph` carry as fields what their constructors check, so a value of these types is
one the loader accepted. In particular an edge has a target exactly when it is not unresolved
(`Edge.resolved_iff`), and a graph pins the source of each of its edges but not the target: a target may
lie in another project, pinned or not.

`GraphSet` is the scope of a query. It pins each project once and each node id once; **nothing in it
makes edge ids unique across its members**. `GraphSet.UniqueEdgeIds` and `GraphSet.TargetsPinned` name
the two conditions that some results need.

The lookups go through the same indexes as the source (`Dict.indexBy`); `outgoing_eq` and
`incoming_eq` say what an index lookup returns.
-/

import AxiomMcp.Query.Errors
import AxiomMcp.Lib.Dict

namespace AxiomMcp.Query

open AxiomMcp.Lib

/-! ### Grammars of identifiers -/

/-- The pattern `^[0-9a-f]{64}$`, as `re.match` reads it. -/
def isSha256 (value : Text) : Bool :=
  Text.matchesToEnd (fun s => s.length == 64 && s.all fun c =>
    Text.isDigitAscii c || (0x61 ≤ c.val && c.val ≤ 0x66)) value

/-- The pattern `^[a-z][a-z0-9-]{0,62}$`, as `re.match` reads it. -/
def isIdentifier (value : Text) : Bool :=
  Text.matchesToEnd (fun s => match s with
    | [] => false
    | first :: rest => Text.isLowerAscii first && rest.length ≤ 62 && rest.all fun c =>
        Text.isLowerAscii c || Text.isDigitAscii c || c == codePoint '-') value

/-- A path segment `..` between slashes or ends. -/
def hasParentSegment (s : Text) : Bool :=
  (s.splitOn (codePoint '/')).any fun segment => segment == ".."

/-- The pattern of a portable relative path: not absolute, no backslash, no parent segment, no drive
prefix, one line. -/
def isPortableRelative (value : Text) : Bool :=
  Text.matchesToEnd (fun s =>
    s != [] && !List.contains s (codePoint '\n') && s.head? != some (codePoint '/') &&
      !List.contains s (codePoint '\\') && !hasParentSegment s &&
      !(match s with
        | letter :: colon :: _ => Text.isLetterAscii letter && colon == codePoint ':'
        | _ => false)) value

/-! ### Contract values -/

/-- The kinds of a node. -/
inductive NodeKind
  | apiEndpoint | classKind | dataStore | externalService | file | function | interface | method
  | namespaceKind | project | property | queueTopic | solution | storedProcedure | table | testCase
  | unresolvedTarget
  deriving DecidableEq, Repr

/-- The contract name of a node kind. -/
def NodeKind.name : NodeKind → Text
  | .apiEndpoint => "ApiEndpoint"
  | .classKind => "Class"
  | .dataStore => "DataStore"
  | .externalService => "ExternalService"
  | .file => "File"
  | .function => "Function"
  | .interface => "Interface"
  | .method => "Method"
  | .namespaceKind => "Namespace"
  | .project => "Project"
  | .property => "Property"
  | .queueTopic => "QueueTopic"
  | .solution => "Solution"
  | .storedProcedure => "StoredProcedure"
  | .table => "Table"
  | .testCase => "TestCase"
  | .unresolvedTarget => "UnresolvedTarget"

/-- All node kinds, in the order of their names. -/
def NodeKind.all : List NodeKind :=
  [.apiEndpoint, .classKind, .dataStore, .externalService, .file, .function, .interface, .method,
    .namespaceKind, .project, .property, .queueTopic, .solution, .storedProcedure, .table, .testCase,
    .unresolvedTarget]

/-- The kinds of an edge. -/
inductive EdgeKind
  | calls | callsEndpoint | contains | dependsOn | executesProcedure | exposes | implements | imports
  | inherits | publishes | reads | references | subscribes | tests | writes
  deriving DecidableEq, Repr

/-- The contract name of an edge kind. -/
def EdgeKind.name : EdgeKind → Text
  | .calls => "CALLS"
  | .callsEndpoint => "CALLS_ENDPOINT"
  | .contains => "CONTAINS"
  | .dependsOn => "DEPENDS_ON"
  | .executesProcedure => "EXECUTES_PROCEDURE"
  | .exposes => "EXPOSES"
  | .implements => "IMPLEMENTS"
  | .imports => "IMPORTS"
  | .inherits => "INHERITS"
  | .publishes => "PUBLISHES"
  | .reads => "READS"
  | .references => "REFERENCES"
  | .subscribes => "SUBSCRIBES"
  | .tests => "TESTS"
  | .writes => "WRITES"

/-- All edge kinds, in the order of their names. -/
def EdgeKind.all : List EdgeKind :=
  [.calls, .callsEndpoint, .contains, .dependsOn, .executesProcedure, .exposes, .implements, .imports,
    .inherits, .publishes, .reads, .references, .subscribes, .tests, .writes]

/-- How sure the analyzer was of an edge. -/
inductive Resolution
  | annotated | exactStatic | inferredStatic | unresolved
  deriving DecidableEq, Repr

/-- The contract name of a resolution. -/
def Resolution.name : Resolution → Text
  | .annotated => "annotated"
  | .exactStatic => "exact_static"
  | .inferredStatic => "inferred_static"
  | .unresolved => "unresolved"

/-- All resolutions, in the order of their names. -/
def Resolution.all : List Resolution := [.annotated, .exactStatic, .inferredStatic, .unresolved]

/-- What the id of a node was derived from. -/
inductive IdentityQuality
  | semanticKey | syntaxKey | annotationKey
  deriving DecidableEq, Repr

/-- The contract name of an identity quality. -/
def IdentityQuality.name : IdentityQuality → Text
  | .semanticKey => "semantic_key"
  | .syntaxKey => "syntax_key"
  | .annotationKey => "annotation_key"

/-- The direction of a walk. -/
inductive Direction
  | incoming | outgoing | both
  deriving DecidableEq, Repr

/-- The contract name of a direction. -/
def Direction.name : Direction → Text
  | .incoming => "incoming"
  | .outgoing => "outgoing"
  | .both => "both"

/-- All directions. -/
def Direction.all : List Direction := [.incoming, .outgoing, .both]

theorem EdgeKind.mem_all (kind : EdgeKind) : kind ∈ EdgeKind.all := by
  cases kind <;> decide

theorem Resolution.mem_all (resolution : Resolution) : resolution ∈ Resolution.all := by
  cases resolution <;> decide

theorem Direction.mem_all (direction : Direction) : direction ∈ Direction.all := by
  cases direction <;> decide

/-- A list that lists its type and whose labels differ makes the label injective. -/
private theorem injective_of_nodup {α : Type} {label : α → Text} {all : List α}
    (mem_all : ∀ a, a ∈ all) (distinct : (all.map label).Nodup) : Function.Injective label :=
  fun a b same => List.inj_on_of_nodup_map distinct (mem_all a) (mem_all b) same

theorem EdgeKind.name_injective : Function.Injective EdgeKind.name :=
  injective_of_nodup EdgeKind.mem_all (by decide)

theorem Resolution.name_injective : Function.Injective Resolution.name :=
  injective_of_nodup Resolution.mem_all (by decide)

theorem Direction.name_injective : Function.Injective Direction.name :=
  injective_of_nodup Direction.mem_all (by decide)

/-! ### Nodes -/

/-- A portable source position: a file and a span of lines counted from 1. -/
structure SourceLocation where
  file : Text
  startLine : ℕ
  endLine : ℕ
  file_portable : isPortableRelative file = true
  startLine_pos : 1 ≤ startLine
  span : startLine ≤ endLine
  deriving DecidableEq

/-- The position as a document. -/
def SourceLocation.asDocument (source : SourceLocation) : Json :=
  .obj [("file", .str source.file), ("start_line", .int source.startLine),
    ("end_line", .int source.endLine)]

/-- One pinned node. -/
structure Node where
  id : Text
  projectId : Text
  kind : NodeKind
  name : Text
  qualifiedName : Text
  language : Text
  source : SourceLocation
  identityQuality : IdentityQuality
  attributes : JsonObject
  id_digest : isSha256 id = true
  projectId_identifier : isIdentifier projectId = true
  name_nonempty : name ≠ []
  qualifiedName_nonempty : qualifiedName ≠ []
  language_nonempty : language ≠ []
  attributes_wellFormed : (Json.obj attributes).WellFormed

/-- The node as a document. -/
def Node.asDocument (node : Node) : JsonObject :=
  [("id", .str node.id), ("project_id", .str node.projectId), ("kind", .str node.kind.name),
    ("name", .str node.name), ("qualified_name", .str node.qualifiedName),
    ("language", .str node.language), ("source", node.source.asDocument),
    ("identity_quality", .str node.identityQuality.name), ("attributes", .obj node.attributes)]

/-! ### Edges -/

/-- One pinned edge. -/
structure Edge where
  id : Text
  sourceId : Text
  targetProjectId : Text
  kind : EdgeKind
  resolution : Resolution
  evidence : List JsonObject
  analyzerId : Text
  targetId : Option Text
  unresolvedTarget : Option Text
  id_digest : isSha256 id = true
  sourceId_digest : isSha256 sourceId = true
  targetProjectId_identifier : isIdentifier targetProjectId = true
  analyzerId_nonempty : analyzerId ≠ []
  evidence_nonempty : evidence ≠ []
  evidence_wellFormed : ∀ item ∈ evidence, (Json.obj item).WellFormed
  /-- Exactly one of the two targets is there. -/
  one_target : targetId.isSome ≠ unresolvedTarget.isSome
  targetId_digest : ∀ target, targetId = some target → isSha256 target = true
  unresolvedTarget_nonempty : ∀ target, unresolvedTarget = some target → target ≠ []
  /-- The edge is unresolved exactly when its target is a name. -/
  unresolved_iff : resolution = .unresolved ↔ unresolvedTarget.isSome = true

namespace Edge

/-- `edge.resolved` -/
def resolved (edge : Edge) : Bool := edge.targetId.isSome

/-- The one target field of the edge's document. -/
def targetField (edge : Edge) : Text × Json :=
  match edge.targetId, edge.unresolvedTarget with
  | some target, _ => ("target_id", .str target)
  | none, some target => ("unresolved_target", .str target)
  | none, none => ("unresolved_target", .null)

/-- The edge as a document. -/
def asDocument (edge : Edge) : JsonObject :=
  [("id", .str edge.id), ("source_id", .str edge.sourceId),
    ("target_project_id", .str edge.targetProjectId), ("kind", .str edge.kind.name),
    ("resolution", .str edge.resolution.name), ("evidence", .arr (edge.evidence.map .obj)),
    ("analyzer_id", .str edge.analyzerId), edge.targetField]

end Edge

/-- `_select_kinds(edges, kinds)` -/
def selectKinds (edges : List Edge) (kinds : Option (List EdgeKind)) : List Edge :=
  match kinds with
  | none => edges
  | some kinds => edges.filter fun edge => decide (edge.kind ∈ kinds)

/-- `_direct(edges, node_id, kinds)` -/
def direct (edges : Dict Text (List Edge)) (nodeId : Text) (kinds : Option (List EdgeKind)) :
    List Edge :=
  selectKinds (edges.getList nodeId) kinds

/-! ### One project's generation -/

/-- One project's pinned generation. -/
structure Graph where
  projectId : Text
  generationId : Text
  nodes : List Node
  edges : List Edge
  coverage : Option JsonObject
  schemaMajor : Option ℤ
  projectId_identifier : isIdentifier projectId = true
  generationId_digest : isSha256 generationId = true
  node_project : ∀ node ∈ nodes, node.projectId = projectId
  node_ids : (nodes.map Node.id).Nodup
  edge_ids : (edges.map Edge.id).Nodup
  /-- Every edge starts at a node of this generation; where it ends is not checked. -/
  edge_source : ∀ edge ∈ edges, edge.sourceId ∈ nodes.map Node.id

namespace Graph

/-- The pinned coverage status, or `unknown` when there is no coverage block. -/
def coverageStatus (py : Interpreter) (graph : Graph) : Text :=
  match graph.coverage with
  | none => "unknown"
  | some [] => "unknown"
  | some block =>
    match Json.get? block "status" with
    | some status => status.pyStr py
    | none => "unknown"

/-- The contract fields of the coverage block. -/
def coverageDocument (graph : Graph) : JsonObject :=
  match graph.coverage with
  | none => []
  | some block =>
    (["status", "input_files", "processed_files", "unresolved_references",
      "unsupported_patterns"] : List Text).filterMap fun key =>
        (Json.get? block key).map fun value => (key, value)

end Graph

/-! ### The scope of a query -/

/-- Several pinned projects indexed together, with the members asked for that are not pinned. -/
structure GraphSet where
  members : List Graph
  missingProjects : List Text
  /-- A project is pinned once. -/
  projects_nodup : (members.map Graph.projectId).Nodup
  /-- A node id is pinned once, over all members. -/
  node_ids_nodup : ((members.flatMap Graph.nodes).map Node.id).Nodup
  missing_identifiers : ∀ project ∈ missingProjects, isIdentifier project = true
  /-- The missing projects are sorted and each named once. -/
  missing_normal : sortedSet id missingProjects = missingProjects
  missing_not_pinned : ∀ project ∈ missingProjects, project ∉ members.map Graph.projectId

namespace GraphSet

variable (scope : GraphSet)

/-- All pinned nodes, member by member. -/
def allNodes : List Node := scope.members.flatMap Graph.nodes

/-- All pinned edges, member by member. -/
def allEdges : List Edge := scope.members.flatMap Graph.edges

/-- `scope.project_ids` -/
def projectIds : List Text := sortedBy id (scope.members.map Graph.projectId)

/-- `scope.searched_projects` -/
def searchedProjects : List Text := scope.projectIds

/-- The member of a project, if it is pinned. -/
def graph? (projectId : Text) : Option Graph :=
  scope.members.find? fun graph => graph.projectId = projectId

/-- `scope.graph(project_id)` -/
def graph (projectId : Text) : Except QueryModelError Graph :=
  match scope.graph? projectId with
  | some graph => .ok graph
  | none => .error (.noGraph projectId)

/-- `scope.graphs` -/
def graphs : List Graph := scope.projectIds.filterMap scope.graph?

/-- `scope.generations()` -/
def generations : List (Text × Text) :=
  scope.graphs.map fun graph => (graph.projectId, graph.generationId)

/-- The dictionary of pinned nodes. -/
def nodeIndex : Dict Text Node := Dict.ofList Node.id scope.allNodes

/-- `scope.node(node_id)` -/
def node (nodeId : Text) : Except QueryModelError Node :=
  match scope.nodeIndex.get? nodeId with
  | some node => .ok node
  | none => .error (.noNode nodeId)

/-- `scope.has_node(node_id)` -/
def hasNode (nodeId : Text) : Bool := scope.nodeIndex.has nodeId

/-- `scope.nodes`: the pinned nodes in the order of their ids. -/
def nodes : List Node := scope.nodeIndex.inKeyOrder

/-- `scope.edges()`: in the order of their ids. Of several edges with one id, the edge of the first
member in project order is kept. -/
def edges : List Edge :=
  (Dict.firstBy Edge.id (scope.graphs.flatMap Graph.edges)).inKeyOrder

/-- The edges filed under the node they start at. -/
def outgoingIndex : Dict Text (List Edge) :=
  Dict.indexBy (fun edge => some edge.sourceId) scope.allEdges

/-- The resolved edges filed under the node they end at. -/
def incomingIndex : Dict Text (List Edge) := Dict.indexBy Edge.targetId scope.allEdges

/-- `scope.outgoing(node_id, kinds)` -/
def outgoing (nodeId : Text) (kinds : Option (List EdgeKind)) : List Edge :=
  direct scope.outgoingIndex nodeId kinds

/-- `scope.incoming(node_id, kinds)` -/
def incoming (nodeId : Text) (kinds : Option (List EdgeKind)) : List Edge :=
  direct scope.incomingIndex nodeId kinds

/-- The ids of edges are unique across the members. -/
def UniqueEdgeIds : Prop := (scope.allEdges.map Edge.id).Nodup

/-- Every resolved edge ends at a pinned node. -/
def TargetsPinned : Prop :=
  ∀ edge ∈ scope.allEdges, ∀ target, edge.targetId = some target →
    target ∈ scope.allNodes.map Node.id

/-- A node id the scope pins. -/
def Pinned (nodeId : Text) : Prop := nodeId ∈ scope.allNodes.map Node.id

instance (nodeId : Text) : Decidable (scope.Pinned nodeId) :=
  inferInstanceAs (Decidable (nodeId ∈ scope.allNodes.map Node.id))

variable {scope}

/-! ### What the lookups return -/

theorem nodeIndex_get? {nodeId : Text} {node : Node} :
    scope.nodeIndex.get? nodeId = some node ↔ node ∈ scope.allNodes ∧ node.id = nodeId :=
  Dict.get?_ofList scope.node_ids_nodup

theorem node_ok {nodeId : Text} {node : Node} :
    scope.node nodeId = .ok node ↔ node ∈ scope.allNodes ∧ node.id = nodeId := by
  rw [← nodeIndex_get?, GraphSet.node]
  cases scope.nodeIndex.get? nodeId <;> simp

theorem node_id {nodeId : Text} {node : Node} (found : scope.node nodeId = .ok node) :
    node.id = nodeId := (node_ok.mp found).2

/-- A lookup succeeds exactly on pinned ids. -/
theorem exists_node_iff {nodeId : Text} : (∃ node, scope.node nodeId = .ok node) ↔
    scope.Pinned nodeId := by
  unfold Pinned
  rw [List.mem_map]
  constructor
  · rintro ⟨node, found⟩
    exact ⟨node, node_ok.mp found⟩
  · rintro ⟨node, found⟩
    exact ⟨node, node_ok.mpr found⟩

theorem node_error {nodeId : Text} (absent : ¬ scope.Pinned nodeId) :
    scope.node nodeId = .error (.noNode nodeId) := by
  have missing : scope.nodeIndex.get? nodeId = none := by
    rw [Option.eq_none_iff_forall_not_mem]
    intro node found
    exact absent (exists_node_iff.mp ⟨node, node_ok.mpr (nodeIndex_get?.mp found)⟩)
  rw [GraphSet.node, missing]

theorem nodes_perm (scope : GraphSet) : scope.nodes.Perm scope.allNodes := by
  have values : scope.nodeIndex.values = scope.allNodes := by
    have distinct : (scope.allNodes.map Node.id).Nodup := scope.node_ids_nodup
    rw [Dict.values, nodeIndex, Dict.entries_ofList distinct, List.map_map]
    exact List.map_id _
  rw [← values]
  exact Dict.inKeyOrder_perm _

theorem mem_nodes {node : Node} : node ∈ scope.nodes ↔ node ∈ scope.allNodes :=
  scope.nodes_perm.mem_iff

theorem nodes_ids_nodup (scope : GraphSet) : (scope.nodes.map Node.id).Nodup :=
  (scope.nodes_perm.map Node.id).nodup_iff.mpr scope.node_ids_nodup

theorem node_eq_of_id {a b : Node} (left : a ∈ scope.allNodes) (right : b ∈ scope.allNodes)
    (same : a.id = b.id) : a = b :=
  List.inj_on_of_nodup_map scope.node_ids_nodup left right same

theorem mem_selectKinds {edges : List Edge} {kinds : Option (List EdgeKind)} {edge : Edge} :
    edge ∈ selectKinds edges kinds ↔ edge ∈ edges ∧ ∀ chosen, kinds = some chosen →
      edge.kind ∈ chosen := by
  cases kinds with
  | none => simp [selectKinds]
  | some kinds => simp [selectKinds]

/-- Outgoing edges are the pinned edges that start at the node. -/
theorem outgoing_eq (nodeId : Text) (kinds : Option (List EdgeKind)) :
    scope.outgoing nodeId kinds =
      selectKinds (scope.allEdges.filter fun edge => edge.sourceId = nodeId) kinds := by
  rw [outgoing, direct, outgoingIndex, Dict.getList_indexBy]
  simp only [Option.some.injEq]

/-- Incoming edges are the pinned edges that end at the node. -/
theorem incoming_eq (nodeId : Text) (kinds : Option (List EdgeKind)) :
    scope.incoming nodeId kinds =
      selectKinds (scope.allEdges.filter fun edge => edge.targetId = some nodeId) kinds := by
  rw [incoming, direct, incomingIndex, Dict.getList_indexBy]

/-- Every pinned edge starts at a pinned node. -/
theorem source_pinned {edge : Edge} (member : edge ∈ scope.allEdges) :
    scope.Pinned edge.sourceId := by
  obtain ⟨graph, inScope, inGraph⟩ := List.mem_flatMap.mp member
  obtain ⟨node, inNodes, same⟩ := List.mem_map.mp (graph.edge_source edge inGraph)
  exact List.mem_map.mpr ⟨node, List.mem_flatMap.mpr ⟨graph, inScope, inNodes⟩, same⟩

/-! ### Members by project -/

theorem graph?_eq_some {projectId : Text} {graph : Graph} :
    scope.graph? projectId = some graph ↔ graph ∈ scope.members ∧ graph.projectId = projectId := by
  rw [graph?]
  constructor
  · intro found
    exact ⟨List.mem_of_find?_eq_some found, by simpa using List.find?_some found⟩
  · rintro ⟨member, same⟩
    refine Dict.find?_of_unique member (by simpa using same) fun other here named => ?_
    exact List.inj_on_of_nodup_map scope.projects_nodup here member
      ((of_decide_eq_true named).trans same.symm)

theorem mem_projectIds {projectId : Text} :
    projectId ∈ scope.projectIds ↔ ∃ graph ∈ scope.members, graph.projectId = projectId := by
  rw [projectIds, mem_sortedBy, List.mem_map]

theorem mem_graphs {graph : Graph} : graph ∈ scope.graphs ↔ graph ∈ scope.members := by
  rw [graphs, List.mem_filterMap]
  constructor
  · rintro ⟨projectId, _, found⟩
    exact (graph?_eq_some.mp found).1
  · intro member
    exact ⟨graph.projectId, mem_projectIds.mpr ⟨graph, member, rfl⟩, graph?_eq_some.mpr ⟨member, rfl⟩⟩

instance : Decidable scope.UniqueEdgeIds :=
  inferInstanceAs (Decidable (scope.allEdges.map Edge.id).Nodup)

instance : Decidable scope.TargetsPinned :=
  decidable_of_iff
    (∀ edge ∈ scope.allEdges, ∀ target ∈ edge.targetId.toList, target ∈ scope.allNodes.map Node.id)
    (by simp only [Option.mem_toList, TargetsPinned])

end GraphSet

/-! ### Plain values, for small scopes -/

/-- The digest of one hexadecimal digit, repeated. -/
def digest (digit : Char) : Text := List.replicate 64 (codePoint digit)

/-- A lower-case hexadecimal digit. -/
def hexadecimal (digit : Char) : Bool :=
  Text.isDigitAscii (codePoint digit) || (0x61 ≤ (codePoint digit).val && (codePoint digit).val ≤ 0x66)

theorem isSha256_digest {digit : Char} (hex : hexadecimal digit = true) : isSha256 (digest digit) = true := by
  refine Bool.or_eq_true_iff.mpr (.inl (Bool.and_eq_true_iff.mpr ⟨by simp [digest], ?_⟩))
  rw [List.all_eq_true]
  intro c member
  obtain rfl := List.eq_of_mem_replicate member
  exact hex

/-- A function with a name, on the first line of a file. -/
def plainNode (projectId name : Text) (digit : Char) (hex : hexadecimal digit = true := by exact Eq.refl true)
    (projectId_identifier : isIdentifier projectId = true := by exact Eq.refl true)
    (named : name.isEmpty = false := by exact Eq.refl false) : Node where
  id := digest digit
  projectId := projectId
  kind := .function
  name := name
  qualifiedName := name
  language := "python"
  source := ⟨"m.py", 1, 1, by decide, by decide, by decide⟩
  identityQuality := .semanticKey
  attributes := []
  id_digest := isSha256_digest hex
  projectId_identifier := projectId_identifier
  name_nonempty := List.isEmpty_eq_false_iff.mp named
  qualifiedName_nonempty := List.isEmpty_eq_false_iff.mp named
  language_nonempty := by decide
  attributes_wellFormed := ⟨List.nodup_nil, trivial⟩

theorem target_given : true ≠ false := by decide

theorem no_target_digest : ∀ target : Text, none = some target → isSha256 target = true := nofun

theorem no_target_name : ∀ target : Text, none = some target → target ≠ [] := nofun

theorem target_named {name : Text} (named : name ≠ []) : ∀ target, some name = some target → target ≠ [] := by
  rintro _ ⟨⟩
  exact named

/-- An exact edge between two nodes. -/
def plainEdge (projectId : Text) (digit source target : Char) (kind : EdgeKind)
    (hex : hexadecimal digit = true := by exact Eq.refl true)
    (source_hex : hexadecimal source = true := by exact Eq.refl true)
    (target_hex : hexadecimal target = true := by exact Eq.refl true)
    (projectId_identifier : isIdentifier projectId = true := by exact Eq.refl true) : Edge where
  id := digest digit
  sourceId := digest source
  targetProjectId := projectId
  kind := kind
  resolution := .exactStatic
  evidence := [[]]
  analyzerId := "a"
  targetId := some (digest target)
  unresolvedTarget := none
  id_digest := isSha256_digest hex
  sourceId_digest := isSha256_digest source_hex
  targetProjectId_identifier := projectId_identifier
  analyzerId_nonempty := by decide
  evidence_nonempty := by decide
  evidence_wellFormed := fun item member => by
    obtain rfl := List.mem_singleton.mp member
    exact ⟨List.nodup_nil, trivial⟩
  one_target := target_given
  targetId_digest := fun _ found => by
    cases found
    exact isSha256_digest target_hex
  unresolvedTarget_nonempty := no_target_name
  unresolved_iff := by decide

/-- An edge whose target is a name. -/
def namedEdge (projectId name : Text) (digit source : Char) (kind : EdgeKind)
    (hex : hexadecimal digit = true := by exact Eq.refl true)
    (source_hex : hexadecimal source = true := by exact Eq.refl true)
    (projectId_identifier : isIdentifier projectId = true := by exact Eq.refl true)
    (named : name.isEmpty = false := by exact Eq.refl false) : Edge where
  id := digest digit
  sourceId := digest source
  targetProjectId := projectId
  kind := kind
  resolution := .unresolved
  evidence := [[]]
  analyzerId := "a"
  targetId := none
  unresolvedTarget := some name
  id_digest := isSha256_digest hex
  sourceId_digest := isSha256_digest source_hex
  targetProjectId_identifier := projectId_identifier
  analyzerId_nonempty := by decide
  evidence_nonempty := by decide
  evidence_wellFormed := fun item member => by
    obtain rfl := List.mem_singleton.mp member
    exact ⟨List.nodup_nil, trivial⟩
  one_target := Bool.false_ne_true
  targetId_digest := no_target_digest
  unresolvedTarget_nonempty := target_named (List.isEmpty_eq_false_iff.mp named)
  unresolved_iff := by simp

/-- A generation of some nodes and edges. -/
def plainGraph (projectId : Text) (nodes : List Node) (edges : List Edge)
    (coverage : Option JsonObject)
    (valid : isIdentifier projectId = true ∧ (∀ node ∈ nodes, node.projectId = projectId) ∧
      (nodes.map Node.id).Nodup ∧ (edges.map Edge.id).Nodup ∧
      ∀ edge ∈ edges, edge.sourceId ∈ nodes.map Node.id) : Graph where
  projectId := projectId
  generationId := digest '0'
  nodes := nodes
  edges := edges
  coverage := coverage
  schemaMajor := none
  projectId_identifier := valid.1
  generationId_digest := by decide
  node_project := valid.2.1
  node_ids := valid.2.2.1
  edge_ids := valid.2.2.2.1
  edge_source := valid.2.2.2.2

/-- A scope of some members, none missing. -/
def plainScope (members : List Graph)
    (valid : (members.map Graph.projectId).Nodup ∧
      ((members.flatMap Graph.nodes).map Node.id).Nodup) : GraphSet where
  members := members
  missingProjects := []
  projects_nodup := valid.1
  node_ids_nodup := valid.2
  missing_identifiers := fun _ member => (List.not_mem_nil member).elim
  missing_normal := rfl
  missing_not_pinned := fun _ member => (List.not_mem_nil member).elim

end AxiomMcp.Query
