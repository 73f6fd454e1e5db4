/-
**What an answer lists is pinned (`query/*.py`).**

Every engine lists documents of nodes and of edges of its scope. A node is shown with the fields of
its own document, next to relations and coverage that are put together for the answer; an edge is
shown as its own document.

* `Presents`: a document has the fields of a node; `Shows`: what exactly it is made of;
* `ListsPinned`: an answer lists nodes and edges of a scope;
* `graphFromSnapshot_records`: the nodes and edges of a graph are records of the shards of its snapshot;
* `context_lists`, `neighbors_lists`, `dependencies_lists`, `callers_lists`, `impact_lists`, `path_lists`:
  **what the engines list is pinned**, whatever the scope, the target and the budgets;
* `packResponse_kept`: what is packed of a list is its beginning.
-/

import AxiomMcp.Query.DocumentsLossless
import AxiomMcp.Query.Envelope
import AxiomMcp.Query.Impact
import AxiomMcp.Query.Neighborhood
import AxiomMcp.Query.PathExact
import AxiomMcp.Query.Search

namespace AxiomMcp.Query

open AxiomMcp.Lib

/-! ### Documents of nodes -/

/-- The fields that an answer puts together for a node. -/
def derivedFields : List Text := ["relations", "coverage"]

/-- A document shows a node: its id, and no field of its own that is not the node's. -/
structure Presents (document : JsonObject) (node : Node) : Prop where
  id : Json.get? document "id" = some (.str node.id)
  own : ∀ key value, Json.get? document key = some value → key ∉ derivedFields →
    Json.get? node.asDocument key = some value

theorem presents_asDocument (node : Node) : Presents node.asDocument node := ⟨rfl, fun _ _ found _ => found⟩

/-- A field of a longer object is a field of its first part or of its second. -/
theorem get?_append {first second : JsonObject} {key : Text} {value : Json}
    (found : Json.get? (first ++ second) key = some value) :
    Json.get? first key = some value ∨ Json.get? second key = some value := by
  unfold Json.get? at found ⊢
  rw [List.lookup_append] at found
  cases here : first.lookup key with
  | some other =>
    rw [here] at found
    exact Or.inl found
  | none =>
    rw [here] at found
    exact Or.inr found

theorem get?_shownField {shown : Bool} {name key : Text} {value content : Json}
    (found : Json.get? (shownField shown name content) key = some value) : key = name ∧ value = content := by
  unfold shownField at found
  split at found
  · unfold Json.get? at found
    rw [List.lookup_cons] at found
    split at found
    · next same =>
      exact ⟨eq_of_beq same, (Option.some.inj found).symm⟩
    · cases found
  · cases found

/-- The identity fields are fields of the document. -/
theorem get?_identityFields {node : Node} {key : Text} {value : Json}
    (found : Json.get? node.identityFields key = some value) : Json.get? node.asDocument key = some value := by
  have fields : ∀ item ∈ node.identityFields, Json.get? node.asDocument item.1 = some item.2 := by
    unfold Node.identityFields
    simp only [List.forall_mem_cons, List.not_mem_nil, false_implies, implies_true, and_true]
    exact ⟨rfl, rfl, rfl, rfl, rfl, rfl, rfl⟩
  obtain ⟨before, after, split, _⟩ :=
    List.lookup_eq_some_iff.mp (found : node.identityFields.lookup key = some value)
  exact fields (key, value) (by rw [split]; exact List.mem_append_right _ List.mem_cons_self)

/-- Every projection of a node shows it. -/
theorem presents_projectNode (node : Node) (sections : List Projection) (relations : Relations)
    (coverage : JsonObject) : Presents (projectNode node sections relations coverage) node := by
  refine ⟨rfl, fun key value found own => ?_⟩
  unfold projectNode at found
  rcases get?_append found with found | found
  · rcases get?_append found with found | found
    · rcases get?_append found with found | found
      · exact get?_identityFields found
      · obtain ⟨rfl, rfl⟩ := get?_shownField found
        rfl
    · obtain ⟨rfl, _⟩ := get?_shownField found
      exact absurd (by decide) own
  · obtain ⟨rfl, _⟩ := get?_shownField found
    exact absurd (by decide) own

/-- A document that an answer lists for a node of a scope: its own, or a projection of it, which relates it to edges
of the scope and shows the coverage of a member or none. -/
inductive Shows (scope : GraphSet) (document : JsonObject) : Prop
  | whole (node : Node) (pinned : node ∈ scope.allNodes) (same : document = node.asDocument)
  | projected (node : Node) (pinned : node ∈ scope.allNodes) (sections : List Projection) (relations : Relations)
      (related : ∀ edgeId ∈ relations.incoming ++ relations.outgoing, isSha256 edgeId = true)
      (coverage : JsonObject)
      (covers : coverage = [] ∨ ∃ graph ∈ scope.members, coverage = graph.coverageDocument)
      (same : document = projectNode node sections relations coverage)

theorem Shows.presents {scope : GraphSet} {document : JsonObject} (shows : Shows scope document) :
    ∃ node ∈ scope.allNodes, Presents document node := by
  cases shows with
  | whole node pinned same => exact ⟨node, pinned, same ▸ presents_asDocument node⟩
  | projected node pinned sections relations _ coverage _ same =>
    exact ⟨node, pinned, same ▸ presents_projectNode node sections relations coverage⟩

/-! ### Records of shards -/

section Records

variable {py : Interpreter}

/-- An item was parsed out of a record of a shard with this role. -/
def RecordedIn {α : Type} (parse : Json → Except GraphFault α) (role : Text) (shards : List Snapshot.Shard)
    (item : α) : Prop :=
  ∃ shard ∈ shards, shard.role = role ∧
    ∃ records record, iterated shard.document = .ok records ∧ record ∈ records ∧ parse record = .ok item

/-- The documents that are collected are records of the shards. -/
theorem collectShards_records {shards : List Snapshot.Shard} {documents collected : ShardDocuments}
    (accepted : shards.foldlM (collectShard py) documents = .ok collected) :
    (∀ record ∈ collected.nodes, record ∈ documents.nodes ∨ ∃ shard ∈ shards, shard.role = "nodes" ∧
      ∃ records, iterated shard.document = .ok records ∧ record ∈ records) ∧
    ∀ record ∈ collected.edges, record ∈ documents.edges ∨ ∃ shard ∈ shards, shard.role = "edges" ∧
      ∃ records, iterated shard.document = .ok records ∧ record ∈ records := by
  induction shards generalizing documents with
  | nil =>
    obtain rfl := Except.ok.inj accepted
    exact ⟨fun _ member => .inl member, fun _ member => .inl member⟩
  | cons shard rest ih =>
    rw [List.foldlM_cons] at accepted
    obtain ⟨next, taken, accepted⟩ := bind_eq_ok.mp accepted
    obtain ⟨nodes, edges⟩ := ih accepted
    have step : (∀ record ∈ next.nodes, record ∈ documents.nodes ∨ shard.role = "nodes" ∧
          ∃ records, iterated shard.document = .ok records ∧ record ∈ records) ∧
        ∀ record ∈ next.edges, record ∈ documents.edges ∨ shard.role = "edges" ∧
          ∃ records, iterated shard.document = .ok records ∧ record ∈ records := by
      unfold collectShard at taken
      split at taken
      · next role =>
        obtain ⟨more, read, rfl⟩ := map_eq_ok.mp taken
        refine ⟨fun record member => ?_, fun _ member => .inl member⟩
        exact (List.mem_append.mp member).imp id fun here => ⟨role, more, read, here⟩
      · split at taken
        · next role =>
          obtain ⟨more, read, rfl⟩ := map_eq_ok.mp taken
          refine ⟨fun _ member => .inl member, fun record member => ?_⟩
          exact (List.mem_append.mp member).imp id fun here => ⟨role, more, read, here⟩
        · split at taken
          · obtain ⟨coverage, _, rfl⟩ := map_eq_ok.mp taken
            exact ⟨fun _ member => .inl member, fun _ member => .inl member⟩
          · obtain rfl := Except.ok.inj taken
            exact ⟨fun _ member => .inl member, fun _ member => .inl member⟩
    refine ⟨fun record member => ?_, fun record member => ?_⟩
    · rcases nodes record member with before | ⟨other, later, found⟩
      · exact (step.1 record before).imp id fun found => ⟨shard, List.mem_cons_self, found⟩
      · exact .inr ⟨other, List.mem_cons_of_mem _ later, found⟩
    · rcases edges record member with before | ⟨other, later, found⟩
      · exact (step.2 record before).imp id fun found => ⟨shard, List.mem_cons_self, found⟩
      · exact .inr ⟨other, List.mem_cons_of_mem _ later, found⟩

/-- **The nodes and edges of a graph are records of the shards of its snapshot.** -/
theorem graphFromSnapshot_records {snapshot : Snapshot.LoadedSnapshot} {graph : Graph}
    (built : graphFromSnapshot py snapshot = .ok graph) :
    graph.projectId = snapshot.projectId ∧
      (∀ node ∈ graph.nodes, RecordedIn (nodeFromDocument py) "nodes" snapshot.shards node) ∧
      ∀ edge ∈ graph.edges, RecordedIn (edgeFromDocument py) "edges" snapshot.shards edge := by
  obtain ⟨documents, collected, built⟩ := bind_eq_ok.mp built
  obtain ⟨project, _, nodes, edges⟩ := graph_parsed built
  obtain ⟨inNodes, inEdges⟩ := collectShards_records collected
  refine ⟨project, fun node member => ?_, fun edge member => ?_⟩
  · obtain ⟨record, here, parsed⟩ := forall₂_right nodes member
    rcases inNodes record here with wrong | ⟨shard, inside, role, records, read, among⟩
    · cases wrong
    · exact ⟨shard, inside, role, records, record, read, among, parsed⟩
  · obtain ⟨record, here, parsed⟩ := forall₂_right edges member
    rcases inEdges record here with wrong | ⟨shard, inside, role, records, read, among⟩
    · cases wrong
    · exact ⟨shard, inside, role, records, record, read, among, parsed⟩

end Records

/-! ### What a scope has to show -/

section ListsPinned

variable {py : Interpreter} {scope pinned : GraphSet}

/-- Every node document shows a node of the scope, and every edge document is that of an edge of the scope. -/
structure ListsPinned (scope : GraphSet) (nodes edges : List JsonObject) : Prop where
  nodes : ∀ document ∈ nodes, Shows scope document
  edges : ∀ document ∈ edges, ∃ edge ∈ scope.allEdges, document = edge.asDocument

/-- What is shown of a part of the members is shown of all. -/
theorem Shows.mono {document : JsonObject} (shows : Shows pinned document)
    (members : pinned.members ⊆ scope.members) :
    Shows scope document := by
  have kept {node : Node} (inside : node ∈ pinned.allNodes) : node ∈ scope.allNodes := by
    obtain ⟨graph, among, here⟩ := List.mem_flatMap.mp inside
    exact List.mem_flatMap.mpr ⟨graph, members among, here⟩
  cases shows with
  | whole node inside same => exact .whole node (kept inside) same
  | projected node inside sections relations related coverage covers same =>
    refine .projected node (kept inside) sections relations related coverage (covers.imp id ?_) same
    exact fun ⟨graph, among, own⟩ => ⟨graph, members among, own⟩

/-- A part of the members has a part of the nodes and edges. -/
theorem ListsPinned.mono {nodes edges : List JsonObject} (lists : ListsPinned pinned nodes edges)
    (members : pinned.members ⊆ scope.members) : ListsPinned scope nodes edges := by
  refine ⟨fun document member => (lists.nodes document member).mono members, fun document member => ?_⟩
  · obtain ⟨edge, inside, same⟩ := lists.edges document member
    obtain ⟨graph, among, here⟩ := List.mem_flatMap.mp inside
    exact ⟨edge, List.mem_flatMap.mpr ⟨graph, members among, here⟩, same⟩

/-- Documents that are made one by one, each showing a pinned node. -/
theorem shows_mapM {α : Type} {make : α → Except QueryModelError JsonObject} {items : List α}
    {documents : List JsonObject} (made : items.mapM make = .ok documents)
    (each : ∀ item ∈ items, ∀ document, make item = .ok document → Shows pinned document) :
    ∀ document ∈ documents, Shows pinned document := by
  intro document member
  obtain ⟨item, inside, done⟩ := forall₂_right (mapM_ok.mp made) member
  exact each item inside document done

theorem candidateDocuments_present {sections : List Projection} {candidateIds : List Text}
    {documents : List JsonObject} (made : candidateDocuments pinned sections candidateIds = .ok documents) :
    ∀ document ∈ documents, Shows pinned document := by
  refine shows_mapM made fun nodeId _ document done => ?_
  obtain ⟨node, found, rfl⟩ := map_eq_ok.mp done
  exact .projected node (GraphSet.node_ok.mp found).1 sections {} (fun _ wrong => nomatch wrong) [] (.inl rfl) rfl

/-- Every edge that is filed at a node has a digest for its id. -/
def Filed (relations : Dict Text Relations) : Prop :=
  ∀ nodeId, ∀ edgeId ∈ ((relations.get? nodeId).getD {}).incoming ++ ((relations.get? nodeId).getD {}).outgoing,
    isSha256 edgeId = true

theorem filed_empty : Filed Dict.empty := fun _ _ wrong => nomatch wrong

theorem Filed.relate {relations : Dict Text Relations} (filed : Filed relations) {add : Relations → Relations}
    (adds : ∀ here : Relations, (∀ edgeId ∈ here.incoming ++ here.outgoing, isSha256 edgeId = true) →
      ∀ edgeId ∈ (add here).incoming ++ (add here).outgoing, isSha256 edgeId = true) (nodeId : Text) :
    Filed (relate relations nodeId add) := by
  intro other
  unfold Query.relate
  rw [Dict.get?_set]
  split
  · exact adds _ (filed nodeId)
  · exact filed other

theorem Filed.outgoing {relations : Dict Text Relations} (filed : Filed relations) (edge : Edge) (nodeId : Text) :
    Filed (Query.relate relations nodeId fun here => { here with outgoing := here.outgoing ++ [edge.id] }) := by
  refine filed.relate (fun here old edgeId member => ?_) _
  rcases List.mem_append.mp member with before | after
  · exact old edgeId (List.mem_append_left _ before)
  · rcases List.mem_append.mp after with before | new
    · exact old edgeId (List.mem_append_right _ before)
    · exact List.mem_singleton.mp new ▸ edge.id_digest

theorem Filed.incoming {relations : Dict Text Relations} (filed : Filed relations) (edge : Edge) (nodeId : Text) :
    Filed (Query.relate relations nodeId fun here => { here with incoming := here.incoming ++ [edge.id] }) := by
  refine filed.relate (fun here old edgeId member => ?_) _
  rcases List.mem_append.mp member with after | before
  · rcases List.mem_append.mp after with before | new
    · exact old edgeId (List.mem_append_left _ before)
    · exact List.mem_singleton.mp new ▸ edge.id_digest
  · exact old edgeId (List.mem_append_right _ before)

/-- The relations of a walk are between its edges. -/
theorem filed_relationsOf (walk : Walk) : Filed (relationsOf walk) := by
  refine List.foldlRecOn walk.edges _ filed_empty fun relations filed edge _ => ?_
  dsimp only
  split
  · exact filed.outgoing edge _
  · exact (filed.outgoing edge _).incoming edge _

theorem relatedDocuments_present {relations : Dict Text Relations} (filed : Filed relations)
    {sections : List Projection} {nodes : List Node} {documents : List JsonObject}
    (inside : ∀ node ∈ nodes, node ∈ pinned.allNodes)
    (made : relatedDocuments relations pinned sections nodes = .ok documents) :
    ∀ document ∈ documents, Shows pinned document := by
  refine shows_mapM made fun node member document done => ?_
  obtain ⟨graph, found, rfl⟩ := map_eq_ok.mp done
  have among : graph ∈ pinned.members := by
    unfold GraphSet.graph at found
    split at found
    · next looked => exact Except.ok.inj found ▸ (GraphSet.graph?_eq_some.mp looked).1
    · cases found
  exact .projected node (inside node member) sections _ (filed node.id) _ (.inr ⟨graph, among, rfl⟩) rfl

/-- A walk lists what is pinned, wherever it starts and whatever stops it. -/
theorem boundedWalk_listed {roots : List Text} {options : WalkOptions} {walk : Walk}
    (done : boundedWalk pinned roots options = .ok walk) :
    (∀ node ∈ walk.nodes, node ∈ pinned.allNodes) ∧ ∀ edge ∈ walk.edges, edge ∈ pinned.allEdges := by
  obtain ⟨setting, _, done⟩ := bind_eq_ok.mp done
  obtain ⟨ordered, sorted, done⟩ := bind_eq_ok.mp done
  have distinct : ordered.Nodup := by
    unfold orderRoots at sorted
    split at sorted
    · cases sorted
    · obtain rfl := Except.ok.inj sorted
      exact sortedSet_nodup _ _
  have outcome : LooksUp pinned _ (walkFrom pinned setting ordered) (Walked pinned setting ordered) :=
    walkFrom_outcome distinct
  rcases outcome with ⟨found, same, walked, _⟩ | ⟨_, _, _, raised⟩
  · obtain rfl := Except.ok.inj (same.symm.trans done)
    exact ⟨walked.nodes_pinned, fun edge member => (walked.edges_pinned edge member).1⟩
  · rw [raised] at done
    cases done

/-- The edges of a walk, as an answer lists them. -/
theorem edges_present {edges : List Edge} (inside : ∀ edge ∈ edges, edge ∈ pinned.allEdges) :
    ∀ document ∈ edges.map Edge.asDocument, ∃ edge ∈ pinned.allEdges, document = edge.asDocument := by
  intro document member
  obtain ⟨edge, here, rfl⟩ := List.mem_map.mp member
  exact ⟨edge, inside edge here, rfl⟩

/-- An answer that lists candidates and nothing else. -/
theorem lists_candidates {sections : List Projection} {candidateIds : List Text} {documents : List JsonObject}
    (made : candidateDocuments pinned sections candidateIds = .ok documents) :
    ListsPinned pinned ([] ++ documents) [] :=
  ⟨candidateDocuments_present made, fun _ wrong => nomatch wrong⟩

/-! ### The engines -/

theorem context_lists {target : Text} {options : QueryOptions} {result : ContextResult}
    (done : context py scope target options = .ok result) :
    ListsPinned scope (result.nodes ++ result.candidates) result.edges := by
  obtain ⟨pinned, narrowed, done⟩ := bind_eq_ok.mp done
  obtain ⟨sections, _, done⟩ := bind_eq_ok.mp done
  obtain ⟨hops, _, done⟩ := bind_eq_ok.mp done
  obtain ⟨headings, _, done⟩ := bind_eq_ok.mp done
  obtain ⟨kinds, _, done⟩ := bind_eq_ok.mp done
  obtain ⟨selected, _, done⟩ := bind_eq_ok.mp done
  refine ListsPinned.mono ?_ (narrowScope_members narrowed)
  cases selected with
  | ambiguous candidateIds =>
    obtain ⟨candidates, made, rfl⟩ := map_eq_ok.mp done
    exact lists_candidates made
  | one resolved =>
    obtain ⟨walk, walked, done⟩ := bind_eq_ok.mp done
    obtain ⟨nodes, edges⟩ := boundedWalk_listed walked
    obtain ⟨documents, made, rfl⟩ := map_eq_ok.mp done
    rw [List.append_nil]
    exact ⟨relatedDocuments_present (filed_relationsOf walk) nodes made, edges_present edges⟩

theorem neighbourTraversal_lists {operation target : Text} {options : QueryOptions} {result : NeighborResult}
    (done : neighbourTraversal py operation scope target options = .ok result) :
    ListsPinned scope (result.nodes ++ result.candidates) result.edges := by
  obtain ⟨request, accepted, done⟩ := bind_eq_ok.mp done
  obtain ⟨selected, _, done⟩ := bind_eq_ok.mp done
  refine ListsPinned.mono ?_ (narrowScope_members (directedRequest_ok.mp accepted).pinned)
  cases selected with
  | ambiguous candidateIds =>
    obtain ⟨candidates, made, rfl⟩ := map_eq_ok.mp done
    exact lists_candidates made
  | one resolved =>
    obtain ⟨walk, walked, done⟩ := bind_eq_ok.mp done
    obtain ⟨nodes, edges⟩ := boundedWalk_listed walked
    obtain ⟨documents, made, rfl⟩ := map_eq_ok.mp done
    rw [List.append_nil]
    exact ⟨relatedDocuments_present filed_empty nodes made, edges_present edges⟩

theorem neighbors_lists {target : Text} {options : QueryOptions} {result : NeighborResult}
    (done : neighbors py scope target options = .ok result) :
    ListsPinned scope (result.nodes ++ result.candidates) result.edges := neighbourTraversal_lists done

theorem dependencies_lists {target : Text} {options : QueryOptions} {result : NeighborResult}
    (done : dependencies py scope target options = .ok result) :
    ListsPinned scope (result.nodes ++ result.candidates) result.edges := neighbourTraversal_lists done

/-- The members of a request that walks backwards are members of its scope. -/
theorem reverseRequest_members {options : QueryOptions} {request : ReverseRequest}
    (accepted : reverseRequest scope options = .ok request) : request.pinned.members ⊆ scope.members := by
  obtain ⟨pinned, narrowed, accepted⟩ := bind_eq_ok.mp accepted
  obtain ⟨_, _, accepted⟩ := bind_eq_ok.mp accepted
  obtain ⟨_, _, accepted⟩ := bind_eq_ok.mp accepted
  obtain ⟨_, _, accepted⟩ := bind_eq_ok.mp accepted
  obtain ⟨_, _, accepted⟩ := bind_eq_ok.mp accepted
  obtain ⟨_, _, accepted⟩ := bind_eq_ok.mp accepted
  obtain rfl := Except.ok.inj accepted
  exact narrowScope_members narrowed

/-- What a walk lists besides its target is pinned. -/
theorem besides_pinned {resolved : Node} {walk : Walk} (nodes : ∀ node ∈ walk.nodes, node ∈ pinned.allNodes) :
    ∀ node ∈ besides resolved walk, node ∈ pinned.allNodes :=
  fun node member => nodes node (List.mem_filter.mp member).1

theorem callers_lists {target : Text} {options : QueryOptions} {result : CallersResult}
    (done : callers py scope target options = .ok result) :
    ListsPinned scope (result.nodes ++ result.candidates) result.edges := by
  obtain ⟨request, accepted, done⟩ := bind_eq_ok.mp done
  obtain ⟨selected, _, done⟩ := bind_eq_ok.mp done
  refine ListsPinned.mono ?_ (reverseRequest_members accepted)
  cases selected with
  | ambiguous candidateIds =>
    obtain ⟨candidates, made, rfl⟩ := map_eq_ok.mp done
    exact lists_candidates made
  | one resolved =>
    obtain ⟨walk, walked, done⟩ := bind_eq_ok.mp done
    obtain ⟨nodes, edges⟩ := boundedWalk_listed walked
    obtain ⟨documents, made, rfl⟩ := map_eq_ok.mp done
    rw [List.append_nil]
    exact ⟨relatedDocuments_present filed_empty (besides_pinned nodes) made, edges_present edges⟩

theorem impact_lists {target : Text} {options : QueryOptions} {result : ImpactResult}
    (done : impact py scope target options = .ok result) :
    ListsPinned scope (result.nodes ++ result.candidates) result.edges := by
  obtain ⟨request, accepted, done⟩ := bind_eq_ok.mp done
  obtain ⟨selected, _, done⟩ := bind_eq_ok.mp done
  refine ListsPinned.mono ?_ (reverseRequest_members accepted)
  cases selected with
  | ambiguous candidateIds =>
    obtain ⟨candidates, made, rfl⟩ := map_eq_ok.mp done
    exact lists_candidates made
  | one resolved =>
    obtain ⟨walk, walked, done⟩ := bind_eq_ok.mp done
    obtain ⟨exactWalk, _, done⟩ := bind_eq_ok.mp done
    obtain ⟨depthLimited, _, done⟩ := bind_eq_ok.mp done
    obtain ⟨nodes, edges⟩ := boundedWalk_listed walked
    obtain ⟨documents, made, rfl⟩ := map_eq_ok.mp done
    rw [List.append_nil]
    exact ⟨relatedDocuments_present filed_empty (besides_pinned nodes) made, edges_present edges⟩

/-! ### Paths -/

namespace DirectedRequest

variable {request : DirectedRequest} {goal nodeId : Text}

/-- Every parent link of a search is a pinned edge. -/
def LinksPinned (request : DirectedRequest) (state : State) : Prop :=
  ∀ far previous edge, state.parent.get? far = some (some (previous, edge)) → edge ∈ request.pinned.allEdges

theorem LinksPinned.reach {state : State} {far : Text} {edge : Edge} (links : request.LinksPinned state)
    (inside : edge ∈ request.pinned.allEdges) : request.LinksPinned (state.reach far nodeId edge) := by
  intro other previous link found
  have found : (state.parent.set far (some (nodeId, edge))).get? other = some (some (previous, link)) := found
  rw [Dict.get?_set] at found
  split at found
  · obtain ⟨_, rfl⟩ := Prod.mk.inj (Option.some.inj (Option.some.inj found))
    exact inside
  · exact links other previous link found

theorem linksPinned_tryEdge {state : State} {edge : Edge} (links : request.LinksPinned state)
    (inside : edge ∈ request.pinned.allEdges) : request.LinksPinned (request.tryEdge goal nodeId state edge) := by
  have step : Tried request goal nodeId state edge (request.tryEdge goal nodeId state edge) :=
    tried request goal nodeId state edge
  generalize request.tryEdge goal nodeId state edge = next at step
  cases step with
  | again | spent | dangling | crowded | old => exact links
  | goal | new => exact links.reach inside

theorem linksPinned_tryEdges {edges : List Edge} (inside : ∀ edge ∈ edges, edge ∈ request.pinned.allEdges) :
    ∀ {state : State}, request.LinksPinned state →
      request.LinksPinned (request.tryEdges goal nodeId edges state) := by
  induction edges with
  | nil => exact fun links => links
  | cons edge rest ih =>
    intro state links
    obtain ⟨here, others⟩ := List.forall_mem_cons.mp inside
    have next : request.LinksPinned (request.tryEdge goal nodeId state edge) := linksPinned_tryEdge links here
    unfold tryEdges
    dsimp only
    split
    · exact next
    · exact ih others next

theorem linksPinned_tryNodes {nodes : List Text} :
    ∀ {state : State}, request.LinksPinned state → request.LinksPinned (request.tryNodes goal nodes state) := by
  induction nodes with
  | nil => exact fun links => links
  | cons nodeId rest ih =>
    intro state links
    have inside : ∀ edge ∈ request.incident nodeId, edge ∈ request.pinned.allEdges :=
      fun edge member => (of_mem_incident member).1
    have next : request.LinksPinned (request.tryEdges goal nodeId (request.incident nodeId) state) :=
      linksPinned_tryEdges inside links
    unfold tryNodes
    dsimp only
    split
    · exact next
    · exact ih next

theorem linksPinned_searchLevels (remaining : ℕ) : ∀ {state : State} {current : List Text} {level : ℕ},
    request.LinksPinned state →
      request.LinksPinned (request.searchLevels goal state current level remaining).state := by
  induction remaining with
  | zero => exact fun links => links
  | succ remaining ih =>
    intro state current level links
    have next : request.LinksPinned (request.tryNodes goal current { state with nextLevel := [] }) :=
      linksPinned_tryNodes links
    unfold searchLevels
    split
    · exact links
    · dsimp only
      split
      · exact next
      · exact ih next

theorem linksPinned_search (start : Text) : request.LinksPinned (request.search start goal).state := by
  have first : request.LinksPinned (firstState start) := by
    intro far previous edge found
    have found : (Dict.empty.set start none : Dict Text (Option (Text × Edge))).get? far =
      some (some (previous, edge)) := found
    rw [Dict.get?_set] at found
    split at found <;> cases found
  unfold search
  split
  · exact first
  · exact linksPinned_searchLevels _ first

end DirectedRequest

/-- The loop over the parent links reads edges out of them. -/
theorem backtrack_edges {parent : Dict Text (Option (Text × Edge))} {holds : Edge → Prop}
    (links : ∀ far previous edge, parent.get? far = some (some (previous, edge)) → holds edge) :
    ∀ (rounds : ℕ) (cursor : Text), ∀ edge ∈ (backtrack parent rounds cursor).2, holds edge := by
  intro rounds
  induction rounds with
  | zero => exact fun _ _ wrong => nomatch wrong
  | succ rounds ih =>
    intro cursor
    unfold backtrack
    split
    · next previous edge found =>
      exact List.forall_mem_cons.mpr ⟨links cursor previous edge found, ih previous⟩
    · exact fun _ wrong => nomatch wrong

theorem path_lists {target targetTo : Text} {options : QueryOptions} {result : PathResult}
    (done : path py scope target targetTo options = .ok result) :
    ListsPinned scope (result.nodes ++ result.candidates) result.edges := by
  obtain ⟨request, accepted, answered⟩ := path_ok done
  refine ListsPinned.mono ?_ (narrowScope_members (directedRequest_ok.mp accepted).pinned)
  rcases answered with ⟨label, candidateIds, answered⟩ | ⟨start, goal, _, _, answered⟩
  · obtain ⟨candidates, made, rfl⟩ := map_eq_ok.mp answered
    exact lists_candidates made
  · unfold answerPath at answered
    dsimp only at answered
    split at answered
    · unfold foundPath at answered
      dsimp only at answered
      obtain ⟨pathNodes, looked, answered⟩ := bind_eq_ok.mp answered
      obtain ⟨documents, made, answered⟩ := bind_eq_ok.mp answered
      obtain rfl := Except.ok.inj answered
      rw [List.append_nil]
      refine ⟨relatedDocuments_present filed_empty (mapM_node_ok looked).2 made,
        edges_present fun edge member => ?_⟩
      exact backtrack_edges (DirectedRequest.linksPinned_search start.id) _ _ edge (List.mem_reverse.mp member)
    · obtain ⟨visitedNodes, _, answered⟩ := bind_eq_ok.mp answered
      obtain rfl := Except.ok.inj answered
      exact ⟨fun _ wrong => (nomatch wrong), fun _ wrong => nomatch wrong⟩

end ListsPinned

/-! ### Packed lists -/

section Packed

variable {py : Interpreter} {key : Text} {items : List Json}

/-- Under a key there is a beginning of a list. -/
def KeepsStart (key : Text) (items : List Json) (document : Dict Text Json) : Prop :=
  ∃ kept, document.get? key = some (.arr kept) ∧ kept <+: items

theorem KeepsStart.set {document : Dict Text Json} {name : Text} {value : Json}
    (keeps : KeepsStart key items document)
    (other : key ≠ name) : KeepsStart key items (document.set name value) := by
  obtain ⟨kept, found, start⟩ := keeps
  exact ⟨kept, by rw [Dict.get?_set, if_neg other, found], start⟩

theorem KeepsStart.cutTo {document : Dict Text Json} {name : Text} {listed : List Json} {count : ℕ}
    (keeps : KeepsStart key items document) (found : document.get? name = some (.arr listed)) :
    KeepsStart key items (cutTo document name listed count) := by
  by_cases same : key = name
  · subst same
    obtain ⟨kept, here, start⟩ := keeps
    obtain rfl := Json.arr.inj (Option.some.inj (found.symm.trans here))
    exact ⟨listed.take count, by rw [Query.cutTo, Dict.get?_set, if_pos rfl], (List.take_prefix _ _).trans start⟩
  · exact keeps.set same

theorem keepsStart_trimOne {cap : ℕ} {trim trim' : Trim} {name : Text} (keeps : KeepsStart key items trim.packed)
    (cut : trimOne py cap trim name = .ok trim') : KeepsStart key items trim'.packed := by
  unfold trimOne at cut
  split at cut
  · next listed found =>
    split at cut
    · obtain rfl := Except.ok.inj cut
      exact keeps
    · obtain ⟨low, _, cut⟩ := bind_eq_ok.mp cut
      split at cut
      · obtain rfl := Except.ok.inj cut
        exact keeps.cutTo found
      · obtain rfl := Except.ok.inj cut
        exact keeps
  · obtain rfl := Except.ok.inj cut
    exact keeps

theorem keepsStart_record {cap : ℕ} {trim : Trim} {packed : Dict Text Json}
    (data : key ≠ "warnings" ∧ key ≠ "truncated")
    (keeps : KeepsStart key items trim.packed) (recorded : record py cap trim = .ok packed) :
    KeepsStart key items packed := by
  have flag : KeepsStart key items (flagged trim) := by
    unfold flagged
    split
    · exact keeps
    · exact keeps.set data.2
  unfold record at recorded
  dsimp only at recorded
  split at recorded
  · obtain rfl := Except.ok.inj recorded
    exact flag
  · obtain ⟨existing, _, recorded⟩ := bind_eq_ok.mp recorded
    obtain ⟨fitted, _, recorded⟩ := bind_eq_ok.mp recorded
    split at recorded
    · obtain rfl := Except.ok.inj recorded
      exact flag.set data.1
    · obtain rfl := Except.ok.inj recorded
      exact (flag.set data.1).set data.1

/-- **What is packed of a list is its beginning.** -/
theorem packResponse_kept {document : Dict Text Json} {maxBytes : Option ℤ} {result : BudgetResult}
    (data : key ≠ "warnings" ∧ key ≠ "truncated") (found : document.get? key = some (.arr items))
    (packed : packResponse py document maxBytes = .ok result) : KeepsStart key items result.document := by
  have whole : KeepsStart key items document := ⟨items, found, List.prefix_refl _⟩
  obtain ⟨cap, _, packed⟩ := bind_eq_ok.mp packed
  obtain ⟨fitted, _, packed⟩ := bind_eq_ok.mp packed
  split at packed
  · obtain ⟨size, _, packed⟩ := bind_eq_ok.mp packed
    obtain rfl := Except.ok.inj packed
    exact whole
  · obtain ⟨trim, trimmed, packed⟩ := bind_eq_ok.mp packed
    obtain ⟨fitted, _, packed⟩ := bind_eq_ok.mp packed
    split at packed
    · cases packed
    · obtain ⟨recorded, done, packed⟩ := bind_eq_ok.mp packed
      obtain ⟨size, _, packed⟩ := bind_eq_ok.mp packed
      obtain rfl := Except.ok.inj packed
      have cut : KeepsStart key items trim.packed :=
        foldlM_ok (fun trim => KeepsStart key items trim.packed)
          (fun _ _ _ keeps => keepsStart_trimOne keeps) whole trimmed
      exact keepsStart_record data cut done

end Packed

end AxiomMcp.Query
