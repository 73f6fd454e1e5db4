/-
**What an answer rests on (`graph_query`).**

An answer lists nodes and edges. Each of them leads back through digests: the record is in a shard,
whose digest is in a manifest, whose digest is the generation that the catalog pins for the project,
and the digest of the catalog is what the pointer of its lane names. So nobody but who publishes a
catalog has a say in what is listed.

* `answerQuery_lists`: an answered document lists nodes and edges of its scope, however it was packed;
* `Published`: an item is in a generation, as bytes that were read;
* `Certified`: all that a document lists is published in the generations of one catalog;
* `answers_certified`: **every answer is certified**, in every order of tool calls over one retention.
-/

import AxiomMcp.Tools.Invisible
import AxiomMcp.Tools.Listing
import AxiomMcp.Tools.Shared

namespace AxiomMcp.Tools

open Lib Program
open Query
open Snapshot (Catalog CatalogMember CatalogVector FileOp FileReply LoadedSnapshot MadeOfGeneration
  MemberPin ParsedAs SnapshotLocation loadCatalogBytes loadManifestBytes loadPointerBytes
  loadSolutionCatalog manifestLabel parseBytes pinCatalog)

/-! ### Answered documents -/

section Listed

variable {scope : GraphSet} {arguments : JsonObject} {Time : Type} [LinearOrder Time] {context : ToolContext Time}
  {request : QueryRequest} {document : JsonObject}

/-- A document lists, under these two keys, nodes and edges. -/
structure ListedDocument (isNode : Node → Prop) (isEdge : Edge → Prop) (document : JsonObject) : Prop where
  nodes : ∃ nodes, Json.get? document "nodes" = some (.arr nodes) ∧
    ∀ item ∈ nodes, ∃ shown node, item = .obj shown ∧ isNode node ∧ Presents shown node
  edges : ∃ edges, Json.get? document "edges" = some (.arr edges) ∧
    ∀ item ∈ edges, ∃ edge, item = .obj edge.asDocument ∧ isEdge edge

/-- **An answered document lists nodes and edges of its scope**, however it was packed. -/
theorem answerQuery_lists (answered : answerQuery arguments context request scope = .ok document) :
    ListedDocument (· ∈ scope.allNodes) (· ∈ scope.allEdges) document := by
  obtain ⟨_, _, answered⟩ := bind_eq_ok.mp answered
  obtain ⟨budgets, _, answered⟩ := bind_eq_ok.mp answered
  obtain ⟨_, _, answered⟩ := bind_eq_ok.mp answered
  obtain ⟨parts, made, answered⟩ := bind_eq_ok.mp answered
  obtain ⟨envelope, enveloped, answered⟩ := bind_eq_ok.mp answered
  obtain ⟨packed, packing, answered⟩ := bind_eq_ok.mp answered
  obtain rfl := Except.ok.inj answered
  have lists : ListsPinned scope parts.nodes parts.edges := answer_lists made
  obtain ⟨solution, _, enveloped⟩ := bind_eq_ok.mp (mapError_eq_ok.mp enveloped)
  obtain ⟨⟨reported, warnings⟩, _, enveloped⟩ := bind_eq_ok.mp enveloped
  obtain ⟨checked, _, enveloped⟩ := bind_eq_ok.mp enveloped
  obtain rfl := Except.ok.inj enveloped
  have packing := mapError_eq_ok.mp packing
  have flagged : ∀ key : Text, key ≠ "truncated" →
      Json.get? (packedAnswer packed) key = packed.document.get? key := by
    intro key other
    unfold packedAnswer
    rw [get?_entries]
    split
    · rw [Dict.get?_set, if_neg other]
    · rfl
  obtain ⟨nodes, foundNodes, startNodes⟩ :=
    @packResponse_kept _ "nodes" (parts.nodes.map .obj) _ _ _ (by decide) rfl packing
  obtain ⟨edges, foundEdges, startEdges⟩ :=
    @packResponse_kept _ "edges" (parts.edges.map .obj) _ _ _ (by decide) rfl packing
  refine ⟨⟨nodes, (flagged _ (by decide)).trans foundNodes, fun item member => ?_⟩,
    edges, (flagged _ (by decide)).trans foundEdges, fun item member => ?_⟩
  · obtain ⟨shown, inside, rfl⟩ := List.mem_map.mp (startNodes.subset member)
    obtain ⟨node, pinned, presents⟩ := (lists.nodes shown inside).presents
    exact ⟨shown, node, rfl, pinned, presents⟩
  · obtain ⟨shown, inside, rfl⟩ := List.mem_map.mp (startEdges.subset member)
    obtain ⟨edge, pinned, rfl⟩ := lists.edges shown inside
    exact ⟨edge, rfl, pinned⟩

theorem ListedDocument.mono {isNode isNode' : Node → Prop} {isEdge isEdge' : Edge → Prop}
    (listed : ListedDocument isNode isEdge document) (nodes : ∀ node, isNode node → isNode' node)
    (edges : ∀ edge, isEdge edge → isEdge' edge) : ListedDocument isNode' isEdge' document := by
  obtain ⟨⟨shownNodes, foundNodes, eachNode⟩, shownEdges, foundEdges, eachEdge⟩ := listed
  refine ⟨⟨shownNodes, foundNodes, fun item member => ?_⟩, shownEdges, foundEdges, fun item member => ?_⟩
  · obtain ⟨shown, node, same, holds, presents⟩ := eachNode item member
    exact ⟨shown, node, same, nodes node holds, presents⟩
  · obtain ⟨edge, same, holds⟩ := eachEdge item member
    exact ⟨edge, same, edges edge holds⟩

end Listed

/-! ### What is published -/

section Published

variable {Time : Type} {base context : ToolContext Time} {payloads : List Bytes} {α : Type}

/-- An item is in a generation of a project, by bytes that were read: the id is the digest of a manifest of the
project, the manifest pins a shard of this role by its digest, and a record of the shard is parsed as the item. -/
def Published (base : ToolContext Time) (payloads : List Bytes) (projectId generationId role : Text)
    (parse : Json → Except GraphFault α) (item : α) : Prop :=
  ∃ raw ∈ payloads, ∃ manifest, base.sha256 raw = generationId ∧
    loadManifestBytes base.interpreter raw (manifestLabel generationId) = .ok manifest ∧
    manifest.projectId = projectId ∧
    ∃ entry ∈ manifest.files, entry.role = role ∧
      ∃ payload ∈ payloads, base.sha256 payload = entry.sha256 ∧
        ∃ document records record, (∀ what, parseBytes base.interpreter payload what = .ok document) ∧
          iterated document = .ok records ∧ record ∈ records ∧ parse record = .ok item

/-- **A record of a snapshot is published in its generation.** -/
theorem published_of_recorded {lane role : Text} {parse : Json → Except GraphFault α} {item : α}
    {snapshot : LoadedSnapshot} (made : MadeOfGeneration base.interpreter base.sha256 none payloads lane snapshot)
    (recorded : RecordedIn parse role snapshot.shards item) :
    Published base payloads snapshot.projectId snapshot.generationId role parse item := by
  obtain ⟨raw, member, manifest, entries, digest, loaded, selected, parsed, _, project, _⟩ := made.made
  obtain ⟨shard, inside, ofRole, records, record, iterates, among, parses⟩ := recorded
  obtain ⟨entry, chosen, payload, read, document, pinned, reads, rfl⟩ := forall₂_right parsed inside
  exact ⟨raw, member, manifest, digest, loaded, project.symm, entry,
    Snapshot.selectedEntries_subset selected entry chosen, ofRole, payload, read, pinned, document, records, record,
    reads, iterates, among, parses⟩

/-- The catalog of a solution was read, in the directory that the pointer of its lane names, and by its digest. -/
structure ReadsCatalog (context : ToolContext Time) (calls : List (Call ToolOp ToolReply)) (solutionId : Text)
    (catalog : Catalog) : Prop where
  read : ∃ location pointed pointer directory raw,
    context.registry.catalogLocation context.interpreter solutionId queryLane = .ok location ∧
    (⟨.readBytes location.pointer, .ok pointed⟩ : Call FileOp FileReply) ∈ fileCallsOf calls ∧
    loadPointerBytes context.interpreter pointed location.pointer.name = .ok pointer ∧
    location.generationRoot context.interpreter pointer.directoryName = .ok directory ∧
    (⟨.readBytes (directory.child Snapshot.catalogFilename), .ok raw⟩ : Call FileOp FileReply) ∈ fileCallsOf calls ∧
    context.sha256 raw = pointer.generationId ∧
    loadCatalogBytes context.interpreter raw Snapshot.catalogFilename = .ok catalog

/-- A file that was read. -/
theorem readBytes_ok {path : Snapshot.Path} {inner : List (Call FileOp FileReply)} {raw : Bytes}
    (trace : Trace (Snapshot.readBytes path) inner (.ok raw)) : inner = [⟨.readBytes path, .ok raw⟩] := by
  obtain ⟨reply, rest, rfl, after⟩ := trace_call_iff.mp trace
  obtain ⟨rfl, same⟩ := trace_ofExcept_iff.mp after
  obtain rfl := mapError_eq_ok.mp same.symm
  rfl

/-- The bytes of a catalog are its digest's. -/
theorem loadCatalogBytes_data {py : Interpreter} {raw : Bytes} {what : Text} {catalog : Catalog}
    (loaded : loadCatalogBytes py raw what = .ok catalog) : catalog.data = raw := by
  obtain ⟨document, _, loaded⟩ := bind_eq_ok.mp loaded
  obtain ⟨_, _, loaded⟩ := bind_eq_ok.mp loaded
  obtain ⟨_, _, loaded⟩ := bind_eq_ok.mp loaded
  obtain ⟨_, _, loaded⟩ := bind_eq_ok.mp loaded
  obtain ⟨_, _, loaded⟩ := bind_eq_ok.mp loaded
  obtain ⟨_, _, loaded⟩ := bind_eq_ok.mp loaded
  obtain ⟨_, _, loaded⟩ := bind_eq_ok.mp loaded
  obtain ⟨members, _, loaded⟩ := bind_eq_ok.mp loaded
  obtain rfl := Except.ok.inj loaded
  rfl

/-- The pins of a loop are those of its members. -/
theorem pinMembers_members {openMember : Snapshot.MemberOpener} {members : List CatalogMember}
    {pins : List MemberPin}
    {inner : List (Call FileOp FileReply)}
    (trace : Trace (Snapshot.pinMembers openMember members) inner (.ok pins)) :
    pins.map MemberPin.member = members := by
  induction members generalizing inner pins with
  | nil =>
    obtain ⟨_, same⟩ := trace_done_iff.mp trace
    obtain rfl := Except.ok.inj same
    rfl
  | cons member rest ih =>
    rcases trace_bind_iff.mp trace with ⟨_, _, wrong⟩ | ⟨pin, one, others, rfl, pinned, after⟩
    · cases wrong
    rcases trace_bind_iff.mp after with ⟨_, _, wrong⟩ | ⟨later, two, last, rfl, pins', ended⟩
    · cases wrong
    obtain ⟨_, same⟩ := trace_done_iff.mp ended
    obtain rfl := Except.ok.inj same
    obtain ⟨opened, three, four, _, _, records⟩ := trace_resume_iff.mp pinned
    have own : pin.member = member := by
      unfold Snapshot.recordPin at records
      split at records
      · obtain rfl := Except.ok.inj (trace_done_iff.mp records).2
        rfl
      · obtain rfl := Except.ok.inj (trace_done_iff.mp records).2
        rfl
      · cases (trace_raise_iff.mp records).2
    rw [List.map_cons, own, ih pins']

/-- The catalog that a part of a handler has read. -/
theorem loadSolutionCatalog_reads {location : Snapshot.CatalogLocation} {solutionId : Text} {catalog : Catalog}
    {calls : List (Call ToolOp ToolReply)}
    (located : context.registry.catalogLocation context.interpreter solutionId queryLane = .ok location)
    (trace : Trace (readingFiles (loadSolutionCatalog context.interpreter context.sha256 location)) calls
      (.ok catalog)) : ReadsCatalog context calls solutionId catalog := by
  obtain ⟨asked, ended, made, same, read⟩ := trace_reading trace
  obtain rfl := mapError_eq_ok.mp same.symm
  have made := Snapshot.trace_onFiles made
  rcases trace_bind_iff.mp made with ⟨_, _, wrong⟩ | ⟨⟨found, directory⟩, inner, last, split, made, ended⟩
  · cases wrong
  obtain ⟨rfl, same⟩ := trace_done_iff.mp ended
  obtain rfl := Except.ok.inj same
  rcases trace_bind_iff.mp made with ⟨_, _, wrong⟩ | ⟨pointer, one, rest, rfl, points, made⟩
  · cases wrong
  rcases trace_ofExcept_bind_iff.mp made with ⟨_, _, _, wrong⟩ | ⟨directory', rooted, made⟩
  · cases wrong
  rcases trace_bind_iff.mp made with ⟨_, _, wrong⟩ | ⟨loaded, two, rest, rfl, loads, checked⟩
  · cases wrong
  split at checked
  · cases (trace_raise_iff.mp checked).2
  split at checked
  · cases (trace_raise_iff.mp checked).2
  next same =>
  obtain ⟨rfl, ended⟩ := trace_done_iff.mp checked
  obtain ⟨rfl, rfl⟩ := Prod.mk.inj (Except.ok.inj ended)
  rcases trace_bind_iff.mp points with ⟨_, _, wrong⟩ | ⟨pointed, three, rest, rfl, reads, parses⟩
  · cases wrong
  obtain ⟨rfl, parsed⟩ := trace_ofExcept_iff.mp parses
  obtain rfl := readBytes_ok reads
  rcases trace_bind_iff.mp loads with ⟨_, _, wrong⟩ | ⟨raw, four, rest, rfl, reads, parses⟩
  · cases wrong
  obtain ⟨rfl, parsed'⟩ := trace_ofExcept_iff.mp parses
  obtain ⟨reply, rest, rfl, given⟩ := trace_call_iff.mp reads
  obtain ⟨rfl, answers⟩ := trace_ofExcept_iff.mp given
  obtain rfl := mapError_eq_ok.mp answers.symm
  rw [Snapshot.Path.name_child] at parsed'
  have digest : context.sha256 raw = pointer.generationId := by
    rw [← loadCatalogBytes_data parsed'.symm]
    exact (not_not.mp same).symm
  refine ⟨location, pointed, pointer, directory, raw, located, ?_, parsed.symm, rooted, ?_, digest, parsed'.symm⟩
  · rw [read, split]
    simp
  · rw [read, split]
    simp

theorem ReadsCatalog.mono {calls more : List (Call ToolOp ToolReply)} {solutionId : Text} {catalog : Catalog}
    (reads : ReadsCatalog context calls solutionId catalog) (kept : calls ⊆ more) :
    ReadsCatalog context more solutionId catalog := by
  obtain ⟨location, pointed, pointer, directory, raw, located, first, parsed, rooted, second,
    digest, loaded⟩ := reads
  have inside : fileCallsOf calls ⊆ fileCallsOf more := by
    intro call member
    obtain ⟨made, here, asked⟩ := List.mem_filterMap.mp member
    exact List.mem_filterMap.mpr ⟨made, kept here, asked⟩
  exact ⟨location, pointed, pointer, directory, raw, located, inside first, parsed, rooted,
    inside second, digest, loaded⟩

/-- **The pins of a vector are the members of a catalog that was read.** -/
theorem loadVector_catalog {solutionId : Text} {vector : CatalogVector} {calls : List (Call ToolOp ToolReply)}
    (trace : Trace (loadVector context solutionId) calls (.ok vector)) :
    ∃ catalog, ReadsCatalog context calls solutionId catalog ∧
      ∀ pin ∈ vector.pins, pin.member ∈ catalog.members := by
  rcases trace_ofExcept_bind_iff.mp trace with ⟨_, _, _, wrong⟩ | ⟨location, located, trace⟩
  · cases wrong
  rcases trace_bind_iff.mp trace with ⟨_, _, wrong⟩ | ⟨catalog, one, other, rfl, first, second⟩
  · cases wrong
  have reads := loadSolutionCatalog_reads (mapError_eq_ok.mp located) first
  refine ⟨catalog, reads.mono (List.subset_append_left _ _), fun pin member => ?_⟩
  obtain ⟨asked, ended, made, same, _⟩ := trace_reading second
  obtain rfl := mapError_eq_ok.mp same.symm
  rcases trace_bind_iff.mp (Snapshot.trace_onFiles made) with
    ⟨_, _, wrong⟩ | ⟨pins, three, last, split, pinned, ended⟩
  · cases wrong
  obtain ⟨_, same⟩ := trace_done_iff.mp ended
  obtain rfl := Except.ok.inj same
  have listed : pin.member ∈ catalog.vector := pinMembers_members pinned ▸ List.mem_map_of_mem member
  exact (mem_sortedBy _ _).mp listed

end Published

/-! ### Certified answers -/

section Certified

variable {Time : Type} {base context : ToolContext Time} {payloads : List Bytes} {arguments : JsonObject}
  {calls : List (Call ToolOp ToolReply)} {document : JsonObject}

/-- A snapshot of one of the requested projects, from the generation that its pin names. -/
structure LoadedFor (base context : ToolContext Time) (payloads : List Bytes) (pins : Dict Text MemberPin)
    (projects : List Text) (snapshot : LoadedSnapshot) : Prop where
  loaded : ∃ projectId ∈ projects, ∃ pin, availablePin pins projectId = .ok pin ∧
    MadeOfGeneration base.interpreter base.sha256 none payloads queryLane snapshot ∧
    snapshot.generationId = pin.member.generationId ∧ (context.retaining = true → snapshot.projectId = projectId)

/-- What `load_pinned_project` returns, while others use the retention. -/
theorem loadPinnedProject_returns (shares : SharesSource base context) (free : CollisionFree base.sha256 payloads)
    (among : payloadsRead calls ⊆ payloads) (handed : Handed base payloads calls)
    {solutionId projectId generationId : Text} {snapshot : LoadedSnapshot}
    (trace : Trace (loadPinnedProject context solutionId projectId queryLane generationId) calls (.ok snapshot)) :
    MadeOfGeneration base.interpreter base.sha256 none payloads queryLane snapshot ∧
      snapshot.generationId = generationId ∧ (context.retaining = true → snapshot.projectId = projectId) := by
  rcases trace_ofExcept_bind_iff.mp trace with ⟨_, _, _, wrong⟩ | ⟨_, _, trace⟩
  · cases wrong
  rcases trace_rescue_iff.mp trace with ⟨_, loads, same⟩ | ⟨raised, _, _, _, _, handled⟩
  swap
  · cases (trace_raise_iff.mp handled).2
  obtain rfl := Except.ok.inj same
  rcases trace_ofExcept_bind_iff.mp loads with ⟨_, _, _, wrong⟩ | ⟨location, located, loads⟩
  · cases wrong
  obtain ⟨_, project, lane⟩ := Snapshot.SnapshotRegistry.location_ok (mapError_eq_ok.mp located)
  obtain ⟨made, generation, bound⟩ := sourceLoadPinned_returns shares free among handed loads
  exact ⟨lane ▸ made, generation, fun retaining => (bound retaining).2.trans project⟩

/-- **Every snapshot of a scope is from the generation that a pin names.** -/
theorem loadPinnedProjects_returns (shares : SharesSource base context) (free : CollisionFree base.sha256 payloads)
    (among : payloadsRead calls ⊆ payloads) (handed : Handed base payloads calls) {solutionId : Text}
    {pins : Dict Text MemberPin} {projects : List Text} {snapshots : List LoadedSnapshot}
    (trace : Trace (loadPinnedProjects context solutionId pins projects) calls (.ok snapshots)) :
    ∀ snapshot ∈ snapshots, LoadedFor base context payloads pins projects snapshot := by
  induction projects generalizing calls snapshots with
  | nil =>
    obtain ⟨_, same⟩ := trace_done_iff.mp trace
    obtain rfl := Except.ok.inj same
    exact fun _ wrong => nomatch wrong
  | cons projectId rest ih =>
    rcases trace_ofExcept_bind_iff.mp trace with ⟨_, _, _, wrong⟩ | ⟨pin, available, trace⟩
    · cases wrong
    rcases trace_bind_iff.mp trace with ⟨_, _, wrong⟩ | ⟨snapshot, one, others, rfl, loads, trace⟩
    · cases wrong
    rcases trace_bind_iff.mp trace with ⟨_, _, wrong⟩ | ⟨later, two, last, rfl, follow, ended⟩
    · cases wrong
    obtain ⟨rfl, same⟩ := trace_done_iff.mp ended
    obtain rfl := Except.ok.inj same
    rw [List.append_nil] at among handed
    rw [payloadsRead_append, List.append_subset] at among
    have first := loadPinnedProject_returns shares free among.1
      (fun key snapshot member => handed key snapshot (List.mem_append_left _ member)) loads
    refine List.forall_mem_cons.mpr ⟨⟨projectId, List.mem_cons_self, pin, available, first⟩, fun other member => ?_⟩
    obtain ⟨project, inside, found⟩ := (ih among.2
      (fun key snapshot member => handed key snapshot (List.mem_append_right _ member)) follow other member).loaded
    exact ⟨project, List.mem_cons_of_mem _ inside, found⟩

/-- An item is published in a generation that the catalog pins for a requested project. A source that retains
generations has checked whose they are. -/
def InCatalog {α : Type} (base context : ToolContext Time) (payloads : List Bytes) (request : QueryRequest)
    (catalog : Catalog) (role : Text) (parse : Json → Except GraphFault α) (projectId : Text) (item : α) : Prop :=
  ∃ member ∈ catalog.members, member.projectId ∈ request.projects ∧
    (context.retaining = true → projectId = member.projectId) ∧
    Published base payloads projectId member.generationId role parse item

/-- **A document whose nodes and edges are published in the generations of one catalog**, which its
call has read. -/
structure Certified (base context : ToolContext Time) (payloads : List Bytes) (arguments : JsonObject)
    (calls : List (Call ToolOp ToolReply)) (document : JsonObject) : Prop where
  catalog : ∃ request catalog, queryRequest arguments context = .ok request ∧
    ReadsCatalog context calls request.solutionId catalog ∧
    ListedDocument
      (fun node => InCatalog base context payloads request catalog "nodes" (nodeFromDocument base.interpreter)
        node.projectId node)
      (fun edge => ∃ projectId, InCatalog base context payloads request catalog "edges"
        (edgeFromDocument base.interpreter) projectId edge) document

/-- **An answer is certified**, whatever was found retained, as long as that was what its key names. -/
theorem graphQuery_certified [LinearOrder Time] (shares : SharesSource base context)
    (free : CollisionFree base.sha256 payloads) (among : payloadsRead calls ⊆ payloads)
    (handed : Handed base payloads calls) (trace : Trace (graphQuery arguments context) calls (.ok document)) :
    Certified base context payloads arguments calls document := by
  obtain ⟨snapshots, ⟨request, vector, fresh, pinning, loading, asked, rfl, _, pins, loads, scope,
    built, answered⟩⟩ :=
    graphQuery_serves trace
  obtain ⟨catalog, reads, members⟩ := loadVector_catalog pins
  obtain ⟨each, _⟩ := graphSetOf_ok built
  have inside : payloadsRead loading ⊆ payloads := by
    rw [payloadsRead_append, payloadsRead_append, List.append_subset, List.append_subset] at among
    exact among.2.2
  have own : ∀ snapshot ∈ snapshots, LoadedFor base context payloads (pinsOf vector) request.projects snapshot :=
    loadPinnedProjects_returns shares free inside
      (fun key snapshot member =>
        handed key snapshot (List.mem_append_right _ (List.mem_append_right _ member))) loads
  -- the items of a member of the scope are records of its snapshot, and that is published where its pin says
  have published {α : Type} {role : Text} {parse : Json →
    Except GraphFault α} {item : α} {snapshot : LoadedSnapshot}
      (member : snapshot ∈ snapshots) (recorded : RecordedIn parse role snapshot.shards item) :
      InCatalog base context payloads request catalog role parse snapshot.projectId item := by
    obtain ⟨projectId, named, pin, available, made, generation, bound⟩ := (own snapshot member).loaded
    obtain ⟨listed, pinned⟩ := availablePin_ok available
    refine ⟨pin.member, members pin listed, pinned ▸ named,
      fun retaining => (bound retaining).trans pinned.symm, ?_⟩
    rw [← generation]
    exact published_of_recorded made recorded
  rw [shares.interpreter] at each
  refine ⟨request, catalog, asked, reads.mono ?_,
    (answerQuery_lists answered).mono (fun node here => ?_) fun edge here => ?_⟩
  · exact List.subset_append_of_subset_right _ (List.subset_append_left _ _)
  · obtain ⟨graph, among, member⟩ := List.mem_flatMap.mp here
    obtain ⟨snapshot, loaded, made⟩ := forall₂_right each among
    obtain ⟨project, nodes, _⟩ := graphFromSnapshot_records made
    rw [graph.node_project node member, project]
    exact published loaded (nodes node member)
  · obtain ⟨graph, among, member⟩ := List.mem_flatMap.mp here
    obtain ⟨snapshot, loaded, made⟩ := forall₂_right each among
    obtain ⟨_, _, edges⟩ := graphFromSnapshot_records made
    exact ⟨snapshot.projectId, published loaded (edges edge member)⟩

/-- **Every answer is certified.** However tool calls over one source interleave, over whatever stores, a query that
is answered lists only nodes and edges that are published in the generations of one catalog, for the
projects that it asked for, and by digests throughout: also where a generation was retained by
another call. -/
theorem answers_certified [LinearOrder Time] (base : ToolContext Time) {ι : Type} [DecidableEq ι]
    {maxBytes maxEntries : ℤ} {fresh after : GenerationRetention} {calls : ι → ToolCall Time}
    {log : List (ι × Call ToolOp ToolReply)} (made : newRetention maxBytes maxEntries = .ok fresh)
    (serving : Serving base calls log fresh after) (free : CollisionFree base.sha256 (payloadsRead (allCalls log)))
    (i : ι) (query : (calls i).name = Tool.query.name) {document : JsonObject}
    (trace : Trace (calls i).program (own i log) (.ok document)) :
    Certified base (calls i).context (payloadsRead (allCalls log)) (calls i).arguments (own i log) document := by
  obtain ⟨_, handed⟩ := serving.handed made free
  unfold ToolCall.program at trace
  rw [query] at trace
  exact graphQuery_certified (serving.shares i) free (payloadsRead_mono (own_subset i log))
    (fun key snapshot member => handed key snapshot (own_subset i log member)) trace

/-- The second of two callers is answered by what the first has retained, and its answer is certified. -/
theorem answers_certified_twice : ∃ (log : List (Bool × Call ToolOp ToolReply)) (after : GenerationRetention)
    (document : JsonObject), Serving mainReader (fun _ => mainCall) log oneEntry after ∧ after.hits = 1 ∧
      countOf document "nodes" = 1 ∧ countOf document "edges" = 1 ∧
      Certified mainReader mainReader (payloadsRead (allCalls log)) mainArguments (own true log) document := by
  obtain ⟨log, after, document, serving, trace, hits, nodes, edges, within⟩ := served_twice
  exact ⟨log, after, document, serving, hits, nodes, edges, answers_certified mainReader
    (show newRetention 4096 1 = .ok oneEntry from rfl) serving (main_collisionFree.mono within) true rfl trace⟩

end Certified

end AxiomMcp.Tools
