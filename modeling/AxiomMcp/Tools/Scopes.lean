/-
**The scope of stored members.**

`GraphSet(graph_from_snapshot(snapshot) for snapshot in snapshots)` collects the records of the shards of each
member and parses them. It succeeds exactly if the records make graphs, of different projects and with different
nodes.

* `Lists`: the records of the shards with a role;
* `MemberAccepts`, `graphFromSnapshot_made`: the records that make the graph of a member;
* `graphSetOf_made_iff`: **the members make a scope exactly if their records do**.
-/

import AxiomMcp.Query.DocumentsLossless
import AxiomMcp.Query.Surrogates
import AxiomMcp.Tools.CoverageReports
import AxiomMcp.Tools.Stored

namespace AxiomMcp.Tools

open Lib
open Query
open Snapshot (LoadedSnapshot Shard)

/-! ### Records -/

/-- The records that a shard adds to those with a role. -/
def AddsRecords (role : Text) (shard : Shard) (records : List Json) : Prop :=
  if shard.role = role then iterated shard.document = .ok records else records = []

/-- The records of the shards with a role, in their order. -/
def Lists (shards : List Shard) (role : Text) (records : List Json) : Prop :=
  ∃ parts, List.Forall₂ (AddsRecords role) shards parts ∧ parts.flatten = records

/-- A shard with the role `coverage` holds a block. -/
def Covers (py : Interpreter) (shard : Shard) : Prop :=
  shard.role = "coverage" → ∃ block, dictOf py shard.document = .ok block

section Records

variable {py : Interpreter} {role : Text} {shard : Shard} {shards : List Shard}

theorem AddsRecords.unique {records records' : List Json} (one : AddsRecords role shard records)
    (other : AddsRecords role shard records') : records = records' := by
  unfold AddsRecords at one other
  split at one
  · next same =>
    rw [if_pos same] at other
    exact Except.ok.inj (one.symm.trans other)
  · next apart =>
    rw [if_neg apart] at other
    exact one.trans other.symm

theorem Lists.unique {records records' : List Json} (one : Lists shards role records)
    (other : Lists shards role records') : records = records' := by
  obtain ⟨parts, each, rfl⟩ := one
  obtain ⟨parts', each', rfl⟩ := other
  rw [List.right_unique_forall₂' (fun _ _ _ here there => here.unique there) each each']

theorem lists_nil : Lists [] role [] := ⟨[], .nil, rfl⟩

theorem Lists.cons {part records : List Json} (adds : AddsRecords role shard part)
    (lists : Lists shards role records) :
    Lists (shard :: shards) role (part ++ records) := by
  obtain ⟨parts, each, rfl⟩ := lists
  exact ⟨part :: parts, .cons adds each, rfl⟩

theorem Lists.uncons {records : List Json} (lists : Lists (shard :: shards) role records) :
    ∃ part later, AddsRecords role shard part ∧ Lists shards role later ∧ part ++ later = records := by
  obtain ⟨parts, each, rfl⟩ := lists
  cases each with
  | cons adds later => exact ⟨_, _, adds, ⟨_, later, rfl⟩, rfl⟩

theorem iterated_formed {value : Json} (formed : value.WellFormed) {records : List Json}
    (read : iterated value = .ok records) : ∀ record ∈ records, record.WellFormed :=
  (inherited_formed .ascii).of_iterated formed read

/-- The records of well-formed shards are well-formed. -/
theorem Lists.formed (formed : ∀ shard ∈ shards, shard.document.WellFormed) {records : List Json}
    (lists : Lists shards role records) : ∀ record ∈ records, record.WellFormed := by
  obtain ⟨parts, each, rfl⟩ := lists
  intro record member
  obtain ⟨part, inside, here⟩ := List.mem_flatten.mp member
  obtain ⟨shard, among, adds⟩ := forall₂_right each inside
  unfold AddsRecords at adds
  split at adds
  · exact iterated_formed (formed shard among) adds record here
  · rw [adds] at here
    cases here

/-! ### Collecting -/

/-- One round of the loop over the shards. -/
theorem collectShard_adds {documents next : ShardDocuments} (taken : collectShard py documents shard = .ok next) :
    ∃ nodes edges, AddsRecords "nodes" shard nodes ∧ AddsRecords "edges" shard edges ∧ Covers py shard ∧
      next.nodes = documents.nodes ++ nodes ∧ next.edges = documents.edges ++ edges := by
  unfold collectShard at taken
  unfold AddsRecords Covers
  split at taken
  · next nodes =>
    obtain ⟨more, read, rfl⟩ := map_eq_ok.mp taken
    refine ⟨more, [], by rw [if_pos nodes]; exact read, by rw [if_neg (nodes ▸ by decide)], ?_, rfl,
      (List.append_nil _).symm⟩
    exact fun wrong => absurd (nodes.symm.trans wrong) (by decide)
  · next other =>
    split at taken
    · next edges =>
      obtain ⟨more, read, rfl⟩ := map_eq_ok.mp taken
      refine ⟨[], more, by rw [if_neg other], by rw [if_pos edges]; exact read, ?_, (List.append_nil _).symm, rfl⟩
      exact fun wrong => absurd (edges.symm.trans wrong) (by decide)
    · next another =>
      have none : ∃ nodes edges : List Json, nodes = [] ∧ edges = [] := ⟨[], [], rfl, rfl⟩
      refine ⟨[], [], by rw [if_neg other], by rw [if_neg another], ?_⟩
      split at taken
      · obtain ⟨block, read, rfl⟩ := map_eq_ok.mp taken
        exact ⟨fun _ => ⟨block, read⟩, (List.append_nil _).symm, (List.append_nil _).symm⟩
      · next last =>
        obtain rfl := Except.ok.inj taken
        exact ⟨fun wrong => (last wrong).elim, (List.append_nil _).symm, (List.append_nil _).symm⟩

theorem collectShard_passes (documents : ShardDocuments) {nodes edges : List Json}
    (adds : AddsRecords "nodes" shard nodes)
    (adds' : AddsRecords "edges" shard edges) (covers : Covers py shard) :
    ∃ next, collectShard py documents shard = .ok next := by
  unfold AddsRecords at adds adds'
  unfold collectShard
  split
  · next role =>
    rw [if_pos role] at adds
    exact ⟨_, map_eq_ok.mpr ⟨_, adds, rfl⟩⟩
  · split
    · next role =>
      rw [if_pos role] at adds'
      exact ⟨_, map_eq_ok.mpr ⟨_, adds', rfl⟩⟩
    · split
      · next role =>
        obtain ⟨block, read⟩ := covers role
        exact ⟨_, map_eq_ok.mpr ⟨_, read, rfl⟩⟩
      · exact ⟨_, rfl⟩

theorem collect_lists {documents collected : ShardDocuments}
    (done : shards.foldlM (collectShard py) documents = .ok collected) :
    ∃ nodes edges, Lists shards "nodes" nodes ∧ Lists shards "edges" edges ∧ (∀ shard ∈ shards, Covers py shard) ∧
      collected.nodes = documents.nodes ++ nodes ∧ collected.edges = documents.edges ++ edges := by
  induction shards generalizing documents with
  | nil =>
    obtain rfl := Except.ok.inj done
    exact ⟨[], [], lists_nil, lists_nil, List.forall_mem_nil _, (List.append_nil _).symm, (List.append_nil _).symm⟩
  | cons shard rest ih =>
    rw [List.foldlM_cons] at done
    obtain ⟨next, taken, done⟩ := bind_eq_ok.mp done
    obtain ⟨nodes, edges, adds, adds', covers, first, first'⟩ := collectShard_adds taken
    obtain ⟨later, later', lists, lists', each, last, last'⟩ := ih done
    refine ⟨nodes ++ later, edges ++ later', Lists.cons adds lists, Lists.cons adds' lists',
      List.forall_mem_cons.mpr ⟨covers, each⟩,
      ?_, ?_⟩
    · rw [last, first, List.append_assoc]
    · rw [last', first', List.append_assoc]

theorem collect_passes {nodes edges : List Json} (lists : Lists shards "nodes" nodes)
    (lists' : Lists shards "edges" edges)
    (covers : ∀ shard ∈ shards, Covers py shard) (documents : ShardDocuments) :
    ∃ collected, shards.foldlM (collectShard py) documents = .ok collected := by
  induction shards generalizing documents nodes edges with
  | nil => exact ⟨documents, rfl⟩
  | cons shard rest ih =>
    rw [List.forall_mem_cons] at covers
    obtain ⟨part, later, adds, lists, _⟩ := lists.uncons
    obtain ⟨part', later', adds', lists', _⟩ := lists'.uncons
    obtain ⟨next, taken⟩ := collectShard_passes documents adds adds' covers.1
    obtain ⟨collected, done⟩ := ih lists lists' covers.2 next
    exact ⟨collected, by rw [List.foldlM_cons]; exact bind_eq_ok.mpr ⟨next, taken, done⟩⟩

end Records

/-! ### Graphs and scopes -/

section Scopes

variable (py : Interpreter)

/-- The shards of a member hold the records of a graph, and these are its nodes. -/
structure MemberAccepts (member : StoredMember) (nodes : List Json) : Prop where
  lists : Lists member.shards "nodes" nodes
  covers : ∀ shard ∈ member.shards, Covers py shard
  accepts : ∃ edges, Lists member.shards "edges" edges ∧
    GraphAccepts py member.projectId member.generationId nodes edges

/-- The members hold the records of a scope: of graphs of different projects, whose nodes have different ids. -/
structure ScopeAccepts (members : List StoredMember) : Prop where
  projects : (members.map StoredMember.projectId).Nodup
  graphs : ∃ records, List.Forall₂ (MemberAccepts py) members records ∧
    (records.flatten.map (Json.text? · "id")).Nodup

variable {py}

/-- The graph of a member has the nodes of its records. -/
theorem graphFromSnapshot_made {snapshot : LoadedSnapshot}
    (formed : ∀ shard ∈ snapshot.shards, shard.document.WellFormed) {graph : Graph}
    (built : graphFromSnapshot py snapshot = .ok graph) :
    ∃ nodes, MemberAccepts py (viewOf snapshot) nodes ∧
      nodes.map (Json.text? · "id") = graph.nodes.map (some ∘ Node.id) := by
  obtain ⟨documents, collected, built⟩ := bind_eq_ok.mp built
  obtain ⟨nodes, edges, lists, lists', covers, same, same'⟩ := collect_lists collected
  rw [List.nil_append] at same same'
  obtain ⟨_, _, parsed, _⟩ := graph_parsed built
  rw [same] at built parsed
  rw [same'] at built
  have sound := lists.formed formed
  refine ⟨nodes, ⟨lists, covers, edges, lists', ?_⟩, (node_ids_parsed sound parsed).1⟩
  exact (graph_accepts_iff sound).mp ⟨graph, built⟩

/-- The records of a graph make it. -/
theorem graphFromSnapshot_passes {snapshot : LoadedSnapshot}
    (formed : ∀ shard ∈ snapshot.shards, shard.document.WellFormed) {nodes : List Json}
    (accepts : MemberAccepts py (viewOf snapshot) nodes) :
    ∃ graph, graphFromSnapshot py snapshot = .ok graph ∧
      nodes.map (Json.text? · "id") = graph.nodes.map (some ∘ Node.id) := by
  obtain ⟨lists, covers, edges, lists', graphs⟩ := accepts
  obtain ⟨collected, done⟩ := collect_passes lists lists' covers ⟨[], [], none⟩
  obtain ⟨nodes', edges', listed, listed', _, same, same'⟩ := collect_lists done
  obtain rfl := lists.unique listed
  obtain rfl := lists'.unique listed'
  rw [List.nil_append] at same same'
  have sound : ∀ record ∈ nodes, record.WellFormed := lists.formed formed
  obtain ⟨graph, built⟩ : Accepts (graphFromDocuments py snapshot.projectId snapshot.generationId nodes edges
      collected.coverage) := (graph_accepts_iff sound).mpr graphs
  refine ⟨graph, bind_eq_ok.mpr ⟨collected, done, ?_⟩, (node_ids_parsed sound (graph_parsed built).2.2.1).1⟩
  rw [same, same']
  exact built

/-- A graph of a new project, with new nodes, is admitted. -/
theorem admitGraph_passes {members : List Graph} {graph : Graph}
    (project : graph.projectId ∉ members.map Graph.projectId)
    (apart : ∀ node ∈ graph.nodes, node.id ∉ (members.flatMap Graph.nodes).map Node.id) :
    admitGraph members graph = .ok (members ++ [graph]) := by
  unfold admitGraph
  split
  · next other found =>
    have same : other.projectId = graph.projectId := by simpa using List.find?_some found
    exact absurd (List.mem_map.mpr ⟨other, List.mem_of_find?_eq_some found, same⟩) project
  · split
    · next node found =>
      have again : node.id ∈ (members.flatMap Graph.nodes).map Node.id := by simpa using List.find?_some found
      exact absurd again (apart node (List.mem_of_find?_eq_some found))
    · rfl

/-- Graphs that fit together are admitted one by one. -/
theorem admitSnapshots_passes {snapshots : List LoadedSnapshot} {graphs : List Graph}
    (each : List.Forall₂ (fun snapshot graph => graphFromSnapshot py snapshot = .ok graph) snapshots graphs) :
    ∀ {first : List Graph}, Admissible (first ++ graphs) →
      snapshots.foldlM (admitSnapshot py) first = .ok (first ++ graphs) := by
  induction each with
  | nil => exact fun _ => congrArg Except.ok (List.append_nil _).symm
  | @cons snapshot graph snapshots graphs built _ ih =>
    intro first fits
    obtain ⟨projects, ids⟩ := fits
    rw [List.map_append, List.map_cons, List.nodup_append] at projects
    rw [List.flatMap_append, List.flatMap_cons, List.map_append, List.map_append, List.nodup_append] at ids
    have fresh : graph.projectId ∉ first.map Graph.projectId := fun member =>
      projects.2.2 _ member _ List.mem_cons_self rfl
    have apart : ∀ node ∈ graph.nodes, node.id ∉ (first.flatMap Graph.nodes).map Node.id := fun node member old =>
      ids.2.2 _ old _ (List.mem_append_left _ (List.mem_map_of_mem member)) rfl
    have admitted : admitSnapshot py first snapshot = .ok (first ++ [graph]) := by
      unfold admitSnapshot
      rw [built]
      exact mapError_eq_ok.mpr (admitGraph_passes fresh apart)
    have later : Admissible ((first ++ [graph]) ++ graphs) := by
      rw [List.append_assoc]
      refine ⟨?_, ?_⟩
      · rw [List.singleton_append, List.map_append, List.map_cons, List.nodup_append]
        exact projects
      · rw [List.singleton_append, List.flatMap_append, List.flatMap_cons, List.map_append, List.map_append,
          List.nodup_append]
        exact ids
    rw [List.foldlM_cons]
    refine bind_eq_ok.mpr ⟨_, admitted, (ih later).trans ?_⟩
    rw [List.append_assoc, List.singleton_append]

/-- The ids of the nodes of some graphs, and of the records they were made of. -/
theorem ids_of_records {graphs : List Graph} {records : List (List Json)}
    (same : List.Forall₂ (fun nodes graph =>
      nodes.map (Json.text? · "id") = (Graph.nodes graph).map (some ∘ Node.id))
      records graphs) :
    records.flatten.map (Json.text? · "id") = (graphs.flatMap Graph.nodes).map (some ∘ Node.id) := by
  induction same with
  | nil => rfl
  | cons here _ ih => rw [List.flatten_cons, List.map_append, here, ih, List.flatMap_cons, List.map_append]

/-- Graphs that were built are of accepted records, with the same ids. -/
theorem graphs_made {snapshots : List LoadedSnapshot} {graphs : List Graph}
    (formed : ∀ snapshot ∈ snapshots, ∀ shard ∈ snapshot.shards, shard.document.WellFormed)
    (each : List.Forall₂ (fun snapshot graph => graphFromSnapshot py snapshot = .ok graph) snapshots graphs) :
    ∃ records, List.Forall₂ (MemberAccepts py) (snapshots.map viewOf) records ∧
      List.Forall₂ (fun nodes graph => nodes.map (Json.text? · "id") = (Graph.nodes graph).map (some ∘ Node.id))
        records graphs := by
  induction each with
  | nil => exact ⟨[], .nil, .nil⟩
  | cons here _ ih =>
    rw [List.forall_mem_cons] at formed
    obtain ⟨nodes, accepts, same⟩ := graphFromSnapshot_made formed.1 here
    obtain ⟨records, accepted, others⟩ := ih formed.2
    exact ⟨nodes :: records, .cons accepts accepted, .cons same others⟩

/-- Accepted records make graphs, with the same ids. -/
theorem graphs_pass {snapshots : List LoadedSnapshot} {records : List (List Json)}
    (formed : ∀ snapshot ∈ snapshots, ∀ shard ∈ snapshot.shards, shard.document.WellFormed)
    (accepted : List.Forall₂ (MemberAccepts py) (snapshots.map viewOf) records) :
    ∃ graphs, List.Forall₂ (fun snapshot graph => graphFromSnapshot py snapshot = .ok graph) snapshots graphs ∧
      List.Forall₂ (fun nodes graph => nodes.map (Json.text? · "id") = (Graph.nodes graph).map (some ∘ Node.id))
        records graphs := by
  induction snapshots generalizing records with
  | nil =>
    cases accepted
    exact ⟨[], .nil, .nil⟩
  | cons snapshot rest ih =>
    rw [List.forall_mem_cons] at formed
    cases accepted with
    | cons here later =>
      obtain ⟨graph, built, same⟩ := graphFromSnapshot_passes formed.1 here
      obtain ⟨graphs, each, others⟩ := ih formed.2 later
      exact ⟨graph :: graphs, .cons built each, .cons same others⟩

/-- **The snapshots make a scope exactly if the records of their shards do.** -/
theorem graphSetOf_made_iff {snapshots : List LoadedSnapshot}
    (formed : ∀ snapshot ∈ snapshots, ∀ shard ∈ snapshot.shards, shard.document.WellFormed) :
    (∃ scope, graphSetOf py snapshots = .ok scope) ↔ ScopeAccepts py (snapshots.map viewOf) := by
  have projects : (snapshots.map viewOf).map StoredMember.projectId = snapshots.map LoadedSnapshot.projectId := by
    rw [List.map_map]
    rfl
  have named {graphs : List Graph}
      (each : List.Forall₂ (fun snapshot graph => graphFromSnapshot py snapshot = .ok graph) snapshots graphs) :
      snapshots.map LoadedSnapshot.projectId = graphs.map Graph.projectId :=
    map_eq_of_forall₂ (each.imp fun _ _ built => (graphFromSnapshot_ok built).1.symm)
  constructor
  · rintro ⟨scope, built⟩
    obtain ⟨each, _⟩ := graphSetOf_ok built
    obtain ⟨records, accepted, same⟩ := graphs_made formed each
    refine ⟨by rw [projects, named each]; exact scope.projects_nodup, records, accepted, ?_⟩
    rw [ids_of_records same, nodup_some]
    exact scope.node_ids_nodup
  · rintro ⟨distinct, records, accepted, ids⟩
    obtain ⟨graphs, each, same⟩ := graphs_pass formed accepted
    have fits : Admissible ([] ++ graphs) := by
      refine ⟨?_, ?_⟩
      · rw [List.nil_append, ← named each, ← projects]
        exact distinct
      · rw [List.nil_append, ← nodup_some, ← ids_of_records same]
        exact ids
    have admission := admitSnapshots_passes each fits
    unfold graphSetOf
    split
    · next failed => cases failed.symm.trans admission
    · exact ⟨_, rfl⟩

/-! ### The scope of some members -/

variable (py) in
/-- The scope that the shards of some members make. -/
def ScopeOf (members : List StoredMember) (scope : GraphSet) : Prop :=
  ∃ snapshots, snapshots.map viewOf = members ∧ graphSetOf py snapshots = .ok scope

variable (py) in
/-- The id of the generations of some members: the digest of the pairs of project and generation, in
the order of the projects. -/
def generationIdOf (sha256 : Bytes → Text) (members : List StoredMember) : Text :=
  sha256 ((encoded py (.obj [("schema_version", .int envelopeSchemaVersion),
    ("generations", .arr ((sortedBy Prod.fst
      (members.map fun member => (member.projectId, member.generationId))).map
      fun pair => .arr [.str pair.1, .str pair.2]))])).getD [])

variable (py) in
/-- A member whose coverage shard holds a block with a status of the contract. -/
def CoverageUsable (member : StoredMember) : Prop :=
  (coverageBlock py member.shards).getD [] ≠ [] ∧ shardStatus py member.shards ∈ coverageSeverity

variable {members : List StoredMember} {scope : GraphSet}

/-- The graphs of a scope, one for each member. -/
theorem ScopeOf.graphs (made : ScopeOf py members scope) : ∃ snapshots, snapshots.map viewOf = members ∧
    List.Forall₂ (fun snapshot graph => graphFromSnapshot py snapshot = .ok graph) snapshots scope.members := by
  obtain ⟨snapshots, views, built⟩ := made
  exact ⟨snapshots, views, (graphSetOf_ok built).1⟩

theorem graphFromSnapshot_view {a b : LoadedSnapshot} (same : viewOf a = viewOf b) :
    graphFromSnapshot py a = graphFromSnapshot py b := by
  obtain ⟨project, generation, shards⟩ := StoredMember.mk.inj same
  unfold graphFromSnapshot
  rw [project, generation, shards]

/-- The members make one scope. -/
theorem ScopeOf.unique {other : GraphSet} (one : ScopeOf py members scope) (two : ScopeOf py members other) :
    scope = other := by
  obtain ⟨snapshots, views, built⟩ := one
  obtain ⟨snapshots', views', built'⟩ := two
  obtain ⟨each, missing⟩ := graphSetOf_ok built
  obtain ⟨each', missing'⟩ := graphSetOf_ok built'
  have graphs : scope.members = other.members := by
    rw [← views'] at views
    clear built built' missing missing' views'
    generalize scope.members = graphs at each
    generalize other.members = graphs' at each'
    induction each generalizing snapshots' graphs' with
    | nil =>
      obtain rfl := List.map_eq_nil_iff.mp views.symm
      cases each'
      rfl
    | cons here _ ih =>
      cases each' with
      | nil => cases views
      | cons there later =>
        obtain ⟨first, rest⟩ := List.cons.inj views
        rw [graphFromSnapshot_view first, there] at here
        rw [Except.ok.inj here, ih _ rest _ later]
  cases scope
  cases other
  congr 1
  exact missing.trans missing'.symm

/-- **The id of a scope is that of its members.** -/
theorem ScopeOf.generationId (made : ScopeOf py members scope) (sha256 : Bytes → Text) :
    catalogGenerationId py sha256 scope = generationIdOf py sha256 members := by
  obtain ⟨snapshots, rfl, each⟩ := made.graphs
  have pins : scope.pins = (snapshots.map viewOf).map fun member => (member.projectId, member.generationId) := by
    rw [GraphSet.pins, List.map_map]
    refine (map_eq_of_forall₂ (each.imp fun snapshot graph made => ?_)).symm
    obtain ⟨documents, _, made⟩ := bind_eq_ok.mp made
    obtain ⟨project, generation, _⟩ := graph_parsed made
    exact Prod.ext project.symm generation.symm
  unfold catalogGenerationId generationsPayload generationIdOf
  rw [generations_eq, pins]

/-- The coverage of a scope is usable exactly if that of its members is. -/
theorem ScopeOf.usable (made : ScopeOf py members scope) :
    (∀ graph ∈ scope.members, usableStatus py graph = true) ↔ ∀ member ∈ members, CoverageUsable py member := by
  obtain ⟨snapshots, rfl, each⟩ := made.graphs
  have one {snapshot : LoadedSnapshot} {graph : Graph} (built : graphFromSnapshot py snapshot = .ok graph) :
      usableStatus py graph = true ↔ CoverageUsable py (viewOf snapshot) := by
    unfold usableStatus CoverageUsable
    rw [graphFromSnapshot_block built, (graphFromSnapshot_ok built).2, Bool.and_eq_true, decide_eq_true_iff,
      decide_eq_true_iff]
    rfl
  constructor
  · intro usable
    refine List.forall_mem_map.mpr fun snapshot member => ?_
    obtain ⟨graph, inside, built⟩ := forall₂_left each member
    exact (one built).mp (usable graph inside)
  · intro usable graph member
    obtain ⟨snapshot, inside, built⟩ := forall₂_right each member
    exact (one built).mpr (usable _ (List.mem_map_of_mem inside))

/-- A scope of shards without lone surrogates has none in its documents. -/
theorem ScopeOf.printable (made : ScopeOf py members scope) (hides : HidesSurrogates py)
    (formed : ∀ member ∈ members, ∀ shard ∈ member.shards, shard.document.WellFormed)
    (clean : ∀ member ∈ members, ∀ shard ∈ member.shards, Json.Clean py shard.document) :
    ∀ graph ∈ scope.members, graph.Printable py := by
  obtain ⟨snapshots, rfl, each⟩ := made.graphs
  intro graph member
  obtain ⟨snapshot, inside, built⟩ := forall₂_right each member
  have view : viewOf snapshot ∈ snapshots.map viewOf := List.mem_map_of_mem inside
  exact graphFromSnapshot_clean hides (formed _ view) (clean _ view) built

end Scopes

end AxiomMcp.Tools
