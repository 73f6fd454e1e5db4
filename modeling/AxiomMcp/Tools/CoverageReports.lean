/-
**The coverage that is reported, and the coverage that a manifest pins.**

A generation states its coverage twice: its manifest pins one status, which a load checks, and its shard with
the role `coverage` states another, which the answers are built of. No code compares the two.

* `graphQuery_serves`, `graphStatus_serves`: an answer is made of the snapshots that the call has loaded;
* `PinsCoverage`: what the manifest of a snapshot says;
* `coverage_reported_iff`: an answer is not more complete than the manifests pin **exactly if the shards are
  not**: for `graph_status` each its own manifest, for `graph_query` the most limiting of them every manifest.
-/

import AxiomMcp.Query.Assembly
import AxiomMcp.Snapshot.Loads
import AxiomMcp.Tools.Alone
import AxiomMcp.Tools.Cancel
import AxiomMcp.Tools.Query
import AxiomMcp.Tools.Status

namespace AxiomMcp.Tools

open Lib Program
open Query
open Snapshot (CatalogVector LoadedSnapshot Manifest Pinned ReadSession bytesOf currentPointerName liveLane
  samplePointer sampleRoot zeros)

/-! ### What a call has loaded -/

section Serves

variable {Time : Type} [LinearOrder Time] (context : ToolContext Time) (arguments : JsonObject)

/-- A `graph_query` that answers with a document, made of the snapshots that it has loaded. -/
structure QueryServes (calls : List (Call ToolOp ToolReply)) (snapshots : List LoadedSnapshot)
    (document : JsonObject) : Prop where
  loaded : ∃ (request : QueryRequest) (vector : CatalogVector)
    (fresh pinning loading : List (Call ToolOp ToolReply)),
    queryRequest arguments context = .ok request ∧ calls = fresh ++ (pinning ++ loading) ∧
      Trace (ensureFresh context request) fresh (.ok ()) ∧
      Trace (loadVector context request.solutionId) pinning (.ok vector) ∧
      Trace (loadPinnedProjects context request.solutionId (pinsOf vector) request.projects) loading
        (.ok snapshots) ∧
      ∃ scope, graphSetOf context.interpreter snapshots = .ok scope ∧
        answerQuery arguments context request scope = .ok document

/-- A `graph_status` that answers with a document, made of the snapshots that it has loaded. -/
structure StatusServes (calls : List (Call ToolOp ToolReply)) (snapshots : List LoadedSnapshot)
    (document : JsonObject) : Prop where
  loaded : ∃ (request : StatusRequest) (loaded : List (LoadedSnapshot × Graph))
    (loading asking : List (Call ToolOp ToolReply)) (daemon : Option JsonObject),
    statusRequest arguments context = .ok request ∧ calls = loading ++ asking ∧
      snapshots = loaded.map Prod.fst ∧
      Trace (loadCurrent context request.solutionId request.lane request.projects) loading (.ok loaded) ∧
      Trace (askDaemon context request) asking (.ok daemon) ∧
      ∃ scope coverage warnings, statusScope context loaded = .ok (scope, coverage, warnings) ∧
        document = statusDocument context request loaded scope coverage warnings daemon

variable {context arguments} {calls : List (Call ToolOp ToolReply)} {document : JsonObject}

/-- Every answer of `graph_query` is made of some snapshots. -/
theorem graphQuery_serves (trace : Trace (graphQuery arguments context) calls (.ok document)) :
    ∃ snapshots, QueryServes context arguments calls snapshots document := by
  rcases trace_ofExcept_bind_iff.mp trace with ⟨_, _, _, wrong⟩ | ⟨request, asked, trace⟩
  · cases wrong
  rcases trace_bind_iff.mp trace with ⟨_, _, wrong⟩ | ⟨_, fresh, rest, rfl, checked, trace⟩
  · cases wrong
  rcases trace_bind_iff.mp trace with ⟨_, _, wrong⟩ | ⟨scope, loads, silent, rfl, scoping, trace⟩
  · cases wrong
  obtain ⟨rfl, ended⟩ := trace_ofExcept_iff.mp trace
  rcases trace_bind_iff.mp scoping with ⟨_, _, wrong⟩ | ⟨vector, pinning, later, rfl, pins, scoping⟩
  · cases wrong
  rcases trace_bind_iff.mp scoping with ⟨_, _, wrong⟩ | ⟨snapshots, loading, silent, rfl, loads, scoping⟩
  · cases wrong
  obtain ⟨rfl, built⟩ := trace_ofExcept_iff.mp scoping
  exact ⟨snapshots, request, vector, fresh, pinning, loading, asked, by simp only [List.append_nil], checked,
    pins, loads, scope, built.symm, ended.symm⟩

omit [LinearOrder Time] in
/-- Every answer of `graph_status` is made of some snapshots. -/
theorem graphStatus_serves (trace : Trace (graphStatus arguments context) calls (.ok document)) :
    ∃ snapshots, StatusServes context arguments calls snapshots document := by
  rcases trace_ofExcept_bind_iff.mp trace with ⟨_, _, _, wrong⟩ | ⟨request, asked, trace⟩
  · cases wrong
  rcases trace_bind_iff.mp trace with ⟨_, _, wrong⟩ | ⟨loaded, loading, rest, rfl, loads, trace⟩
  · cases wrong
  rcases trace_ofExcept_bind_iff.mp trace with ⟨_, _, _, wrong⟩ | ⟨⟨scope, coverage, warnings⟩, scoped', trace⟩
  · cases wrong
  rcases trace_bind_iff.mp trace with ⟨_, _, wrong⟩ | ⟨daemon, asking, silent, rfl, asks, trace⟩
  · cases wrong
  obtain ⟨rfl, ended⟩ := trace_done_iff.mp trace
  exact ⟨_, request, loaded, loading, asking, daemon, asked, by rw [List.append_nil], rfl, loads, asks, scope,
    coverage, warnings, scoped', Except.ok.inj ended⟩

end Serves

/-! ### What a manifest pins -/

/-- The manifest of a generation that a session accepted pins this status. -/
def PinsCoverage (snapshot : LoadedSnapshot) (status : Text) : Prop :=
  ∃ (session : ReadSession) (rounds : ℕ) (calls : List (Call Snapshot.ReadOp Snapshot.ReadReply))
    (manifest : Manifest), Trace (session.load rounds) calls (.ok snapshot) ∧
      Pinned session calls snapshot manifest ∧ manifest.coverageStatus session.interpreter = status

/-- A snapshot that a session made has a manifest, and repeats its status. -/
theorem pinsCoverage_iff {session : ReadSession} {rounds : ℕ}
    {calls : List (Call Snapshot.ReadOp Snapshot.ReadReply)} {snapshot : LoadedSnapshot}
    (trace : Trace (session.load rounds) calls (.ok snapshot)) {status : Text} :
    PinsCoverage snapshot status ↔ snapshot.coverageStatus = status := by
  constructor
  · rintro ⟨other, _, _, manifest, _, pinned, rfl⟩
    exact pinned.coverage
  · rintro rfl
    obtain ⟨manifest, pinned⟩ := Snapshot.load_pinned trace
    exact ⟨session, rounds, calls, manifest, trace, pinned, pinned.coverage.symm⟩

/-- The aggregate of a query is as limiting as every manifest of its snapshots. -/
def QueryCoverage (snapshots : List LoadedSnapshot) (document : JsonObject) : Prop :=
  ∃ reported, Json.get? document "coverage" = some (.str reported) ∧
    ∀ snapshot ∈ snapshots, ∀ status, PinsCoverage snapshot status → severity status ≤ severity reported

/-- What a status reports of a project is as limiting as its manifest, and not more than the aggregate. -/
def ProjectCoverage (reported : Text) (snapshot : LoadedSnapshot) (entry : Json) : Prop :=
  ∃ each, entry.text? "project_id" = some snapshot.projectId ∧ entry.text? "coverage" = some each ∧
    severity each ≤ severity reported ∧
    ∀ status, PinsCoverage snapshot status → severity status ≤ severity each

/-- The same of every project of a status. -/
def StatusCoverage (snapshots : List LoadedSnapshot) (document : JsonObject) : Prop :=
  ∃ reported entries, Json.get? document "coverage" = some (.str reported) ∧
    Json.get? document "projects" = some (.arr entries) ∧
    List.Forall₂ (ProjectCoverage reported) snapshots entries

/-- The most limiting shard is as limiting as every manifest. -/
def ShardsCover (py : Interpreter) (snapshots : List LoadedSnapshot) : Prop :=
  ∀ snapshot ∈ snapshots, ∀ status, PinsCoverage snapshot status →
    ∃ other ∈ snapshots, severity status ≤ severity (shardStatus py other.shards)

/-- Each shard is as limiting as its own manifest. -/
def EachShardCovers (py : Interpreter) (snapshots : List LoadedSnapshot) : Prop :=
  ∀ snapshot ∈ snapshots, ∀ status, PinsCoverage snapshot status →
    severity status ≤ severity (shardStatus py snapshot.shards)

/-! ### The scope of an answer -/

section Scope

variable {py : Interpreter}

theorem admitSnapshots_ok {snapshots : List LoadedSnapshot} {first members : List Graph}
    (admitted : snapshots.foldlM (admitSnapshot py) first = .ok members) :
    ∃ graphs, members = first ++ graphs ∧
      List.Forall₂ (fun snapshot graph => graphFromSnapshot py snapshot = .ok graph) snapshots graphs := by
  induction snapshots generalizing first with
  | nil =>
    obtain rfl := Except.ok.inj admitted
    exact ⟨[], (List.append_nil _).symm, .nil⟩
  | cons snapshot rest ih =>
    rw [List.foldlM_cons] at admitted
    obtain ⟨next, one, later⟩ := bind_eq_ok.mp admitted
    obtain ⟨graph, built, one⟩ := bind_eq_ok.mp one
    obtain ⟨rfl, _⟩ := admitGraph_ok (mapError_eq_ok.mp one)
    obtain ⟨graphs, rfl, each⟩ := ih later
    exact ⟨graph :: graphs, List.append_assoc _ _ _, .cons (mapError_eq_ok.mp built) each⟩

theorem graphSetOf_ok {snapshots : List LoadedSnapshot} {scope : GraphSet}
    (built : graphSetOf py snapshots = .ok scope) :
    List.Forall₂ (fun snapshot graph => graphFromSnapshot py snapshot = .ok graph) snapshots scope.members ∧
      scope.missingProjects = [] := by
  unfold graphSetOf at built
  split at built
  · cases built
  · next members admitted =>
    obtain rfl := Except.ok.inj built
    obtain ⟨graphs, rfl, each⟩ := admitSnapshots_ok admitted
    exact ⟨each, rfl⟩

theorem admitAll_ok {graphs first members : List Graph}
    (admitted : admitAll first (graphs.map .ok) = .ok members) : members = first ++ graphs := by
  induction graphs generalizing first with
  | nil =>
    obtain rfl := Except.ok.inj admitted
    exact (List.append_nil _).symm
  | cons graph rest ih =>
    rw [List.map_cons] at admitted
    unfold admitAll at admitted
    split at admitted
    · cases admitted
    · next one =>
      obtain ⟨rfl, _⟩ := admitGraph_ok one
      rw [ih admitted]
      exact List.append_assoc _ _ _

/-- A scope of graphs has these graphs, and nothing is missing. -/
theorem scopeOfGraphs_ok {graphs : List Graph} {scope : GraphSet} (built : scopeOfGraphs graphs = .ok scope) :
    scope.members = graphs ∧ scope.missingProjects = [] := by
  have made : GraphSet.init (graphs.map .ok) [] = .ok scope := mapError_eq_ok.mp built
  have parts := init_parts (graphs.map .ok) []
  rw [made] at parts
  obtain ⟨members, admitted, checked⟩ := bind_eq_ok.mp parts.symm
  obtain ⟨accepted, named, checked⟩ := bind_eq_ok.mp checked
  obtain rfl := Except.ok.inj named
  have all : members = graphs := admitAll_ok admitted
  obtain ⟨listed, none⟩ := Prod.mk.inj (Except.ok.inj checked)
  exact ⟨listed.symm.trans all, none.symm⟩

/-- The coverage that is reported of a project is that of its graph. -/
theorem projectCoverage_eq {graphs : List Graph} (distinct : (graphs.map Graph.projectId).Nodup) {graph : Graph}
    (member : graph ∈ graphs) : projectCoverage py graphs graph.projectId = graph.coverageStatus py := by
  unfold projectCoverage
  rw [(Dict.get?_ofList distinct).mpr ⟨member, rfl⟩]
  rfl

end Scope

/-! ### The answers -/

section Answers

variable {Time : Type} [LinearOrder Time] {context : ToolContext Time} {arguments : JsonObject}
  {calls : List (Call ToolOp ToolReply)} {document : JsonObject} {snapshots : List LoadedSnapshot}

/-- The coverage of an answer of `graph_query` is the aggregate of its scope. -/
theorem answerQuery_coverage {request : QueryRequest} {scope : GraphSet}
    (answered : answerQuery arguments context request scope = .ok document) :
    ∃ reported warnings, aggregateCoverage context.interpreter scope = .ok (reported, warnings) ∧
      Json.get? document "coverage" = some (.str reported) := by
  obtain ⟨_, _, answered⟩ := bind_eq_ok.mp answered
  obtain ⟨budgets, _, answered⟩ := bind_eq_ok.mp answered
  obtain ⟨_, _, answered⟩ := bind_eq_ok.mp answered
  obtain ⟨parts, _, answered⟩ := bind_eq_ok.mp answered
  obtain ⟨envelope, made, answered⟩ := bind_eq_ok.mp answered
  obtain ⟨packed, packing, answered⟩ := bind_eq_ok.mp answered
  obtain rfl := Except.ok.inj answered
  obtain ⟨solution, _, made⟩ := bind_eq_ok.mp (mapError_eq_ok.mp made)
  obtain ⟨⟨reported, warnings⟩, aggregated, made⟩ := bind_eq_ok.mp made
  obtain ⟨checked, _, made⟩ := bind_eq_ok.mp made
  obtain rfl := Except.ok.inj made
  refine ⟨reported, warnings, aggregated, ?_⟩
  have untouched : Untouched "coverage" := by
    unfold Untouched
    decide
  have kept := packResponse_get? untouched (mapError_eq_ok.mp packing)
  have flagged : Json.get? (packedAnswer packed) "coverage" = packed.document.get? "coverage" := by
    unfold packedAnswer
    rw [get?_entries]
    split
    · rw [Dict.get?_set, if_neg (by decide)]
    · rfl
  exact flagged.trans kept

/-- The aggregate of an answer of `graph_query`, over its snapshots. -/
theorem QueryServes.aggregate (serves : QueryServes context arguments calls snapshots document) :
    ∃ reported, Json.get? document "coverage" = some (.str reported) ∧
      (∀ snapshot ∈ snapshots, severity (shardStatus context.interpreter snapshot.shards) ≤ severity reported) ∧
      (snapshots ≠ [] → ∃ snapshot ∈ snapshots,
        severity reported ≤ severity (shardStatus context.interpreter snapshot.shards)) := by
  obtain ⟨request, _, _, _, _, _, _, _, _, _, scope, built, answered⟩ := serves.loaded
  obtain ⟨each, complete⟩ := graphSetOf_ok built
  obtain ⟨reported, warnings, aggregated, found⟩ := answerQuery_coverage answered
  refine ⟨reported, found, fun snapshot member => ?_, fun some => ?_⟩
  · obtain ⟨graph, here, made⟩ := forall₂_left each member
    rw [← (graphFromSnapshot_ok made).2]
    exact ((aggregateCoverage_ok aggregated).2.1 graph here).2
  · have members : scope.members ≠ [] := fun none => some (List.forall₂_nil_right_iff.mp (none ▸ each))
    obtain ⟨graph, here, below⟩ := aggregateCoverage_attained aggregated complete members
    obtain ⟨snapshot, member, made⟩ := forall₂_left each.flip here
    exact ⟨snapshot, member, (graphFromSnapshot_ok made).2 ▸ below⟩

omit [LinearOrder Time] in
theorem loadCurrent_ok {solutionId lane : Text} {projects : List Text} {loaded : List (LoadedSnapshot × Graph)}
    (trace : Trace (loadCurrent context solutionId lane projects) calls (.ok loaded)) :
    ∀ pair ∈ loaded, graphFromSnapshot context.interpreter pair.1 = .ok pair.2 := by
  induction projects generalizing calls loaded with
  | nil =>
    obtain ⟨_, same⟩ := trace_done_iff.mp trace
    obtain rfl := Except.ok.inj same
    exact fun _ none => nomatch none
  | cons projectId rest ih =>
    rcases trace_bind_iff.mp trace with ⟨_, _, wrong⟩ | ⟨snapshot, _, _, rfl, _, trace⟩
    · cases wrong
    rcases trace_ofExcept_bind_iff.mp trace with ⟨_, _, _, wrong⟩ | ⟨graph, built, trace⟩
    · cases wrong
    rcases trace_bind_iff.mp trace with ⟨_, _, wrong⟩ | ⟨later, _, _, rfl, loads, trace⟩
    · cases wrong
    obtain ⟨_, same⟩ := trace_done_iff.mp trace
    obtain rfl := Except.ok.inj same
    exact List.forall_mem_cons.mpr ⟨mapError_eq_ok.mp built, ih loads⟩

omit [LinearOrder Time] in
/-- What a status reports of its projects, over its snapshots. -/
theorem StatusServes.reports (serves : StatusServes context arguments calls snapshots document) :
    ∃ reported entries, Json.get? document "coverage" = some (.str reported) ∧
      Json.get? document "projects" = some (.arr entries) ∧
      List.Forall₂ (fun snapshot entry => entry.text? "project_id" = some snapshot.projectId ∧
        entry.text? "coverage" = some (shardStatus context.interpreter snapshot.shards) ∧
        severity (shardStatus context.interpreter snapshot.shards) ≤ severity reported) snapshots entries := by
  obtain ⟨request, loaded, loading, asking, daemon, _, _, rfl, loads, _, scope, coverage, warnings, scoping, rfl⟩ :=
    serves.loaded
  obtain ⟨scope', built, scoping⟩ := bind_eq_ok.mp scoping
  obtain ⟨⟨coverage', warnings'⟩, aggregated, scoping⟩ := bind_eq_ok.mp scoping
  obtain ⟨rfl, rfl, rfl⟩ : scope' = scope ∧ coverage' = coverage ∧ warnings' = warnings := by
    have same := Except.ok.inj scoping
    exact ⟨congrArg Prod.fst same, congrArg (fun p => p.2.1) same, congrArg (fun p => p.2.2) same⟩
  obtain ⟨members, _⟩ := scopeOfGraphs_ok built
  have distinct : ((loaded.map Prod.snd).map Graph.projectId).Nodup := members ▸ scope'.projects_nodup
  refine ⟨coverage', _, rfl, rfl, ?_⟩
  rw [List.forall₂_map_left_iff, List.forall₂_map_right_iff, List.forall₂_same]
  intro pair member
  obtain ⟨project, status⟩ := graphFromSnapshot_ok (loadCurrent_ok loads pair member)
  have listed : pair.2 ∈ loaded.map Prod.snd := List.mem_map_of_mem member
  have shown : projectCoverage context.interpreter (loaded.map Prod.snd) pair.1.projectId =
      shardStatus context.interpreter pair.1.shards := by
    rw [← project, projectCoverage_eq distinct listed, status]
  refine ⟨rfl, congrArg some shown, ?_⟩
  rw [← status]
  exact ((aggregateCoverage_ok (mapError_eq_ok.mp aggregated)).2.1 pair.2 (members ▸ listed)).2

theorem queryCoverage_iff (serves : QueryServes context arguments calls snapshots document) :
    QueryCoverage snapshots document ↔ ShardsCover context.interpreter snapshots := by
  obtain ⟨reported, found, above, attained⟩ := serves.aggregate
  constructor
  · rintro ⟨reported', found', each⟩ snapshot member status pinned
    obtain rfl : reported = reported' := Json.str.inj (Option.some.inj (found.symm.trans found'))
    obtain ⟨other, inside, limits⟩ := attained (List.ne_nil_of_mem member)
    exact ⟨other, inside, (each snapshot member status pinned).trans limits⟩
  · intro covers
    refine ⟨reported, found, fun snapshot member status pinned => ?_⟩
    obtain ⟨other, inside, limits⟩ := covers snapshot member status pinned
    exact limits.trans (above other inside)

omit [LinearOrder Time] in
theorem statusCoverage_iff (serves : StatusServes context arguments calls snapshots document) :
    StatusCoverage snapshots document ↔ EachShardCovers context.interpreter snapshots := by
  obtain ⟨reported, entries, found, listed, each⟩ := serves.reports
  constructor
  · rintro ⟨reported', entries', found', listed', covered⟩ snapshot member status pinned
    obtain rfl : entries = entries' := Json.arr.inj (Option.some.inj (listed.symm.trans listed'))
    have limits : List.Forall₂ (fun snapshot _ => ∀ status, PinsCoverage snapshot status →
        severity status ≤ severity (shardStatus context.interpreter snapshot.shards)) snapshots entries := by
      refine List.Forall₂.mp ?_ each covered
      rintro other entry ⟨_, shown, _⟩ ⟨_, _, shown', _, limits⟩
      obtain rfl := Option.some.inj (shown.symm.trans shown')
      exact limits
    obtain ⟨_, _, holds⟩ := forall₂_left limits member
    exact holds status pinned
  · intro covers
    refine ⟨reported, entries, found, listed, ?_⟩
    refine ((List.forall₂_and_left _ _).mpr ⟨covers, each⟩).imp ?_
    rintro snapshot entry ⟨limits, named, shown, below⟩
    exact ⟨_, named, shown, below, limits⟩

/-- **Coverage is never overstated exactly where no shard flatters its manifest**, and an aggregate never is
more complete than its members or than a missing one allows. -/
theorem coverage_reported_iff (context : ToolContext Time) (arguments : JsonObject) :
    (∀ calls snapshots document, QueryServes context arguments calls snapshots document →
      (QueryCoverage snapshots document ↔ ShardsCover context.interpreter snapshots)) ∧
    (∀ calls snapshots document, StatusServes context arguments calls snapshots document →
      (StatusCoverage snapshots document ↔ EachShardCovers context.interpreter snapshots)) ∧
    ∀ graphs status warnings, aggregateCoverage context.interpreter graphs = .ok (status, warnings) →
      (∀ graph ∈ graphs.members, severity (graph.coverageStatus context.interpreter) ≤ severity status) ∧
        (graphs.missingProjects ≠ [] → severity coveragePartial ≤ severity status) := by
  refine ⟨fun _ _ _ => queryCoverage_iff, fun _ _ _ => statusCoverage_iff, ?_⟩
  intro graphs status warnings aggregated
  obtain ⟨_, each, missing⟩ := aggregateCoverage_ok aggregated
  exact ⟨fun graph member => (each graph member).2, missing⟩

omit [LinearOrder Time] in
/-- Without retention, every snapshot of a status was made by a session. -/
theorem loadCurrent_sessions (plain : context.retaining = false) {solutionId lane : Text} {projects : List Text}
    {loaded : List (LoadedSnapshot × Graph)}
    (trace : Trace (loadCurrent context solutionId lane projects) calls (.ok loaded)) :
    ∀ pair ∈ loaded, PinsCoverage pair.1 pair.1.coverageStatus := by
  induction projects generalizing calls loaded with
  | nil =>
    obtain ⟨_, same⟩ := trace_done_iff.mp trace
    obtain rfl := Except.ok.inj same
    exact fun _ none => nomatch none
  | cons projectId rest ih =>
    rcases trace_bind_iff.mp trace with ⟨_, _, wrong⟩ | ⟨snapshot, _, _, rfl, first, trace⟩
    · cases wrong
    rcases trace_ofExcept_bind_iff.mp trace with ⟨_, _, _, wrong⟩ | ⟨graph, built, trace⟩
    · cases wrong
    rcases trace_bind_iff.mp trace with ⟨_, _, wrong⟩ | ⟨later, _, _, rfl, loads, trace⟩
    · cases wrong
    obtain ⟨_, same⟩ := trace_done_iff.mp trace
    obtain rfl := Except.ok.inj same
    refine List.forall_mem_cons.mpr ⟨?_, ih loads⟩
    obtain ⟨location, _, source⟩ := loadProject_ok first
    rcases trace_ofExcept_bind_iff.mp source with ⟨_, _, _, wrong⟩ | ⟨directory, _, source⟩
    · cases wrong
    rw [plain] at source
    obtain ⟨inner, made, _⟩ := guardedLoad_ok source
    exact (pinsCoverage_iff made).mpr rfl

end Answers

/-! ### A shard that flatters its manifest -/

/-- A shard by which the coverage is complete. -/
def completeShard : Lib.Bytes := bytesOf "\x7b\"status\":\"complete_for_profile\"\x7d\n"

def completeShardDigest : Text := "d8b73529a231e005588153222bfbec90daf7ce5902e8aa09d8a0f9ec1699659e"

/-- The manifest of its generation, by which it is partial. -/
def partialManifest : Lib.Bytes :=
  bytesOf (("\x7b\"analysis_profile\":\"p\",\"analyzer_set_hash\":\"" : Text) ++ zeros ++
    ("\",\"config_fingerprint\":\"" : Text) ++ zeros ++
    ("\",\"coverage\":\x7b\"input_files\":0,\"processed_files\":0,\"status\":\"partial\"," : Text) ++
    ("\"unresolved_references\":0,\"unsupported_patterns\":[]\x7d," : Text) ++
    ("\"dependency_fingerprint\":\"" : Text) ++ zeros ++
    ("\",\"files\":[\x7b\"bytes\":34,\"path\":\"coverage.json\",\"records\":1," : Text) ++
    ("\"role\":\"coverage\",\"sha256\":\"" : Text) ++ completeShardDigest ++
    ("\"\x7d],\"generator_version\":\"1\",\"project_id\":\"core\",\"schema_version\":1," : Text) ++
    ("\"solution_id\":\"shop\",\"source_fingerprint\":\"" : Text) ++ zeros ++ ("\"\x7d\n" : Text))

def flatteringId : Text := "0ee4d4eb99ca19a1526c285cf9e0531588b225d6871b55205bcee43c8e0c0b1d"

/-- What the catalog generation id of an answer over this generation hashes. -/
def flatteringGenerations : Lib.Bytes :=
  bytesOf (("\x7b\"generations\":[[\"core\",\"" : Text) ++ flatteringId ++
    ("\"]],\"schema_version\":1\x7d" : Text))

/-- SHA-256, on these bytes. -/
def flatteringSha256 (bytes : Lib.Bytes) : Text :=
  if bytes = completeShard then completeShardDigest
  else if bytes = partialManifest then flatteringId
  else if bytes = flatteringGenerations then
    "b1d91550bf9e3103651934467677d0c5cd29f6d76dd68a2ceb63236986959518"
  else []

/-- The lane of `core` with this generation. -/
def flatteringFiles : Snapshot.Files := .plain
  [((sampleRoot "core").child currentPointerName, samplePointer flatteringId),
    ((sampleRoot "core").joined ["generations", flatteringId, "manifest.json"], partialManifest),
    ((sampleRoot "core").joined ["generations", flatteringId, "coverage.json"], completeShard)]

/-- A caller that may read it. -/
def coreReader : ToolContext ℕ :=
  { shopContext (shopCaller {Security.capabilityRead} none) with sha256 := flatteringSha256 }

/-- The arguments of a status of this project. -/
def coreStatus : JsonObject := [("solution_id", .str "shop"), ("project_id", .str "core")]

/-- The status is made of one snapshot, which its shard shows as complete. -/
theorem flattering_serves : ∃ calls snapshots document,
    StatusServes coreReader coreStatus calls snapshots document ∧
      ∃ snapshot ∈ snapshots, PinsCoverage snapshot coveragePartial ∧
        shardStatus .ascii snapshot.shards = coverageComplete := by
  have seen : (outcomeAlone flatteringFiles (loadCurrent coreReader "shop" liveLane ["core"])).map
      (fun outcome => outcome.toOption.map fun loaded =>
        (loaded.map fun pair => (pair.1.coverageStatus, shardStatus .ascii pair.1.shards),
          (statusScope coreReader loaded).toOption.isSome)) =
        some (some ([(coveragePartial, coverageComplete)], true)) := by decide +kernel
  obtain ⟨outcome, ended, same⟩ := Option.map_eq_some_iff.mp seen
  cases outcome with
  | error raised => cases same
  | ok loaded =>
    obtain ⟨statuses, fits⟩ := Prod.mk.inj (Option.some.inj same)
    obtain ⟨calls, loads⟩ := trace_alone ended
    obtain ⟨⟨scope, coverage, warnings⟩, scoping⟩ : ∃ value, statusScope coreReader loaded = .ok value := by
      cases made : statusScope coreReader loaded with
      | ok value => exact ⟨value, rfl⟩
      | error raised =>
        rw [made] at fits
        cases fits
    obtain ⟨pair, rest, rfl, first, _⟩ := List.map_eq_cons_iff.mp statuses
    obtain ⟨pinned, shown⟩ := Prod.mk.inj first
    have pins := loadCurrent_sessions rfl loads pair List.mem_cons_self
    refine ⟨calls ++ [], _, _, ⟨⟨"shop", liveLane, false, ["core"]⟩, pair :: rest, calls, [], none, rfl, rfl,
      rfl, loads, .done none, scope, coverage, warnings, scoping, rfl⟩, pair.1, List.mem_cons_self, ?_, shown⟩
    rw [← pinned]
    exact pins

/-- A status reports complete coverage of a generation whose manifest pins it as partial. -/
theorem status_flatters : ¬ ∀ (context : ToolContext ℕ) (arguments : JsonObject) calls snapshots document,
    StatusServes context arguments calls snapshots document → StatusCoverage snapshots document := by
  intro all
  obtain ⟨calls, snapshots, document, serves, snapshot, member, pins, shown⟩ := flattering_serves
  have limits := (statusCoverage_iff serves).mp (all _ _ _ _ _ serves) snapshot member _ pins
  rw [show shardStatus coreReader.interpreter snapshot.shards = coverageComplete from shown] at limits
  exact absurd limits (by decide)

/-- The condition, at this status. -/
theorem flattering_status_iff : ∃ calls snapshots document,
    StatusServes coreReader coreStatus calls snapshots document ∧
      (StatusCoverage snapshots document ↔ EachShardCovers .ascii snapshots) := by
  obtain ⟨calls, snapshots, document, serves, _⟩ := flattering_serves
  exact ⟨calls, snapshots, document, serves,
    (coverage_reported_iff coreReader coreStatus).2.1 calls snapshots document serves⟩

end AxiomMcp.Tools
