/-
**Graphs out of shard documents (`query/model.py`).**

`graphFromSnapshot` collects the documents of the `nodes`, `edges` and `coverage` shards and parses them. A
document is JSON of any shape, and what is wrong with it is raised as a `GraphFault`: as `NodeInvalid`,
`EdgeInvalid` or `QueryModelError` where the parser looks, and as the interpreter's own `TypeError` or
`ValueError` where it does not.

* the checked fields are values of the types that `Node`, `Edge` and `Graph` are built of, so that what
  was checked goes into the graph with its check;
* `graphFromSnapshot`: the graph of one snapshot, whatever its shards hold.
-/

import AxiomMcp.Query.Budget
import AxiomMcp.Query.Traversal
import AxiomMcp.Snapshot.Session

namespace AxiomMcp.Query

open Lib
open Snapshot (LoadedSnapshot Shard)

/-! ### Faults -/

/-- What building a graph raises. -/
inductive GraphFault
  /-- A `NodeInvalid`. -/
  | node (message : Text)
  /-- An `EdgeInvalid`. -/
  | edge (message : Text)
  /-- A `QueryModelError` of no class below it. -/
  | refused (message : Text)
  /-- The `TypeError` of a value that is no sequence or cannot be hashed. -/
  | typeError
  /-- The `ValueError` of a sequence whose members are no pairs, or of an integer too long to print. -/
  | valueError

/-- The class of a fault. -/
def GraphFault.className : GraphFault → Text
  | .node _ => "NodeInvalid"
  | .edge _ => "EdgeInvalid"
  | .refused _ => "QueryModelError"
  | .typeError => "TypeError"
  | .valueError => "ValueError"

/-! ### Python's constructors -/

/-- Whether a value can be a member of a set. -/
def hashable : Json → Bool
  | .arr _ => false
  | .obj _ => false
  | _ => true

/-- `tuple(value)` -/
def iterated (value : Json) : Except GraphFault (List Json) := (pyList value).mapError fun _ => .typeError

section Code

variable (py : Interpreter)

/-- A key of a dictionary. One that is no text is kept as the text that JSON gives it. -/
def dictKey : Json → Except GraphFault Text
  | .str key => .ok key
  | .null => .ok "null"
  | .bool value => .ok (if value then "true" else "false")
  | .int value => .ok (Text.ofInt value)
  | .float value => .ok (py.floatRepr value)
  | .arr _ => .error .typeError
  | .obj _ => .error .typeError

/-- One pair of a sequence that a dictionary is made of. -/
def addPair (entries : Dict Text Json) (pair : Json) : Except GraphFault (Dict Text Json) := do
  match ← iterated pair with
  | [key, value] => return entries.set (← dictKey py key) value
  | _ => .error .valueError

/-- `dict(value)` -/
def dictOf : Json → Except GraphFault JsonObject
  | .obj entries => .ok entries
  | value => do
    let pairs ← iterated value
    let entries ← pairs.foldlM (addPair py) Dict.empty
    return entries.entries

/-! ### Fields -/

/-- `document[key]` of a document that has the key. -/
def fieldOf (document : JsonObject) (key : Text) : Json := (Json.get? document key).getD .null

/-- `document.get(key)`, with `None` for nothing. -/
def optionalField (document : JsonObject) (key : Text) : Option Json :=
  match Json.get? document key with
  | some .null => none
  | value => value

/-- The parts of a message, with the `repr` of a value at its end. -/
def gotMessage (parts : List Text) (value : Json) : Text := Text.format (parts ++ [value.pyRepr py])

/-- A fault whose message prints a value. -/
def printing (value : Json) (fault : GraphFault) : GraphFault :=
  if value.digitsFit py then fault else .valueError

/-- `_has_only(document, allowed, what=what)` -/
def hasOnly (document : JsonObject) (allowed : List Text) (what : Text) : Except GraphFault Unit :=
  let extra := sortedSet id ((document.map Prod.fst).filter fun key => key ∉ allowed)
  if extra = [] then .ok ()
  else .error (.refused (gotMessage py [what, " carries unknown keys "] (texts extra)))

/-- The check that no field is missing. -/
def requireFields (document : JsonObject) (fields : List Text) (what : Text) (fault : Text → GraphFault) :
    Except GraphFault Unit :=
  let missing := fields.filter fun key => (Json.get? document key).isNone
  if missing = [] then .ok () else .error (fault (gotMessage py [what, " is missing "] (texts missing)))

/-- A text that a pattern accepts. -/
def acceptedText (accepts : Text → Bool) (refused : Json → GraphFault) :
    Json → Except GraphFault { value : Text // accepts value = true }
  | .str value => if good : accepts value = true then .ok ⟨value, good⟩ else .error (refused (.str value))
  | value => .error (refused value)

/-- `sha256_text(value, what=what, error=error)` -/
def digestField (what : Text) (fault : Text → GraphFault) (value : Json) :
    Except GraphFault { value : Text // isSha256 value = true } :=
  acceptedText isSha256
    (fun value => printing py value
      (fault (gotMessage py [what, " must be a lowercase sha256 digest, got "] value))) value

/-- `identifier_text(value, what=what, error=error)` -/
def identifierField (what : Text) (fault : Text → GraphFault) (value : Json) :
    Except GraphFault { value : Text // isIdentifier value = true } :=
  acceptedText isIdentifier
    (fun value => printing py value
      (fault (gotMessage py [what, " must match ^[a-z][a-z0-9-]\x7b0,62\x7d$, got "] value))) value

/-- `_text(value, what=what, error=error)` -/
def textField (what : Text) (fault : Text → GraphFault) (value : Json) :
    Except GraphFault { value : Text // decide (value ≠ []) = true } :=
  acceptedText (fun value => decide (value ≠ []))
    (fun value => printing py value
      (fault (gotMessage py [what, " must be a non-empty string, got "] value))) value

/-- A contract value by its name. -/
def namedValue {α : Type} (name : α → Text) (all : List α) (refused : GraphFault) :
    Json → Except GraphFault α
  | .str value =>
    match all.find? fun item => name item = value with
    | some item => .ok item
    | none => .error refused
  | _ => .error refused

/-- A contract value that is looked up in a `frozenset`, which hashes it. -/
def hashedValue {α : Type} (name : α → Text) (all : List α) (refused : GraphFault) (value : Json) :
    Except GraphFault α :=
  if hashable value then namedValue name all refused value else .error .typeError

/-! ### Source locations -/

/-- The file of a source location. -/
def sourceFile (value : Json) : Except GraphFault { file : Text // isPortableRelative file = true } :=
  acceptedText isPortableRelative (fun value => printing py value (.node (Text.format ["source file ",
    value.pyRepr py, " is not a portable relative path"]))) value

/-- The fault of a line that is no positive integer. -/
def lineFault (name : Text) (value : Json) : GraphFault :=
  printing py value (.node (gotMessage py ["source ", name, " must be a positive integer, got "] value))

theorem line_pos {value : ℤ} (positive : 1 ≤ value) : 1 ≤ value.toNat := by omega

/-- A line of a source location. -/
def sourceLine (name : Text) : Json → Except GraphFault { line : ℕ // 1 ≤ line }
  | .int value =>
    if positive : 1 ≤ value then .ok ⟨value.toNat, line_pos positive⟩ else .error (lineFault py name (.int value))
  | value => .error (lineFault py name value)

/-- `SourceLocation(file=file, start_line=start_line, end_line=end_line)` -/
def sourceLocation (file startLine endLine : Json) : Except GraphFault SourceLocation := do
  let file ← sourceFile py file
  let first ← sourceLine py "start_line" startLine
  let last ← sourceLine py "end_line" endLine
  if span : first.val ≤ last.val then
    return ⟨file.val, first.val, last.val, file.property, first.property, span⟩
  else .error (printing py (.int last.val) (printing py (.int first.val) (.node (Text.format
    ["source end_line ", Text.ofNat last.val, " precedes start_line ", Text.ofNat first.val]))))

/-- The fields of a source. -/
def sourceFields : List Text := ["file", "start_line", "end_line"]

/-- `source_from_document(document, what=what)` -/
def sourceFromDocument (what : Text) : Json → Except GraphFault SourceLocation
  | .obj document => do
    hasOnly py document sourceFields (what ++ (" source" : Text))
    requireFields py document sourceFields (what ++ (" source" : Text)) .node
    sourceLocation py (fieldOf document "file") (fieldOf document "start_line") (fieldOf document "end_line")
  | document =>
    .error (printing py document (.node (gotMessage py [what, " source must be an object, got "] document)))

/-! ### Nodes -/

/-- The constant `NODE_FIELDS`. -/
def nodeFields : List Text :=
  ["id", "project_id", "kind", "name", "qualified_name", "language", "source", "identity_quality",
    "attributes"]

/-- All identity qualities. -/
def IdentityQuality.all : List IdentityQuality := [.semanticKey, .syntaxKey, .annotationKey]

/-- The kind of a node. -/
def nodeKind (value : Json) : Except GraphFault NodeKind :=
  hashedValue NodeKind.name NodeKind.all (printing py value
    (.node (Text.format ["node kind ", value.pyRepr py, " is not in the canonical allowlist"]))) value

/-- The identity quality of a node, looked up in a tuple. -/
def nodeQuality (value : Json) : Except GraphFault IdentityQuality :=
  namedValue IdentityQuality.name IdentityQuality.all (printing py value
    (.node (Text.format ["node identity_quality ", value.pyRepr py, " is not in the allowlist"]))) value

/-- The attributes of a node: a copy of an object. -/
def nodeAttributes : Json → Except GraphFault { attributes : JsonObject // (Json.obj attributes).WellFormed }
  | .obj entries => .ok ⟨Json.normalEntries entries, Json.wellFormed_normalEntries entries⟩
  | _ => .error (.node "node attributes must be an object")

/-- `Node(...)` of a document that has all fields, and its source. -/
def nodeOf (document : JsonObject) (source : SourceLocation) : Except GraphFault Node := do
  let nodeId ← digestField py "node id" .node (fieldOf document "id")
  let projectId ← identifierField py "node project_id" .node (fieldOf document "project_id")
  let kind ← nodeKind py (fieldOf document "kind")
  let name ← textField py "node name" .node (fieldOf document "name")
  let qualifiedName ← textField py "node qualified_name" .node (fieldOf document "qualified_name")
  let language ← textField py "node language" .node (fieldOf document "language")
  let quality ← nodeQuality py (fieldOf document "identity_quality")
  let attributes ← nodeAttributes (fieldOf document "attributes")
  return {
    id := nodeId.val
    projectId := projectId.val
    kind
    name := name.val
    qualifiedName := qualifiedName.val
    language := language.val
    source
    identityQuality := quality
    attributes := attributes.val
    id_digest := nodeId.property
    projectId_identifier := projectId.property
    name_nonempty := of_decide_eq_true name.property
    qualifiedName_nonempty := of_decide_eq_true qualifiedName.property
    language_nonempty := of_decide_eq_true language.property
    attributes_wellFormed := attributes.property }

/-- How a node is called where its source is refused. -/
def nodeLabel (nodeId : Json) : Except GraphFault Text :=
  if nodeId.digitsFit py then .ok (Text.format ["node ", nodeId.pyRepr py]) else .error .valueError

/-- `node_from_document(document)` -/
def nodeFromDocument : Json → Except GraphFault Node
  | .obj document => do
    hasOnly py document nodeFields "node"
    requireFields py document nodeFields "node" .node
    let what ← nodeLabel py (fieldOf document "id")
    let source ← sourceFromDocument py what (fieldOf document "source")
    nodeOf py document source
  | document => .error (printing py document (.node (gotMessage py ["node must be an object, got "] document)))

/-! ### Edges -/

/-- The constant `EDGE_FIELDS`. -/
def edgeFields : List Text :=
  ["id", "source_id", "target_project_id", "kind", "resolution", "evidence", "analyzer_id"]

/-- The kind of an edge. -/
def edgeKind (value : Json) : Except GraphFault EdgeKind :=
  hashedValue EdgeKind.name EdgeKind.all (printing py value
    (.edge (Text.format ["edge kind ", value.pyRepr py, " is not in the canonical allowlist"]))) value

/-- The resolution of an edge, looked up in a tuple. -/
def edgeResolution (value : Json) : Except GraphFault Resolution :=
  namedValue Resolution.name Resolution.all (printing py value
    (.edge (Text.format ["edge resolution ", value.pyRepr py, " is not in the allowlist"]))) value

/-- One item of the evidence. -/
def evidenceItem (value : Json) :
    Except GraphFault { item : JsonObject // (Json.obj item).WellFormed } :=
  (dictOf py value).map fun entries =>
    ⟨Json.normalEntries entries, Json.wellFormed_normalEntries entries⟩

/-- The evidence of an edge. -/
def edgeEvidence (items : List Json) : Except GraphFault
    { evidence : List JsonObject // evidence ≠ [] ∧ ∀ item ∈ evidence, (Json.obj item).WellFormed } :=
  match items with
  | [] => .error (.edge "edge evidence must carry at least one item")
  | first :: rest => do
    let head ← evidenceItem py first
    let others ← rest.mapM (evidenceItem py)
    return ⟨head.val :: others.map Subtype.val, List.cons_ne_nil _ _, by
      refine List.forall_mem_cons.mpr ⟨head.property, fun item member => ?_⟩
      obtain ⟨other, _, rfl⟩ := List.mem_map.mp member
      exact other.property⟩

/-- The one target of an edge. -/
inductive EdgeTarget (resolution : Resolution)
  | node (id : Text) (digest : isSha256 id = true) (resolved : resolution ≠ .unresolved)
  | name (text : Text) (nonempty : text ≠ []) (unresolved : resolution = .unresolved)

/-- The checks of the two target fields. -/
def edgeTarget (resolution : Resolution) (targetId unresolvedTarget : Option Json) :
    Except GraphFault (EdgeTarget resolution) :=
  match targetId, unresolvedTarget with
  | some target, none => do
    let target ← digestField py "edge target_id" .edge target
    if unresolved : resolution = .unresolved then
      .error (.edge "an unresolved edge must carry unresolved_target")
    else return .node target.val target.property unresolved
  | none, some target => do
    let target ← textField py "edge unresolved_target" .edge target
    if unresolved : resolution = .unresolved then
      return .name target.val (of_decide_eq_true target.property) unresolved
    else .error (.edge (Text.format ["a ", resolution.name, " edge must carry target_id"]))
  | _, _ => .error (.edge (Text.format ["an edge carries exactly one of target_id or ",
      "unresolved_target, never both or neither"]))

/-- `Edge(...)` of a document that has all fields, and its evidence as a sequence. -/
def edgeOf (document : JsonObject) (items : List Json) : Except GraphFault Edge := do
  let edgeId ← digestField py "edge id" .edge (fieldOf document "id")
  let sourceId ← digestField py "edge source_id" .edge (fieldOf document "source_id")
  let targetProjectId ← identifierField py "edge target_project_id" .edge
    (fieldOf document "target_project_id")
  let kind ← edgeKind py (fieldOf document "kind")
  let resolution ← edgeResolution py (fieldOf document "resolution")
  let analyzerId ← textField py "edge analyzer_id" .edge (fieldOf document "analyzer_id")
  let evidence ← edgeEvidence py items
  match ← edgeTarget py resolution (optionalField document "target_id")
      (optionalField document "unresolved_target") with
  | .node target digest resolved =>
    return {
      id := edgeId.val
      sourceId := sourceId.val
      targetProjectId := targetProjectId.val
      kind, resolution
      evidence := evidence.val
      analyzerId := analyzerId.val
      targetId := some target
      unresolvedTarget := none
      id_digest := edgeId.property
      sourceId_digest := sourceId.property
      targetProjectId_identifier := targetProjectId.property
      analyzerId_nonempty := of_decide_eq_true analyzerId.property
      evidence_nonempty := evidence.property.1
      evidence_wellFormed := evidence.property.2
      one_target := by simp
      targetId_digest := by
        rintro _ ⟨⟩
        exact digest
      unresolvedTarget_nonempty := fun _ none => nomatch none
      unresolved_iff := iff_of_false resolved (by simp) }
  | .name target nonempty unresolved =>
    return {
      id := edgeId.val
      sourceId := sourceId.val
      targetProjectId := targetProjectId.val
      kind, resolution
      evidence := evidence.val
      analyzerId := analyzerId.val
      targetId := none
      unresolvedTarget := some target
      id_digest := edgeId.property
      sourceId_digest := sourceId.property
      targetProjectId_identifier := targetProjectId.property
      analyzerId_nonempty := of_decide_eq_true analyzerId.property
      evidence_nonempty := evidence.property.1
      evidence_wellFormed := evidence.property.2
      one_target := by simp
      targetId_digest := fun _ none => nomatch none
      unresolvedTarget_nonempty := by
        rintro _ ⟨⟩
        exact nonempty
      unresolved_iff := iff_of_true unresolved rfl }

/-- `edge_from_document(document)` -/
def edgeFromDocument : Json → Except GraphFault Edge
  | .obj document => do
    hasOnly py document (edgeFields ++ (["target_id", "unresolved_target"] : List Text)) "edge"
    requireFields py document edgeFields "edge" .edge
    let items ← iterated (fieldOf document "evidence")
    edgeOf py document items
  | document => .error (printing py document (.edge (gotMessage py ["edge must be an object, got "] document)))

/-! ### One graph -/

/-- The loop over the nodes of a generation; `seen` are the ids before. -/
def checkNodes (projectId : Text) : List Text → List Node → Except GraphFault Unit
  | _, [] => .ok ()
  | seen, node :: rest =>
    if node.projectId ≠ projectId then
      .error (.node (Text.format ["node ", node.id.take 12, " declares project ",
        node.projectId.pyRepr py.isPrintable, ", not ", projectId.pyRepr py.isPrintable]))
    else if node.id ∈ seen then
      .error (.node (Text.format ["duplicate node id ", node.id.take 12, " in one generation"]))
    else checkNodes projectId (node.id :: seen) rest

/-- The loop over the edges of a generation. -/
def checkEdges (nodeIds : List Text) : List Text → List Edge → Except GraphFault Unit
  | _, [] => .ok ()
  | seen, edge :: rest =>
    if edge.id ∈ seen then
      .error (.edge (Text.format ["duplicate edge id ", edge.id.take 12, " in one generation"]))
    else if edge.sourceId ∉ nodeIds then
      .error (.edge (Text.format ["edge ", edge.id.take 12, " starts at ", edge.sourceId.take 12,
        ", which this generation does not pin"]))
    else checkEdges nodeIds (edge.id :: seen) rest

variable {py}

/-- What the loop over the nodes lets pass. -/
theorem checkNodes_ok {projectId : Text} {nodes : List Node} {seen : List Text}
    (checked : checkNodes py projectId seen nodes = .ok ()) :
    (∀ node ∈ nodes, node.projectId = projectId) ∧ (nodes.map Node.id).Nodup ∧
      ∀ node ∈ nodes, node.id ∉ seen := by
  induction nodes generalizing seen with
  | nil => exact ⟨(fun _ none => nomatch none), List.nodup_nil, (fun _ none => nomatch none)⟩
  | cons node rest ih =>
    unfold checkNodes at checked
    split at checked
    · cases checked
    · next same =>
      split at checked
      · cases checked
      · next fresh =>
        obtain ⟨named, distinct, apart⟩ := ih checked
        refine ⟨List.forall_mem_cons.mpr ⟨not_not.mp same, named⟩, List.nodup_cons.mpr ⟨?_, distinct⟩,
          List.forall_mem_cons.mpr ⟨fresh, fun other here old => ?_⟩⟩
        · intro again
          obtain ⟨other, here, equal⟩ := List.mem_map.mp again
          exact apart other here (equal ▸ List.mem_cons_self)
        · exact apart other here (List.mem_cons_of_mem _ old)

/-- What the loop over the edges lets pass. -/
theorem checkEdges_ok {nodeIds : List Text} {edges : List Edge} {seen : List Text}
    (checked : checkEdges nodeIds seen edges = .ok ()) :
    (edges.map Edge.id).Nodup ∧ (∀ edge ∈ edges, edge.sourceId ∈ nodeIds) ∧
      ∀ edge ∈ edges, edge.id ∉ seen := by
  induction edges generalizing seen with
  | nil => exact ⟨List.nodup_nil, (fun _ none => nomatch none), (fun _ none => nomatch none)⟩
  | cons edge rest ih =>
    unfold checkEdges at checked
    split at checked
    · cases checked
    · next fresh =>
      split at checked
      · cases checked
      · next pinned =>
        obtain ⟨distinct, started, apart⟩ := ih checked
        refine ⟨List.nodup_cons.mpr ⟨?_, distinct⟩, List.forall_mem_cons.mpr ⟨not_not.mp pinned, started⟩,
          List.forall_mem_cons.mpr ⟨fresh, fun other here old => ?_⟩⟩
        · intro again
          obtain ⟨other, here, equal⟩ := List.mem_map.mp again
          exact apart other here (equal ▸ List.mem_cons_self)
        · exact apart other here (List.mem_cons_of_mem _ old)

variable (py)

/-- `Graph(project_id=..., generation_id=..., nodes=..., edges=..., coverage=...)` -/
def graphOf (projectId generationId : Text) (nodes : List Node) (edges : List Edge)
    (coverage : Option JsonObject) : Except GraphFault Graph := do
  let project ← identifierField py "graph project_id" .refused (.str projectId)
  let generation ← digestField py "graph generation_id" .refused (.str generationId)
  match nodesChecked : checkNodes py project.val [] nodes with
  | .error fault => .error fault
  | .ok () =>
    match edgesChecked : checkEdges (nodes.map Node.id) [] edges with
    | .error fault => .error fault
    | .ok () =>
      return {
        projectId := project.val
        generationId := generation.val
        nodes, edges, coverage
        schemaMajor := none
        projectId_identifier := project.property
        generationId_digest := generation.property
        node_project := (checkNodes_ok nodesChecked).1
        node_ids := (checkNodes_ok nodesChecked).2.1
        edge_ids := (checkEdges_ok edgesChecked).1
        edge_source := (checkEdges_ok edgesChecked).2.1 }

/-- `graph_from_documents(project_id, generation_id, nodes=nodes, edges=edges, coverage=coverage)` -/
def graphFromDocuments (projectId generationId : Text) (nodes edges : List Json)
    (coverage : Option JsonObject) : Except GraphFault Graph := do
  let nodes ← nodes.mapM (nodeFromDocument py)
  let edges ← edges.mapM (edgeFromDocument py)
  graphOf py projectId generationId nodes edges coverage

/-- The documents of a snapshot. -/
structure ShardDocuments where
  nodes : List Json
  edges : List Json
  coverage : Option JsonObject

/-- One round of the loop over the shards. -/
def collectShard (documents : ShardDocuments) (shard : Shard) : Except GraphFault ShardDocuments :=
  if shard.role = "nodes" then
    (iterated shard.document).map fun more => { documents with nodes := documents.nodes ++ more }
  else if shard.role = "edges" then
    (iterated shard.document).map fun more => { documents with edges := documents.edges ++ more }
  else if shard.role = "coverage" then
    (dictOf py shard.document).map fun coverage => { documents with coverage := some coverage }
  else .ok documents

/-- `graph_from_snapshot(snapshot)` -/
def graphFromSnapshot (snapshot : LoadedSnapshot) : Except GraphFault Graph := do
  let documents ← snapshot.shards.foldlM (collectShard py) ⟨[], [], none⟩
  graphFromDocuments py snapshot.projectId snapshot.generationId documents.nodes documents.edges
    documents.coverage

end Code

/-! ### The coverage of a graph -/

section Coverage

variable {py : Interpreter}

/-- The document of the last shard with the role `coverage`. -/
def coverageShard (shards : List Shard) : Option Json :=
  ((shards.filter fun shard => decide (shard.role = ("coverage" : Text))).getLast?).map Shard.document

/-- The coverage block that a graph takes out of some shards. -/
def coverageBlock (py : Interpreter) (shards : List Shard) : Option JsonObject :=
  (coverageShard shards).bind fun document => (dictOf py document).toOption

/-- The status of the coverage block out of some shards. -/
def shardStatus (py : Interpreter) (shards : List Shard) : Text :=
  match coverageBlock py shards with
  | none => "unknown"
  | some [] => "unknown"
  | some block =>
    match Json.get? block "status" with
    | some status => status.pyStr py
    | none => "unknown"

theorem collectShard_ok {documents collected : ShardDocuments} {shard : Shard}
    (accepted : collectShard py documents shard = .ok collected) :
    (shard.role ≠ "coverage" ∧ collected.coverage = documents.coverage) ∨
      shard.role = "coverage" ∧ collected.coverage = (dictOf py shard.document).toOption := by
  unfold collectShard at accepted
  split at accepted
  · next nodes =>
    obtain ⟨more, _, rfl⟩ := map_eq_ok.mp accepted
    exact Or.inl ⟨nodes ▸ by decide, rfl⟩
  · split at accepted
    · next edges =>
      obtain ⟨more, _, rfl⟩ := map_eq_ok.mp accepted
      exact Or.inl ⟨edges ▸ by decide, rfl⟩
    · split at accepted
      · next covers =>
        obtain ⟨coverage, made, rfl⟩ := map_eq_ok.mp accepted
        exact Or.inr ⟨covers, by rw [made]; rfl⟩
      · next other =>
        obtain rfl := Except.ok.inj accepted
        exact Or.inl ⟨other, rfl⟩

/-- The coverage that is collected is that of the last shard with the role. -/
theorem collect_coverage {shards : List Shard} {documents collected : ShardDocuments}
    (accepted : shards.foldlM (collectShard py) documents = .ok collected) :
    collected.coverage =
      if (coverageShard shards).isNone then documents.coverage else coverageBlock py shards := by
  induction shards using List.reverseRecOn generalizing collected with
  | nil =>
    obtain rfl := Except.ok.inj accepted
    exact (if_pos rfl).symm
  | append_singleton shards shard ih =>
    rw [List.foldlM_append] at accepted
    obtain ⟨between, first, last⟩ := bind_eq_ok.mp accepted
    rw [List.foldlM_cons] at last
    obtain ⟨_, taken, same⟩ := bind_eq_ok.mp last
    obtain rfl := Except.ok.inj same
    rcases collectShard_ok taken with ⟨other, kept⟩ | ⟨covers, taken⟩
    · have skipped : coverageShard (shards ++ [shard]) = coverageShard shards := by
        unfold coverageShard
        rw [List.filter_append, List.filter_singleton]
        simp [other]
      unfold coverageBlock
      rw [kept, ih first, skipped]
      rfl
    · have taking : coverageShard (shards ++ [shard]) = some shard.document := by
        unfold coverageShard
        rw [List.filter_append, List.filter_singleton]
        simp [covers]
      unfold coverageBlock
      rw [taken, taking]
      rfl

theorem identifierField_str {what text : Text} {fault : Text → GraphFault}
    {checked : { value : Text // isIdentifier value = true }}
    (accepted : identifierField py what fault (.str text) = .ok checked) : checked.val = text := by
  unfold identifierField acceptedText at accepted
  dsimp only at accepted
  split at accepted
  · obtain rfl := Except.ok.inj accepted
    rfl
  · cases accepted

theorem graphOf_ok {projectId generationId : Text} {nodes : List Node} {edges : List Edge}
    {coverage : Option JsonObject} {graph : Graph}
    (built : graphOf py projectId generationId nodes edges coverage = .ok graph) :
    graph.projectId = projectId ∧ graph.coverage = coverage := by
  obtain ⟨project, named, built⟩ := bind_eq_ok.mp built
  obtain ⟨generation, _, built⟩ := bind_eq_ok.mp built
  split at built
  · cases built
  · split at built
    · cases built
    · obtain rfl := Except.ok.inj built
      exact ⟨identifierField_str named, rfl⟩

/-- The coverage block of a graph is that of its shards. -/
theorem graphFromSnapshot_block {snapshot : LoadedSnapshot} {graph : Graph}
    (built : graphFromSnapshot py snapshot = .ok graph) : graph.coverage = coverageBlock py snapshot.shards := by
  obtain ⟨documents, collected, built⟩ := bind_eq_ok.mp built
  obtain ⟨nodes, _, built⟩ := bind_eq_ok.mp built
  obtain ⟨edges, _, built⟩ := bind_eq_ok.mp built
  rw [(graphOf_ok built).2, collect_coverage collected]
  split
  · next none =>
    unfold coverageBlock
    rw [Option.isNone_iff_eq_none.mp none]
    rfl
  · rfl

/-- **The graph of a snapshot** is of its project and has the coverage of its shard. -/
theorem graphFromSnapshot_ok {snapshot : LoadedSnapshot} {graph : Graph}
    (built : graphFromSnapshot py snapshot = .ok graph) :
    graph.projectId = snapshot.projectId ∧ graph.coverageStatus py = shardStatus py snapshot.shards := by
  have block := graphFromSnapshot_block built
  obtain ⟨documents, _, built⟩ := bind_eq_ok.mp built
  obtain ⟨nodes, _, built⟩ := bind_eq_ok.mp built
  obtain ⟨edges, _, built⟩ := bind_eq_ok.mp built
  refine ⟨(graphOf_ok built).1, ?_⟩
  unfold Graph.coverageStatus shardStatus
  generalize coverageBlock py snapshot.shards = found at block ⊢
  generalize graph.coverage = coverage at block ⊢
  rcases found with _ | _ | _
  all_goals
    subst block
    rfl

end Coverage

end AxiomMcp.Query
