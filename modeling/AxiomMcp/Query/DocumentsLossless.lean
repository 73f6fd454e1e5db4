/-
**When documents are parsed strictly and losslessly.**

`as_document` of what a parser makes of a document is to be that document, up to the order of its keys.

* `node_lossless`: a node that is accepted is its document;
* `edge_lossless_iff`: an edge that is accepted is its document if and only if its evidence is an array of
  objects and neither target is an explicit null: `dict` takes a sequence of pairs for an object, and `get`
  takes a null for a missing key;
* `graph_accepts_iff`: the lists of documents that make a graph;
* `documents_strict_iff`: **a document is parsed strictly and losslessly if and only if no check strays on it
  and it is not an edge that is accepted and normalised**, and so are lists of documents.
-/

import AxiomMcp.Query.DocumentsStrict

namespace AxiomMcp.Query

open AxiomMcp.Lib

/-! ### Well-formed items -/

theorem source_formed (source : SourceLocation) : source.asDocument.WellFormed := by
  refine Json.wellFormed_obj.mpr ⟨?_, ?_⟩
  · change (["file", "start_line", "end_line"] : List Text).Nodup
    decide
  · simp only [List.forall_mem_cons]
    exact ⟨trivial, trivial, trivial, List.forall_mem_nil _⟩

theorem node_formed (node : Node) : (Json.obj node.asDocument).WellFormed := by
  refine Json.wellFormed_obj.mpr ⟨?_, ?_⟩
  · change (["id", "project_id", "kind", "name", "qualified_name", "language", "source", "identity_quality",
      "attributes"] : List Text).Nodup
    decide
  · unfold Node.asDocument
    simp only [List.forall_mem_cons]
    exact ⟨trivial, trivial, trivial, trivial, trivial, trivial, source_formed node.source, trivial,
      node.attributes_wellFormed, List.forall_mem_nil _⟩

/-- The target field is one of two. -/
theorem targetField_cases (edge : Edge) : ∃ target : Text,
    edge.targetField = (("target_id" : Text), Json.str target) ∨
      edge.targetField = (("unresolved_target" : Text), Json.str target) := by
  have one := edge.one_target
  unfold Edge.targetField
  cases found : edge.targetId with
  | some target => exact ⟨target, Or.inl rfl⟩
  | none =>
    cases named : edge.unresolvedTarget with
    | some target => exact ⟨target, Or.inr rfl⟩
    | none =>
      rw [found, named] at one
      exact (one rfl).elim

theorem edge_formed (edge : Edge) : (Json.obj edge.asDocument).WellFormed := by
  have evidence : (Json.arr (edge.evidence.map .obj)).WellFormed := by
    refine Json.wellFormed_arr.mpr fun item member => ?_
    obtain ⟨entries, inside, rfl⟩ := List.mem_map.mp member
    exact edge.evidence_wellFormed entries inside
  refine Json.wellFormed_obj.mpr ⟨?_, ?_⟩
  · obtain ⟨target, field | field⟩ := targetField_cases edge
    · rw [Edge.asDocument, field]
      change (["id", "source_id", "target_project_id", "kind", "resolution", "evidence", "analyzer_id",
        "target_id"] : List Text).Nodup
      decide
    · rw [Edge.asDocument, field]
      change (["id", "source_id", "target_project_id", "kind", "resolution", "evidence", "analyzer_id",
        "unresolved_target"] : List Text).Nodup
      decide
  · have target : edge.targetField.2.WellFormed := by
      obtain ⟨target, field | field⟩ := targetField_cases edge <;> rw [field] <;> trivial
    unfold Edge.asDocument
    simp only [List.forall_mem_cons]
    exact ⟨trivial, trivial, trivial, trivial, trivial, evidence, trivial, target, List.forall_mem_nil _⟩

section Code

variable {py : Interpreter}

/-! ### Accepted documents -/

theorem keys_ok {α : Type} {document : JsonObject} {fields optional : List Text} {what : Text}
    {fault : Text → GraphFault} (refuses : ∀ message, (fault message).refuses = true)
    {later : Except GraphFault α} {a : α}
    (done : (hasOnly py document (fields ++ optional) what >>= fun _ =>
      requireFields py document fields what fault >>= fun _ => later) = .ok a) :
    ExactKeys document fields optional ∧ later = .ok a := by
  rcases @keys_bind py α document fields optional what fault refuses later with
    ⟨keys, same⟩ | ⟨_, raised, same, _⟩
  · exact ⟨keys, same.symm.trans done⟩
  · cases same.symm.trans done

theorem ExactKeys.field {document : JsonObject} {fields optional : List Text}
    (keys : ExactKeys document fields optional) {key : Text} (member : key ∈ fields) :
    Json.get? document key = some (fieldOf document key) := by
  obtain ⟨value, found⟩ := keys.every key member
  rw [fieldOf, found]
  rfl

theorem fieldOf_formed {document : JsonObject} (formed : (Json.obj document).WellFormed) (key : Text) :
    (fieldOf document key).WellFormed := by
  obtain ⟨distinct, each⟩ := Json.wellFormed_obj.mp formed
  unfold fieldOf
  cases found : Json.get? document key with
  | none => trivial
  | some value => exact each _ ((Json.get?_eq_some distinct).mp found)

/-- An object with the fields of a document is the document. -/
theorem same_of_fields {document entries : JsonObject} (formed : (Json.obj document).WellFormed)
    (formed' : (Json.obj entries).WellFormed) (keys : ExactKeys document (entries.map Prod.fst) [])
    (each : ∀ item ∈ entries, Json.Same item.2 (fieldOf document item.1)) :
    Json.Same (.obj entries) (.obj document) := by
  refine Json.same_of_items (Json.wellFormed_obj.mp formed').1 (Json.wellFormed_obj.mp formed).1
    (fun item member => ⟨_, keys.field (List.mem_map_of_mem member), each item member⟩) fun key member => ?_
  have listed := keys.only key member
  rwa [List.append_nil] at listed

theorem same_of_eq {a b : Json} (equal : b = a) : Json.Same a b := congrArg Json.sorted equal.symm

theorem source_lossless {what : Text} {value : Json} {source : SourceLocation} (formed : value.WellFormed)
    (parsed : sourceFromDocument py what value = .ok source) : Json.Same source.asDocument value := by
  unfold sourceFromDocument at parsed
  split at parsed
  · next document =>
    obtain ⟨keys, parsed⟩ := @keys_ok py _ document sourceFields [] _ .node (fun _ => rfl) _ _ parsed
    obtain ⟨file, named, parsed⟩ := bind_eq_ok.mp parsed
    obtain ⟨first, start, parsed⟩ := bind_eq_ok.mp parsed
    obtain ⟨last, stop, parsed⟩ := bind_eq_ok.mp parsed
    split at parsed
    · obtain rfl := Except.ok.inj parsed
      refine same_of_fields formed (source_formed _) keys ?_
      simp only [List.forall_mem_cons]
      exact ⟨same_of_eq (acceptedText_ok named), same_of_eq (sourceLine_ok start),
        same_of_eq (sourceLine_ok stop), List.forall_mem_nil _⟩
    · cases parsed
  · cases parsed

/-! ### Nodes -/

theorem attributes_ok {value : Json} (formed : value.WellFormed)
    {attributes : { attributes : JsonObject // (Json.obj attributes).WellFormed }}
    (accepted : nodeAttributes value = .ok attributes) : value = .obj attributes.val := by
  unfold nodeAttributes at accepted
  split at accepted
  · obtain rfl := Except.ok.inj accepted
    exact (Json.normal_eq _ formed).symm
  · cases accepted

/-- The checks of a node keep its fields. -/
theorem nodeOf_ok {document : JsonObject} {source : SourceLocation} {node : Node}
    (formed : (Json.obj document).WellFormed) (made : nodeOf py document source = .ok node)
    (same : Json.Same source.asDocument (fieldOf document "source")) :
    ∀ item ∈ node.asDocument, Json.Same item.2 (fieldOf document item.1) := by
  obtain ⟨nodeId, digest, made⟩ := bind_eq_ok.mp made
  obtain ⟨projectId, identifier, made⟩ := bind_eq_ok.mp made
  obtain ⟨kind, allowed, made⟩ := bind_eq_ok.mp made
  obtain ⟨name, named, made⟩ := bind_eq_ok.mp made
  obtain ⟨qualifiedName, qualified, made⟩ := bind_eq_ok.mp made
  obtain ⟨language, spoken, made⟩ := bind_eq_ok.mp made
  obtain ⟨quality, ranked, made⟩ := bind_eq_ok.mp made
  obtain ⟨attributes, copied, made⟩ := bind_eq_ok.mp made
  obtain rfl := Except.ok.inj made
  unfold Node.asDocument
  simp only [List.forall_mem_cons]
  exact ⟨same_of_eq (acceptedText_ok digest), same_of_eq (acceptedText_ok identifier),
    same_of_eq (hashedValue_ok allowed), same_of_eq (acceptedText_ok named),
    same_of_eq (acceptedText_ok qualified), same_of_eq (acceptedText_ok spoken), same,
    same_of_eq (namedValue_ok ranked), same_of_eq (attributes_ok (fieldOf_formed formed _) copied),
    List.forall_mem_nil _⟩

/-- **A node that is accepted is its document.** -/
theorem node_lossless {value : Json} {node : Node} (formed : value.WellFormed)
    (parsed : nodeFromDocument py value = .ok node) : Json.Same (.obj node.asDocument) value := by
  unfold nodeFromDocument at parsed
  split at parsed
  · next document =>
    obtain ⟨keys, parsed⟩ := @keys_ok py _ document nodeFields [] _ .node (fun _ => rfl) _ _ parsed
    obtain ⟨what, _, parsed⟩ := bind_eq_ok.mp parsed
    obtain ⟨source, located, parsed⟩ := bind_eq_ok.mp parsed
    exact same_of_fields formed (node_formed node) keys
      (nodeOf_ok formed parsed (source_lossless (fieldOf_formed formed _) located))
  · cases parsed

/-! ### Edges -/

/-- The evidence is an array of objects, and no target is an explicit null. -/
structure EdgePlain (value : Json) : Prop where
  evidence : ∃ items, value.field? "evidence" = some (.arr items) ∧ ∀ item ∈ items, ∃ entries, item = .obj entries
  targets : ∀ key ∈ targetFields, value.field? key ≠ some .null

/-- What the checks of an edge keep. -/
structure EdgeKept (py : Interpreter) (document : JsonObject) (edge : Edge) : Prop where
  id : fieldOf document "id" = .str edge.id
  sourceId : fieldOf document "source_id" = .str edge.sourceId
  targetProjectId : fieldOf document "target_project_id" = .str edge.targetProjectId
  kind : fieldOf document "kind" = .str edge.kind.name
  resolution : fieldOf document "resolution" = .str edge.resolution.name
  analyzerId : fieldOf document "analyzer_id" = .str edge.analyzerId
  evidence : ∃ items, pyList (fieldOf document "evidence") = .ok items ∧
    List.Forall₂ (fun item entries => ∃ raw, dictOf py item = .ok raw ∧ entries = Json.normalEntries raw)
      items edge.evidence
  target : ∃ (key other target : Text), (∀ name, name ∈ targetFields ↔ name = key ∨ name = other) ∧
    optionalField document key = some (.str target) ∧ optionalField document other = none ∧
    edge.targetField = (key, .str target)

theorem evidenceItem_ok {value : Json} {item : { item : JsonObject // (Json.obj item).WellFormed }}
    (accepted : evidenceItem py value = .ok item) :
    ∃ raw, dictOf py value = .ok raw ∧ item.val = Json.normalEntries raw := by
  obtain ⟨raw, made, rfl⟩ := map_eq_ok.mp accepted
  exact ⟨raw, made, rfl⟩

theorem edgeEvidence_ok {items : List Json} {evidence : { evidence : List JsonObject //
      evidence ≠ [] ∧ ∀ item ∈ evidence, (Json.obj item).WellFormed }}
    (accepted : edgeEvidence py items = .ok evidence) :
    List.Forall₂ (fun item entries => ∃ raw, dictOf py item = .ok raw ∧ entries = Json.normalEntries raw)
      items evidence.val := by
  cases items with
  | nil => cases accepted
  | cons first rest =>
    obtain ⟨head, here, accepted⟩ := bind_eq_ok.mp accepted
    obtain ⟨others, later, accepted⟩ := bind_eq_ok.mp accepted
    obtain rfl := Except.ok.inj accepted
    refine .cons (evidenceItem_ok here) ?_
    exact List.forall₂_map_right_iff.mpr ((mapM_ok.mp later).imp fun _ _ done => evidenceItem_ok done)

/-- The one target of an edge is the one of its document. -/
theorem edgeTarget_ok {document : JsonObject} {resolution : Resolution} {target : EdgeTarget resolution}
    (accepted : edgeTarget py resolution (optionalField document "target_id")
      (optionalField document "unresolved_target") = .ok target) :
    (∃ id digest resolved, target = .node id digest resolved ∧ TargetsNode document (.str id)) ∨
      ∃ text nonempty unresolved, target = .name text nonempty unresolved ∧ TargetsName document (.str text) := by
  unfold edgeTarget at accepted
  unfold TargetsNode TargetsName
  split at accepted
  · next value node name =>
    obtain ⟨id, digest, accepted⟩ := bind_eq_ok.mp accepted
    split at accepted
    · cases accepted
    · obtain rfl := Except.ok.inj accepted
      exact Or.inl ⟨_, _, _, rfl, by rw [node, acceptedText_ok digest], name⟩
  · next value node name =>
    obtain ⟨text, filled, accepted⟩ := bind_eq_ok.mp accepted
    split at accepted
    · obtain rfl := Except.ok.inj accepted
      exact Or.inr ⟨_, _, _, rfl, node, by rw [name, acceptedText_ok filled]⟩
    · cases accepted
  · cases accepted

theorem edgeOf_ok {document : JsonObject} {items : List Json} {edge : Edge}
    (listed : pyList (fieldOf document "evidence") = .ok items)
    (made : edgeOf py document items = .ok edge) : EdgeKept py document edge := by
  obtain ⟨edgeId, digest, made⟩ := bind_eq_ok.mp made
  obtain ⟨sourceId, digest', made⟩ := bind_eq_ok.mp made
  obtain ⟨targetProjectId, identifier, made⟩ := bind_eq_ok.mp made
  obtain ⟨kind, allowed, made⟩ := bind_eq_ok.mp made
  obtain ⟨resolution, resolved, made⟩ := bind_eq_ok.mp made
  obtain ⟨analyzerId, analyzed, made⟩ := bind_eq_ok.mp made
  obtain ⟨evidence, read, made⟩ := bind_eq_ok.mp made
  obtain ⟨target, aimed, made⟩ := bind_eq_ok.mp made
  rcases edgeTarget_ok aimed with ⟨id, _, _, rfl, node⟩ | ⟨text, _, _, rfl, name⟩
  · obtain rfl := Except.ok.inj made
    exact ⟨acceptedText_ok digest, acceptedText_ok digest', acceptedText_ok identifier, hashedValue_ok allowed,
      namedValue_ok resolved, acceptedText_ok analyzed, ⟨items, listed, edgeEvidence_ok read⟩,
      ⟨"target_id", "unresolved_target", id, fun name => by simp [targetFields], node.1, node.2, rfl⟩⟩
  · obtain rfl := Except.ok.inj made
    exact ⟨acceptedText_ok digest, acceptedText_ok digest', acceptedText_ok identifier, hashedValue_ok allowed,
      namedValue_ok resolved, acceptedText_ok analyzed, ⟨items, listed, edgeEvidence_ok read⟩,
      ⟨"unresolved_target", "target_id", text, fun name => by simp [targetFields, or_comm], name.2, name.1, rfl⟩⟩

/-- What is accepted as an edge. -/
theorem edge_ok {value : Json} {edge : Edge} (parsed : edgeFromDocument py value = .ok edge) :
    ∃ document, value = .obj document ∧ ExactKeys document edgeFields targetFields ∧
      EdgeKept py document edge := by
  unfold edgeFromDocument at parsed
  split at parsed
  · next document =>
    obtain ⟨keys, parsed⟩ := @keys_ok py _ document edgeFields targetFields _ .edge (fun _ => rfl) _ _ parsed
    obtain ⟨items, listed, parsed⟩ := bind_eq_ok.mp parsed
    exact ⟨document, rfl, keys, edgeOf_ok (iterated_ok.mp listed) parsed⟩
  · cases parsed

/-- Evidence of objects is kept as it is. -/
theorem evidence_kept {items : List Json} {evidence : List JsonObject}
    (read : List.Forall₂ (fun item entries => ∃ raw, dictOf py item = .ok raw ∧ entries = Json.normalEntries raw)
      items evidence)
    (formed : ∀ item ∈ items, item.WellFormed) (objects : ∀ item ∈ items, ∃ entries, item = .obj entries) :
    items = evidence.map .obj := by
  induction read with
  | nil => rfl
  | cons here _ ih =>
    rw [List.forall_mem_cons] at formed objects
    obtain ⟨entries, rfl⟩ := objects.1
    obtain ⟨raw, made, rfl⟩ := here
    obtain rfl := Except.ok.inj made
    rw [List.map_cons, ← ih formed.2 objects.2]
    exact congrArg (· :: _) (Json.normal_eq _ formed.1).symm

/-- A target that is there without the other, and neither of them null. -/
theorem optionalField_some {document : JsonObject} {key : Text} {value : Json}
    (found : optionalField document key = some value) : Json.get? document key = some value := by
  unfold optionalField at found
  split at found
  · cases found
  · exact found

theorem optionalField_none {document : JsonObject} {key : Text} (missing : optionalField document key = none)
    (plain : Json.get? document key ≠ some .null) : Json.get? document key = none := by
  unfold optionalField at missing
  split at missing
  · next null => exact (plain null).elim
  · exact missing

theorem absent_key {document : JsonObject} (distinct : (document.map Prod.fst).Nodup) {key : Text}
    (missing : Json.get? document key = none) : key ∉ document.map Prod.fst := by
  intro member
  obtain ⟨⟨_, value⟩, inside, rfl⟩ := List.mem_map.mp member
  cases missing.symm.trans ((Json.get?_eq_some distinct).mpr inside)

/-- A plain edge that is accepted is its document. -/
theorem edge_same {document : JsonObject} {edge : Edge} (formed : (Json.obj document).WellFormed)
    (keys : ExactKeys document edgeFields targetFields) (kept : EdgeKept py document edge)
    (plain : EdgePlain (.obj document)) : Json.Same (.obj edge.asDocument) (.obj document) := by
  have distinct := (Json.wellFormed_obj.mp formed).1
  have evidence : fieldOf document "evidence" = .arr (edge.evidence.map .obj) := by
    obtain ⟨items, found, objects⟩ := plain.evidence
    have field : fieldOf document "evidence" = .arr items := by
      rw [fieldOf, show Json.get? document "evidence" = _ from found]
      rfl
    obtain ⟨others, listed, read⟩ := kept.evidence
    rw [field] at listed
    obtain rfl := Except.ok.inj listed
    rw [field, ← evidence_kept read (Json.wellFormed_arr.mp (field ▸ fieldOf_formed formed _)) objects]
  have targets (key : Text) (member : key ∈ targetFields) : Json.get? document key ≠ some .null :=
    plain.targets key member
  have fieldsOf (key : Text) (member : key ∈ edgeFields) {value : Json} (same : fieldOf document key = value) :
      ∃ there, Json.get? document key = some there ∧ Json.Same value there :=
    ⟨_, keys.field member, same_of_eq same⟩
  obtain ⟨key, other, target, both, aimed, none, shown⟩ := kept.target
  have here := optionalField_some aimed
  have there := absent_key distinct (optionalField_none none (targets other ((both other).mpr (Or.inr rfl))))
  refine Json.same_of_items (Json.wellFormed_obj.mp (edge_formed edge)).1 distinct ?_ ?_
  · unfold Edge.asDocument
    rw [shown]
    simp only [List.forall_mem_cons]
    exact ⟨fieldsOf "id" (by decide) kept.id, fieldsOf "source_id" (by decide) kept.sourceId,
      fieldsOf "target_project_id" (by decide) kept.targetProjectId, fieldsOf "kind" (by decide) kept.kind,
      fieldsOf "resolution" (by decide) kept.resolution, fieldsOf "evidence" (by decide) evidence,
      fieldsOf "analyzer_id" (by decide) kept.analyzerId, ⟨_, here, rfl⟩, List.forall_mem_nil _⟩
  · intro name member
    have shownKeys : edge.asDocument.map Prod.fst = edgeFields ++ [key] := by
      rw [Edge.asDocument, shown]
      rfl
    rw [shownKeys]
    rcases List.mem_append.mp (keys.only name member) with field | optional
    · exact List.mem_append_left _ field
    · rcases (both name).mp optional with rfl | rfl
      · exact List.mem_append_right _ List.mem_cons_self
      · exact (there member).elim

theorem sorted_eq_arr {value : Json} {items : List Json} (same : value.sorted = .arr items) :
    ∃ others, value = .arr others ∧ items = others.map Json.sorted := by
  cases value with
  | arr others =>
    rw [Json.sorted_arr] at same
    exact ⟨others, rfl, (Json.arr.inj same).symm⟩
  | obj entries =>
    rw [Json.sorted_obj] at same
    cases same
  | _ => cases same

theorem sorted_eq_obj {value : Json} {entries : JsonObject} (same : value.sorted = .obj entries) :
    ∃ others, value = .obj others := by
  cases value with
  | obj others => exact ⟨others, rfl⟩
  | arr items =>
    rw [Json.sorted_arr] at same
    cases same
  | _ => cases same

theorem sorted_eq_null {value : Json} (same : value.sorted = .null) : value = .null := by
  cases value with
  | null => rfl
  | arr items =>
    rw [Json.sorted_arr] at same
    cases same
  | obj entries =>
    rw [Json.sorted_obj] at same
    cases same
  | _ => cases same

theorem sorted_eq_str {value : Json} {text : Text} (same : value.sorted = .str text) : value = .str text := by
  cases value with
  | str other => exact same
  | arr items =>
    rw [Json.sorted_arr] at same
    cases same
  | obj entries =>
    rw [Json.sorted_obj] at same
    cases same
  | _ => cases same

/-- An edge that is its document is plain. -/
theorem edge_plain {document : JsonObject} {edge : Edge} (formed : (Json.obj document).WellFormed)
    (keys : ExactKeys document edgeFields targetFields)
    (same : Json.Same (.obj edge.asDocument) (.obj document)) : EdgePlain (.obj document) := by
  have distinct := (Json.wellFormed_obj.mp (edge_formed edge)).1
  have fields := (Json.same_obj distinct (Json.wellFormed_obj.mp formed).1).mp same
  refine ⟨?_, ?_⟩
  · have shown : Json.get? edge.asDocument "evidence" = some (.arr (edge.evidence.map .obj)) :=
      (Json.get?_eq_some distinct).mpr (by simp [Edge.asDocument])
    have field := fields "evidence"
    rw [shown, keys.field (by decide), Option.map_some, Option.map_some, Option.some.injEq] at field
    rw [Json.sorted_arr] at field
    obtain ⟨items, arr, equal⟩ := sorted_eq_arr field.symm
    refine ⟨items, (keys.field (by decide)).trans (congrArg some arr), fun item member => ?_⟩
    have listed : item.sorted ∈ (edge.evidence.map Json.obj).map Json.sorted :=
      equal ▸ List.mem_map_of_mem member
    obtain ⟨_, inside, sorted⟩ := List.mem_map.mp listed
    obtain ⟨entries, _, rfl⟩ := List.mem_map.mp inside
    rw [Json.sorted_obj] at sorted
    exact sorted_eq_obj sorted.symm
  · intro key member null
    have field := fields key
    rw [show Json.get? document key = some .null from null, Option.map_some] at field
    obtain ⟨value, found, sorted⟩ := Option.map_eq_some_iff.mp field
    obtain rfl := sorted_eq_null sorted
    have inside := (Json.get?_eq_some distinct).mp found
    obtain ⟨target, shown | shown⟩ := targetField_cases edge
    · unfold Edge.asDocument at inside
      rw [shown] at inside
      simp at inside
    · unfold Edge.asDocument at inside
      rw [shown] at inside
      simp at inside

/-- **An edge that is accepted is its document if and only if the document is plain.** -/
theorem edge_lossless_iff {value : Json} {edge : Edge} (formed : value.WellFormed)
    (parsed : edgeFromDocument py value = .ok edge) :
    Json.Same (.obj edge.asDocument) value ↔ EdgePlain value := by
  obtain ⟨document, rfl, keys, kept⟩ := edge_ok parsed
  exact ⟨edge_plain formed keys, edge_same formed keys kept⟩

/-! ### Graphs -/

variable (py)

/-- The documents of a graph fit together. -/
structure Consistent (projectId : Text) (nodes edges : List Json) : Prop where
  project : ∀ document ∈ nodes, document.text? "project_id" = some projectId
  nodeIds : (nodes.map (Json.text? · "id")).Nodup
  edgeIds : (edges.map (Json.text? · "id")).Nodup
  sources : ∀ document ∈ edges, document.text? "source_id" ∈ nodes.map (Json.text? · "id")

/-- The lists of documents that make a graph. -/
structure GraphAccepts (projectId generationId : Text) (nodes edges : List Json) : Prop where
  identifier : isIdentifier projectId = true
  digest : isSha256 generationId = true
  parsedNodes : ∀ document ∈ nodes, NodeAccepts py document
  parsedEdges : ∀ document ∈ edges, EdgeAccepts py document
  consistent : Consistent projectId nodes edges

/-- The lists of documents on which building a graph strays. -/
def GraphStrays (nodes edges : List Json) : Prop :=
  FirstStrays (NodeAccepts py) (NodeStrays py) (FirstStrays (EdgeAccepts py) (EdgeStrays py) False edges) nodes

variable {py}

theorem checkNodes_refuses {projectId : Text} {nodes : List Node} {seen : List Text} {fault : GraphFault}
    (refused : checkNodes py projectId seen nodes = .error fault) : fault.refuses = true := by
  induction nodes generalizing seen with
  | nil => cases refused
  | cons node rest ih =>
    unfold checkNodes at refused
    split at refused
    · obtain rfl := Except.error.inj refused
      rfl
    · split at refused
      · obtain rfl := Except.error.inj refused
        rfl
      · exact ih refused

theorem checkEdges_refuses {nodeIds : List Text} {edges : List Edge} {seen : List Text} {fault : GraphFault}
    (refused : checkEdges nodeIds seen edges = .error fault) : fault.refuses = true := by
  induction edges generalizing seen with
  | nil => cases refused
  | cons edge rest ih =>
    unfold checkEdges at refused
    split at refused
    · obtain rfl := Except.error.inj refused
      rfl
    · split at refused
      · obtain rfl := Except.error.inj refused
        rfl
      · exact ih refused

/-- The loop over the nodes lets distinct nodes of the project pass. -/
theorem checkNodes_passes {projectId : Text} {nodes : List Node} {seen : List Text}
    (project : ∀ node ∈ nodes, node.projectId = projectId) (distinct : (nodes.map Node.id).Nodup)
    (apart : ∀ node ∈ nodes, node.id ∉ seen) : checkNodes py projectId seen nodes = .ok () := by
  induction nodes generalizing seen with
  | nil => rfl
  | cons node rest ih =>
    rw [List.forall_mem_cons] at project apart
    obtain ⟨fresh, distinct⟩ := List.nodup_cons.mp distinct
    rw [checkNodes, if_neg (not_not.mpr project.1), if_neg apart.1]
    refine ih project.2 distinct fun other member old => ?_
    rcases List.mem_cons.mp old with same | old
    · exact fresh (same ▸ List.mem_map_of_mem member)
    · exact apart.2 other member old

/-- The loop over the edges lets distinct edges from these nodes pass. -/
theorem checkEdges_passes {nodeIds : List Text} {edges : List Edge} {seen : List Text}
    (distinct : (edges.map Edge.id).Nodup) (started : ∀ edge ∈ edges, edge.sourceId ∈ nodeIds)
    (apart : ∀ edge ∈ edges, edge.id ∉ seen) : checkEdges nodeIds seen edges = .ok () := by
  induction edges generalizing seen with
  | nil => rfl
  | cons edge rest ih =>
    rw [List.forall_mem_cons] at started apart
    obtain ⟨fresh, distinct⟩ := List.nodup_cons.mp distinct
    rw [checkEdges, if_neg apart.1, if_neg (not_not.mpr started.1)]
    refine ih distinct started.2 fun other member old => ?_
    rcases List.mem_cons.mp old with same | old
    · exact fresh (same ▸ List.mem_map_of_mem member)
    · exact apart.2 other member old

/-- Checking a graph never strays. -/
theorem graphOf_strays {projectId generationId : Text} {nodes : List Node} {edges : List Edge}
    {coverage : Option JsonObject} : ¬ Strays (graphOf py projectId generationId nodes edges coverage) := by
  have body : Strays (graphOf py projectId generationId nodes edges coverage) ↔
      Unprinted py (.str projectId) ∨ ((textRule py isIdentifier).accepts (.str projectId) ∧
        (Unprinted py (.str generationId) ∨ ((textRule py isSha256).accepts (.str generationId) ∧ False))) := by
    refine strays_field (identifier_follows fun _ => rfl) fun project _ => ?_
    refine strays_field (digest_follows fun _ => rfl) fun generation _ => iff_of_false ?_ not_false
    split
    · next fault refused =>
      exact fun strays => Bool.noConfusion ((strays_error.mp strays).symm.trans (checkNodes_refuses refused))
    · split
      · next fault refused =>
        exact fun strays => Bool.noConfusion ((strays_error.mp strays).symm.trans (checkEdges_refuses refused))
      · exact not_strays_ok _
  rw [body]
  rintro (long | ⟨_, long | ⟨_, wrong⟩⟩)
  · exact printed_str _ long
  · exact printed_str _ long
  · exact wrong

theorem graph_strays_iff {projectId generationId : Text} {nodes edges : List Json}
    {coverage : Option JsonObject} :
    Strays (graphFromDocuments py projectId generationId nodes edges coverage) ↔ GraphStrays py nodes edges := by
  unfold graphFromDocuments GraphStrays
  rw [firstStrays_iff]
  refine (strays_bind fun parsed _ => (?_ : _ ↔ FirstStrays (EdgeAccepts py) (EdgeStrays py) False edges)).trans ?_
  · refine (strays_bind fun _ _ => iff_of_false graphOf_strays not_false).trans ?_
    rw [and_false, or_false, strays_mapM]
    simp only [edge_accepts_iff, edge_strays_iff]
  · rw [strays_mapM, accepts_mapM]
    simp only [node_accepts_iff, node_strays_iff]

/-- A graph that is built has the documents as its items. -/
theorem graph_parsed {projectId generationId : Text} {nodes edges : List Json} {coverage : Option JsonObject}
    {graph : Graph} (built : graphFromDocuments py projectId generationId nodes edges coverage = .ok graph) :
    graph.projectId = projectId ∧ graph.generationId = generationId ∧
      List.Forall₂ (fun document node => nodeFromDocument py document = .ok node) nodes graph.nodes ∧
      List.Forall₂ (fun document edge => edgeFromDocument py document = .ok edge) edges graph.edges := by
  obtain ⟨parsedNodes, readNodes, built⟩ := bind_eq_ok.mp built
  obtain ⟨parsedEdges, readEdges, built⟩ := bind_eq_ok.mp built
  obtain ⟨project, named, built⟩ := bind_eq_ok.mp built
  obtain ⟨generation, digest, built⟩ := bind_eq_ok.mp built
  split at built
  · cases built
  · split at built
    · cases built
    · obtain rfl := Except.ok.inj built
      exact ⟨(Json.str.inj (acceptedText_ok named)).symm, (Json.str.inj (acceptedText_ok digest)).symm,
        mapM_ok.mp readNodes, mapM_ok.mp readEdges⟩

theorem text_of_field {document : JsonObject} {key text : Text}
    (found : Json.get? document key = some (.str text)) :
    Json.text? (.obj document) key = some text := by
  rw [Json.text?, Json.field?, found]

theorem text_of_same {entries : JsonObject} {value : Json} {key text : Text}
    (formed : (Json.obj entries).WellFormed) (formed' : value.WellFormed) (same : Json.Same (.obj entries) value)
    (found : Json.get? entries key = some (.str text)) : value.text? key = some text := by
  obtain ⟨document, rfl⟩ := sorted_eq_obj (same.symm.trans (Json.sorted_obj entries))
  have field := (Json.same_obj (Json.wellFormed_obj.mp formed).1 (Json.wellFormed_obj.mp formed').1).mp same key
  rw [found] at field
  obtain ⟨value, there, sorted⟩ := Option.map_eq_some_iff.mp field.symm
  exact text_of_field (there.trans (congrArg some (sorted_eq_str sorted)))

/-- The texts that tie the nodes of a graph together. -/
theorem node_texts {value : Json} {node : Node} (formed : value.WellFormed)
    (parsed : nodeFromDocument py value = .ok node) :
    value.text? "id" = some node.id ∧ value.text? "project_id" = some node.projectId := by
  have same := node_lossless formed parsed
  exact ⟨text_of_same (node_formed node) formed same rfl, text_of_same (node_formed node) formed same rfl⟩

/-- The texts that tie the edges of a graph to its nodes. -/
theorem edge_texts {value : Json} {edge : Edge} (parsed : edgeFromDocument py value = .ok edge) :
    value.text? "id" = some edge.id ∧ value.text? "source_id" = some edge.sourceId := by
  obtain ⟨document, rfl, keys, kept⟩ := edge_ok parsed
  exact ⟨text_of_field ((keys.field (by decide)).trans (congrArg some kept.id)),
    text_of_field ((keys.field (by decide)).trans (congrArg some kept.sourceId))⟩

theorem map_eq_of_forall₂ {α β γ : Type} {f : α → γ} {g : β → γ} {l : List α} {m : List β}
    (each : List.Forall₂ (fun a b => f a = g b) l m) : l.map f = m.map g := by
  induction each with
  | nil => rfl
  | cons same _ ih => rw [List.map_cons, List.map_cons, same, ih]

section Parsed

variable {nodes edges : List Json} {parsedNodes : List Node} {parsedEdges : List Edge}

theorem node_ids_parsed (formed : ∀ document ∈ nodes, document.WellFormed)
    (read : List.Forall₂ (fun document node => nodeFromDocument py document = .ok node) nodes parsedNodes) :
    nodes.map (Json.text? · "id") = parsedNodes.map (some ∘ Node.id) ∧
      nodes.map (Json.text? · "project_id") = parsedNodes.map (some ∘ Node.projectId) := by
  have texts : List.Forall₂ (fun document node => document.text? "id" = some (Node.id node) ∧
      document.text? "project_id" = some (Node.projectId node)) nodes parsedNodes := by
    induction read with
    | nil => exact .nil
    | cons here _ ih =>
      rw [List.forall_mem_cons] at formed
      exact .cons (node_texts formed.1 here) (ih formed.2)
  exact ⟨map_eq_of_forall₂ (texts.imp fun _ _ => And.left), map_eq_of_forall₂ (texts.imp fun _ _ => And.right)⟩

theorem edge_ids_parsed
    (read : List.Forall₂ (fun document edge => edgeFromDocument py document = .ok edge) edges parsedEdges) :
    edges.map (Json.text? · "id") = parsedEdges.map (some ∘ Edge.id) ∧
      edges.map (Json.text? · "source_id") = parsedEdges.map (some ∘ Edge.sourceId) :=
  ⟨map_eq_of_forall₂ (read.imp fun _ _ parsed => (edge_texts parsed).1),
    map_eq_of_forall₂ (read.imp fun _ _ parsed => (edge_texts parsed).2)⟩

theorem nodup_some {α : Type} {f : α → Text} {l : List α} : (l.map (some ∘ f)).Nodup ↔ (l.map f).Nodup := by
  rw [← List.map_map]
  exact List.nodup_map_iff (Option.some_injective _)

theorem mem_some {α : Type} {f : α → Text} {l : List α} {text : Text} :
    some text ∈ l.map (some ∘ f) ↔ text ∈ l.map f := by
  simp

/-- Documents fit together exactly when what was parsed from them does. -/
theorem consistent_iff {projectId : Text} (formed : ∀ document ∈ nodes, document.WellFormed)
    (readNodes : List.Forall₂ (fun document node => nodeFromDocument py document = .ok node) nodes parsedNodes)
    (readEdges : List.Forall₂ (fun document edge => edgeFromDocument py document = .ok edge) edges parsedEdges) :
    Consistent projectId nodes edges ↔ (∀ node ∈ parsedNodes, node.projectId = projectId) ∧
      (parsedNodes.map Node.id).Nodup ∧ (parsedEdges.map Edge.id).Nodup ∧
      ∀ edge ∈ parsedEdges, edge.sourceId ∈ parsedNodes.map Node.id := by
  obtain ⟨nodeIds, projects⟩ := node_ids_parsed formed readNodes
  obtain ⟨edgeIds, sources⟩ := edge_ids_parsed readEdges
  have named : (∀ document ∈ nodes, document.text? "project_id" = some projectId) ↔
      ∀ node ∈ parsedNodes, node.projectId = projectId := by
    have listed : (∀ document ∈ nodes, document.text? "project_id" = some projectId) ↔
        ∀ text ∈ nodes.map (Json.text? · "project_id"), text = some projectId := by
      simp only [List.forall_mem_map]
    rw [listed, projects, List.forall_mem_map]
    exact forall₂_congr fun _ _ => Option.some_inj
  have started : (∀ document ∈ edges, document.text? "source_id" ∈ nodes.map (Json.text? · "id")) ↔
      ∀ edge ∈ parsedEdges, edge.sourceId ∈ parsedNodes.map Node.id := by
    have listed : (∀ document ∈ edges, document.text? "source_id" ∈ nodes.map (Json.text? · "id")) ↔
        ∀ text ∈ edges.map (Json.text? · "source_id"), text ∈ nodes.map (Json.text? · "id") := by
      simp only [List.forall_mem_map]
    rw [listed, sources, nodeIds, List.forall_mem_map]
    exact forall₂_congr fun _ _ => mem_some
  constructor
  · rintro ⟨project, distinct, distinct', inside⟩
    rw [nodeIds, nodup_some] at distinct
    rw [edgeIds, nodup_some] at distinct'
    exact ⟨named.mp project, distinct, distinct', started.mp inside⟩
  · rintro ⟨project, distinct, distinct', inside⟩
    refine ⟨named.mpr project, ?_, ?_, started.mpr inside⟩
    · rw [nodeIds, nodup_some]
      exact distinct
    · rw [edgeIds, nodup_some]
      exact distinct'

end Parsed

theorem graphOf_accepts {projectId generationId : Text} {nodes : List Node} {edges : List Edge}
    {coverage : Option JsonObject} (identifier : isIdentifier projectId = true)
    (digest : isSha256 generationId = true) (project : ∀ node ∈ nodes, node.projectId = projectId)
    (nodeIds : (nodes.map Node.id).Nodup) (edgeIds : (edges.map Edge.id).Nodup)
    (sources : ∀ edge ∈ edges, edge.sourceId ∈ nodes.map Node.id) :
    Accepts (graphOf py projectId generationId nodes edges coverage) := by
  obtain ⟨checked, named⟩ := ((@identifier_follows py "graph project_id" .refused fun _ => rfl).accepts
    (.str projectId)).mpr ⟨projectId, rfl, identifier⟩
  obtain ⟨generation, pinned⟩ := ((@digest_follows py "graph generation_id" .refused fun _ => rfl).accepts
    (.str generationId)).mpr ⟨generationId, rfl, digest⟩
  have same : projectId = checked.val := Json.str.inj (acceptedText_ok named)
  have nodesPass : checkNodes py checked.val [] nodes = .ok () :=
    checkNodes_passes (same ▸ project) nodeIds fun _ _ => List.not_mem_nil
  have edgesPass : checkEdges (nodes.map Node.id) [] edges = .ok () :=
    checkEdges_passes edgeIds sources fun _ _ => List.not_mem_nil
  unfold graphOf
  rw [named, ok_bind, pinned, ok_bind]
  split
  · next failed => cases nodesPass.symm.trans failed
  · split
    · next failed => cases edgesPass.symm.trans failed
    · exact ⟨_, rfl⟩

theorem graph_accepts_iff {projectId generationId : Text} {nodes edges : List Json} {coverage : Option JsonObject}
    (formed : ∀ document ∈ nodes, document.WellFormed) :
    Accepts (graphFromDocuments py projectId generationId nodes edges coverage) ↔
      GraphAccepts py projectId generationId nodes edges := by
  constructor
  · rintro ⟨graph, built⟩
    obtain ⟨rfl, rfl, readNodes, readEdges⟩ := graph_parsed built
    refine ⟨graph.projectId_identifier, graph.generationId_digest, fun document member => ?_,
      fun document member => ?_, (consistent_iff formed readNodes readEdges).mpr
        ⟨graph.node_project, graph.node_ids, graph.edge_ids, graph.edge_source⟩⟩
    · obtain ⟨node, _, parsed⟩ := forall₂_left readNodes member
      exact (node_accepts_iff document).mp ⟨node, parsed⟩
    · obtain ⟨edge, _, parsed⟩ := forall₂_left readEdges member
      exact (edge_accepts_iff document).mp ⟨edge, parsed⟩
  · rintro ⟨identifier, digest, each, each', consistent⟩
    obtain ⟨parsedNodes, readNodes⟩ := mapM_of_ok fun document member =>
      (node_accepts_iff document).mpr (each document member)
    obtain ⟨parsedEdges, readEdges⟩ := mapM_of_ok fun document member =>
      (edge_accepts_iff document).mpr (each' document member)
    obtain ⟨project, nodeIds, edgeIds, sources⟩ :=
      (consistent_iff formed (mapM_ok.mp readNodes) (mapM_ok.mp readEdges)).mp consistent
    unfold graphFromDocuments
    rw [readNodes, ok_bind, readEdges, ok_bind]
    exact graphOf_accepts identifier digest project nodeIds edgeIds sources

/-! ### Strict parsing -/

/-- A parser returns what is lossless, or raises a `QueryModelError`. -/
def Strict {α : Type} (lossless : α → Prop) (x : Except GraphFault α) : Prop :=
  (∃ a, x = .ok a ∧ lossless a) ∨ ∃ fault, x = .error fault ∧ fault.refuses = true

theorem strict_iff {α : Type} {lossless : α → Prop} {x : Except GraphFault α} {Q : Prop}
    (exactly : ∀ a, x = .ok a → (lossless a ↔ Q)) : Strict lossless x ↔ ¬ Strays x ∧ (Accepts x → Q) := by
  cases x with
  | ok a =>
    constructor
    · rintro (⟨_, same, good⟩ | ⟨_, wrong, _⟩)
      · obtain rfl := Except.ok.inj same
        exact ⟨not_strays_ok a, fun _ => (exactly a rfl).mp good⟩
      · cases wrong
    · exact fun strict => Or.inl ⟨a, rfl, (exactly a rfl).mpr (strict.2 ⟨a, rfl⟩)⟩
  | error fault =>
    rw [strays_error, Bool.not_eq_false]
    constructor
    · rintro (⟨_, wrong, _⟩ | ⟨_, same, refuses⟩)
      · cases wrong
      · obtain rfl := Except.error.inj same
        exact ⟨refuses, fun accepts => (not_accepts_error accepts).elim⟩
    · exact fun strict => Or.inr ⟨fault, rfl, strict.1⟩

variable (py)

/-- `node_from_document` is strict and lossless on a document. -/
def NodeStrict (document : Json) : Prop :=
  Strict (fun node : Node => Json.Same (.obj node.asDocument) document) (nodeFromDocument py document)

/-- `edge_from_document` is strict and lossless on a document. -/
def EdgeStrict (document : Json) : Prop :=
  Strict (fun edge : Edge => Json.Same (.obj edge.asDocument) document) (edgeFromDocument py document)

/-- `graph_from_documents` is strict and lossless on lists of documents. -/
def GraphStrict (projectId generationId : Text) (nodes edges : List Json) (coverage : Option JsonObject) : Prop :=
  Strict (fun graph : Graph =>
      List.Forall₂ (fun node document => Json.Same (.obj (Node.asDocument node)) document) graph.nodes nodes ∧
      List.Forall₂ (fun edge document => Json.Same (.obj (Edge.asDocument edge)) document) graph.edges edges)
    (graphFromDocuments py projectId generationId nodes edges coverage)

variable {py}

theorem nodes_lossless {nodes : List Json} {parsedNodes : List Node}
    (formed : ∀ document ∈ nodes, document.WellFormed)
    (read : List.Forall₂ (fun document node => nodeFromDocument py document = .ok node) nodes parsedNodes) :
    List.Forall₂ (fun node document => Json.Same (.obj (Node.asDocument node)) document) parsedNodes nodes := by
  induction read with
  | nil => exact .nil
  | cons here _ ih =>
    rw [List.forall_mem_cons] at formed
    exact .cons (node_lossless formed.1 here) (ih formed.2)

theorem edges_lossless_iff {edges : List Json} {parsedEdges : List Edge}
    (formed : ∀ document ∈ edges, document.WellFormed)
    (read : List.Forall₂ (fun document edge => edgeFromDocument py document = .ok edge) edges parsedEdges) :
    List.Forall₂ (fun edge document => Json.Same (.obj (Edge.asDocument edge)) document) parsedEdges edges ↔
      ∀ document ∈ edges, EdgePlain document := by
  induction read with
  | nil => exact iff_of_true .nil (List.forall_mem_nil _)
  | cons here _ ih =>
    rw [List.forall_mem_cons] at formed
    rw [List.forall₂_cons, List.forall_mem_cons, edge_lossless_iff formed.1 here, ih formed.2]

theorem graph_lossless_iff {projectId generationId : Text} {nodes edges : List Json}
    {coverage : Option JsonObject} {graph : Graph} (formedNodes : ∀ document ∈ nodes, document.WellFormed)
    (formedEdges : ∀ document ∈ edges, document.WellFormed)
    (built : graphFromDocuments py projectId generationId nodes edges coverage = .ok graph) :
    (List.Forall₂ (fun node document => Json.Same (.obj (Node.asDocument node)) document) graph.nodes nodes ∧
      List.Forall₂ (fun edge document => Json.Same (.obj (Edge.asDocument edge)) document) graph.edges edges) ↔
    ∀ document ∈ edges, EdgePlain document := by
  obtain ⟨_, _, readNodes, readEdges⟩ := graph_parsed built
  exact (and_iff_right (nodes_lossless formedNodes readNodes)).trans (edges_lossless_iff formedEdges readEdges)

variable (py)

/-- **Documents are parsed strictly and losslessly** exactly where no check strays and no edge that is accepted
is normalised. -/
theorem documents_strict_iff :
    (∀ document : Json, document.WellFormed → (NodeStrict py document ↔ ¬ NodeStrays py document)) ∧
    (∀ document : Json, document.WellFormed → (EdgeStrict py document ↔
      ¬ EdgeStrays py document ∧ (EdgeAccepts py document → EdgePlain document))) ∧
    ∀ (projectId generationId : Text) (nodes edges : List Json) (coverage : Option JsonObject),
      (∀ document ∈ nodes, document.WellFormed) → (∀ document ∈ edges, document.WellFormed) →
      (GraphStrict py projectId generationId nodes edges coverage ↔ ¬ GraphStrays py nodes edges ∧
        (GraphAccepts py projectId generationId nodes edges → ∀ document ∈ edges, EdgePlain document)) := by
  refine ⟨fun document formed => ?_, fun document formed => ?_,
    fun projectId generationId nodes edges coverage formedNodes formedEdges => ?_⟩
  · rw [NodeStrict, strict_iff fun node parsed => iff_true_intro (node_lossless formed parsed), node_strays_iff]
    exact and_iff_left fun _ => trivial
  · rw [EdgeStrict, strict_iff fun edge parsed => edge_lossless_iff formed parsed, edge_strays_iff,
      edge_accepts_iff]
  · rw [GraphStrict, strict_iff fun graph built => graph_lossless_iff formedNodes formedEdges built,
      graph_strays_iff, graph_accepts_iff formedNodes]

end Code

/-! ### Two edges that are not parsed so -/

/-- An edge document. -/
def sampleEdge (kind : Json) (evidence : List Json) (targets : JsonObject) : Json :=
  .obj (([("id", .str Snapshot.sampleId), ("source_id", .str Snapshot.sampleId), ("target_project_id", .str "core"),
    ("kind", kind), ("resolution", .str "unresolved"), ("evidence", .arr evidence),
    ("analyzer_id", .str "scanner")] : JsonObject) ++ targets)

/-- An edge whose kind is a list. -/
def listKind : Json := sampleEdge (.arr []) [.obj []] [("unresolved_target", .str "main")]

/-- An edge whose evidence is an empty text and whose `target_id` is an explicit null. -/
def nullTarget : Json :=
  sampleEdge (.str "CALLS") [.str []] [("target_id", .null), ("unresolved_target", .str "main")]

theorem sampleEdge_formed {kind : Json} {evidence : List Json} {targets : JsonObject} (plain : kind.WellFormed)
    (items : ∀ item ∈ evidence, item.WellFormed)
    (keys : ((["id", "source_id", "target_project_id", "kind", "resolution",
      "evidence", "analyzer_id"] : List Text) ++ targets.map Prod.fst).Nodup)
    (values : ∀ item ∈ targets, item.2.WellFormed) : (sampleEdge kind evidence targets).WellFormed := by
  refine Json.wellFormed_obj.mpr ⟨?_, ?_⟩
  · rw [List.map_append]
    exact keys
  · refine List.forall_mem_append.mpr ⟨?_, values⟩
    simp only [List.forall_mem_cons]
    exact ⟨trivial, trivial, trivial, plain, trivial, Json.wellFormed_arr.mpr items, trivial,
      List.forall_mem_nil _⟩

theorem listKind_formed : listKind.WellFormed := by
  refine sampleEdge_formed (Json.wellFormed_arr.mpr (List.forall_mem_nil _)) ?_ (by decide) ?_
  · exact List.forall_mem_singleton.mpr (Json.wellFormed_obj.mpr ⟨List.nodup_nil, List.forall_mem_nil _⟩)
  · exact List.forall_mem_singleton.mpr trivial

theorem nullTarget_formed : nullTarget.WellFormed := by
  refine sampleEdge_formed trivial (List.forall_mem_singleton.mpr trivial) (by decide) ?_
  simp only [List.forall_mem_cons]
  exact ⟨trivial, trivial, List.forall_mem_nil _⟩

theorem listKind_strays : Strays (edgeFromDocument .ascii listKind) := by decide +kernel

theorem nullTarget_accepted : Accepts (edgeFromDocument .ascii nullTarget) := by decide +kernel

/-- The list raises a `TypeError`. -/
theorem documents_strict_listKind : ¬ EdgeStrict .ascii listKind := by
  rw [(documents_strict_iff .ascii).2.1 listKind listKind_formed]
  rintro ⟨never, _⟩
  exact never ((edge_strays_iff listKind).mp listKind_strays)

/-- A list as a kind is not refused, and the null and the empty text are dropped. -/
theorem documents_not_strict :
    ¬ (∀ document : Json, document.WellFormed → EdgeStrict .ascii document) ∧
    ¬ ∀ (document : Json) (edge : Edge), document.WellFormed → edgeFromDocument .ascii document = .ok edge →
      Json.Same (.obj edge.asDocument) document := by
  constructor
  · intro strict
    have exactly (edge : Edge) (parsed : edgeFromDocument .ascii listKind = .ok edge) :=
      edge_lossless_iff listKind_formed parsed
    exact ((strict_iff exactly).mp (strict listKind listKind_formed)).1 listKind_strays
  · intro lossless
    obtain ⟨edge, parsed⟩ := nullTarget_accepted
    have plain := (edge_lossless_iff nullTarget_formed parsed).mp (lossless _ edge nullTarget_formed parsed)
    exact plain.targets "target_id" (by decide) rfl

end AxiomMcp.Query
