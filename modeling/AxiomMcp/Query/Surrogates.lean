/-
**Where a lone surrogate comes from (`query/model.py`).**

A listed document shows fields of records, and coverage out of a shard. Python's `tuple` and `dict`
take values apart and put them together again, and what no part of a shard holds does not come up in
between.

* `Inherited`: a property that the parts of a value inherit, and `Inherited.of_iterated`, `Inherited.of_dictOf`;
* `graphFromSnapshot_clean`: the graph of shards without lone surrogates;
* `Shows.clean`, `listed_clean`: **what an answer lists of such a scope holds none**.
-/

import AxiomMcp.Query.Warned

namespace AxiomMcp.Query

open AxiomMcp.Lib

variable {py : Interpreter}

/-! ### Properties that parts inherit -/

/-- A property of values, and one of their keys, that `tuple` and `dict` keep. -/
structure Inherited (py : Interpreter) (keys : Text → Prop) (holds : Json → Prop) : Prop where
  items : ∀ items, holds (.arr items) → ∀ item ∈ items, holds item
  entries : ∀ entries, holds (.obj entries) → ∀ item ∈ entries, keys item.1 ∧ holds item.2
  characters : ∀ text, holds (.str text) → ∀ c ∈ text, holds (.str [c])
  texts : ∀ text, keys text ↔ holds (.str text)
  literal : ∀ text : String, keys text
  floats : ∀ value, keys (py.floatRepr value)

section Inherited

variable {keys : Text → Prop} {holds : Json → Prop}

theorem inherited_formed (py : Interpreter) : Inherited py (fun _ => True) Json.WellFormed where
  items _ formed := Json.wellFormed_arr.mp formed
  entries _ formed item member := ⟨trivial, (Json.wellFormed_obj.mp formed).2 item member⟩
  characters _ _ _ _ := trivial
  texts _ := iff_of_true trivial trivial
  literal _ := trivial
  floats _ := trivial

theorem inherited_clean (hides : HidesSurrogates py) : Inherited py Utf8.Clean (Json.Clean py) where
  items _ := Json.clean_arr.mp
  entries _ := Json.clean_obj.mp
  characters _ clean _ member := Json.clean_str.mpr fun _ here =>
    Json.clean_str.mp clean _ (List.mem_singleton.mp here ▸ member)
  texts _ := Json.clean_str.symm
  literal := Utf8.clean_ofString
  floats := hides.floats

/-- What a value is iterated into. -/
theorem Inherited.of_iterated (inherited : Inherited py keys holds) {value : Json} (whole : holds value)
    {items : List Json} (read : iterated value = .ok items) : ∀ item ∈ items, holds item := by
  have listed := mapError_eq_ok.mp read
  cases value with
  | arr items =>
    obtain rfl := Except.ok.inj listed
    exact inherited.items _ whole
  | str text =>
    obtain rfl := Except.ok.inj listed
    exact List.forall_mem_map.mpr (inherited.characters _ whole)
  | obj entries =>
    obtain rfl := Except.ok.inj listed
    exact List.forall_mem_map.mpr fun item member =>
      (inherited.texts _).mp (inherited.entries _ whole item member).1
  | _ => cases listed

theorem Inherited.of_dictKey (inherited : Inherited py keys holds) {value : Json} (whole : holds value) {key : Text}
    (keyed : dictKey py value = .ok key) : keys key := by
  cases value with
  | str text =>
    obtain rfl := Except.ok.inj keyed
    exact (inherited.texts _).mpr whole
  | null =>
    obtain rfl := Except.ok.inj keyed
    exact inherited.literal _
  | bool value =>
    obtain rfl := Except.ok.inj keyed
    cases value <;> exact inherited.literal _
  | int value =>
    obtain rfl := Except.ok.inj keyed
    exact inherited.literal _
  | float value =>
    obtain rfl := Except.ok.inj keyed
    exact inherited.floats value
  | _ => cases keyed

/-- One more pair of a dictionary. -/
theorem Inherited.of_addPair (inherited : Inherited py keys holds) {entries next : Dict Text Json} {pair : Json}
    (whole : holds pair) (before : ∀ item ∈ entries.entries, keys item.1 ∧ holds item.2)
    (added : addPair py entries pair = .ok next) : ∀ item ∈ next.entries, keys item.1 ∧ holds item.2 := by
  obtain ⟨items, read, added⟩ := bind_eq_ok.mp added
  have parts := inherited.of_iterated whole read
  split at added
  · next key value =>
    obtain ⟨name, keyed, added⟩ := bind_eq_ok.mp added
    obtain rfl := Except.ok.inj added
    intro item member
    rcases Dict.mem_entries_set member with rfl | old
    · exact ⟨inherited.of_dictKey (parts key List.mem_cons_self) keyed,
        parts value (List.mem_cons_of_mem _ List.mem_cons_self)⟩
    · exact before item old
  · cases added

/-- A dictionary of some pairs. -/
theorem Inherited.of_addPairs (inherited : Inherited py keys holds) {pairs : List Json}
    {entries made : Dict Text Json}
    (whole : ∀ pair ∈ pairs, holds pair) (before : ∀ item ∈ entries.entries, keys item.1 ∧ holds item.2)
    (folded : pairs.foldlM (addPair py) entries = .ok made) :
    ∀ item ∈ made.entries, keys item.1 ∧ holds item.2 := by
  induction pairs generalizing entries with
  | nil =>
    obtain rfl := Except.ok.inj folded
    exact before
  | cons pair rest ih =>
    obtain ⟨here, later⟩ := List.forall_mem_cons.mp whole
    rw [List.foldlM_cons] at folded
    obtain ⟨next, added, folded⟩ := bind_eq_ok.mp folded
    exact ih later (inherited.of_addPair here before added) folded

/-- What a dictionary is made of. -/
theorem Inherited.of_dictOf (inherited : Inherited py keys holds) {value : Json} (whole : holds value)
    {entries : JsonObject} (made : dictOf py value = .ok entries) :
    ∀ item ∈ entries, keys item.1 ∧ holds item.2 := by
  by_cases object : ∃ items, value = .obj items
  · obtain ⟨items, rfl⟩ := object
    obtain rfl := Except.ok.inj made
    exact inherited.entries _ whole
  · have pairs : ∃ pairs dict, iterated value = .ok pairs ∧ pairs.foldlM (addPair py) Dict.empty = .ok dict ∧
        dict.entries = entries := by
      cases value with
      | obj items => exact (object ⟨items, rfl⟩).elim
      | _ =>
        obtain ⟨pairs, read, made⟩ := bind_eq_ok.mp made
        obtain ⟨dict, folded, made⟩ := bind_eq_ok.mp made
        exact ⟨pairs, dict, read, folded, Except.ok.inj made⟩
    obtain ⟨pairs, dict, read, folded, rfl⟩ := pairs
    exact inherited.of_addPairs (inherited.of_iterated whole read) (List.forall_mem_nil _) folded

end Inherited

/-- A dictionary of a well-formed value has each key once. -/
theorem dictOf_formed {value : Json} (formed : value.WellFormed) {entries : JsonObject}
    (made : dictOf py value = .ok entries) : (Json.obj entries).WellFormed := by
  refine Json.wellFormed_obj.mpr
    ⟨?_, fun item member => ((inherited_formed py).of_dictOf formed made item member).2⟩
  cases value with
  | obj items =>
    obtain rfl := Except.ok.inj made
    exact (Json.wellFormed_obj.mp formed).1
  | _ =>
    obtain ⟨pairs, _, made⟩ := bind_eq_ok.mp made
    obtain ⟨dict, _, made⟩ := bind_eq_ok.mp made
    obtain rfl := Except.ok.inj made
    exact dict.nodup

/-! ### Records -/

theorem clean_field {document : JsonObject} (clean : Json.Clean py (.obj document)) {key : Text} {value : Json}
    (found : Json.get? document key = some value) : Json.Clean py value := by
  obtain ⟨before, after, split, _⟩ := List.lookup_eq_some_iff.mp (found : document.lookup key = some value)
  exact (Json.clean_obj.mp clean (key, value) (by rw [split]; exact List.mem_append_right _ List.mem_cons_self)).2

theorem clean_fieldOf {document : JsonObject} (clean : Json.Clean py (.obj document)) (key : Text) :
    Json.Clean py (fieldOf document key) := by
  unfold fieldOf
  cases found : Json.get? document key with
  | none => exact Utf8.clean_ofString _
  | some value => exact clean_field clean found

/-- A node has the text of its record. -/
theorem clean_node {record : Json} {node : Node} (formed : record.WellFormed)
    (parsed : nodeFromDocument py record = .ok node) (clean : Json.Clean py record) :
    Json.Clean py (.obj node.asDocument) := by
  unfold Json.Clean
  rw [Json.compactText_congr (node_lossless formed parsed)]
  exact clean

/-- An edge has its texts out of its record. -/
theorem clean_edge (hides : HidesSurrogates py) {record : Json} {edge : Edge} (formed : record.WellFormed)
    (parsed : edgeFromDocument py record = .ok edge) (clean : Json.Clean py record) :
    Json.Clean py (.obj edge.asDocument) := by
  obtain ⟨document, rfl, _, kept⟩ := edge_ok parsed
  have field (key : Text) : Json.Clean py (fieldOf document key) := clean_fieldOf clean key
  have evidence : ∀ item ∈ edge.evidence, Json.Clean py (.obj item) := by
    intro entries member
    obtain ⟨items, listed, read⟩ := kept.evidence
    obtain ⟨item, inside, raw, made, rfl⟩ := forall₂_right read member
    have listed : iterated (fieldOf document "evidence") = .ok items := mapError_eq_ok.mpr listed
    have whole := (inherited_clean hides).of_iterated (field "evidence") listed item inside
    have sound := (inherited_formed py).of_iterated (fieldOf_formed formed "evidence") listed item inside
    have same : Json.normalEntries raw = raw := Json.obj.inj (Json.normal_eq _ (dictOf_formed sound made))
    rw [same]
    exact Json.clean_obj.mpr ((inherited_clean hides).of_dictOf whole made)
  obtain ⟨key, other, target, names, found, _, aimed⟩ := kept.target
  have named : Utf8.Clean key := by
    have each : ∀ name ∈ targetFields, Utf8.Clean name := by simp [targetFields]
    exact each key ((names key).mpr (.inl rfl))
  have target : Json.Clean py (.str target) := clean_field clean (optionalField_some found)
  have id := kept.id ▸ field "id"
  have sourceId := kept.sourceId ▸ field "source_id"
  have targetProjectId := kept.targetProjectId ▸ field "target_project_id"
  have kind := kept.kind ▸ field "kind"
  have resolution := kept.resolution ▸ field "resolution"
  have analyzerId := kept.analyzerId ▸ field "analyzer_id"
  have items : Json.Clean py (.arr (edge.evidence.map .obj)) :=
    Json.clean_arr.mpr (List.forall_mem_map.mpr evidence)
  rw [Json.clean_obj]
  simp [Edge.asDocument, aimed, named, target, id, sourceId, targetProjectId, kind, resolution, analyzerId, items]

/-! ### Graphs -/

/-- The documents of a graph hold no lone surrogate. -/
structure Graph.Printable (py : Interpreter) (graph : Graph) : Prop where
  nodes : ∀ node ∈ graph.nodes, Json.Clean py (.obj node.asDocument)
  edges : ∀ edge ∈ graph.edges, Json.Clean py (.obj edge.asDocument)
  coverage : Json.Clean py (.obj graph.coverageDocument)

/-- The fields that are shown of a coverage block. -/
theorem clean_coverageDocument {graph : Graph}
    (block : ∀ entries, graph.coverage = some entries → Json.Clean py (.obj entries)) :
    Json.Clean py (.obj graph.coverageDocument) := by
  unfold Graph.coverageDocument
  split
  · exact Json.clean_obj.mpr (List.forall_mem_nil _)
  · next entries found =>
    refine Json.clean_obj.mpr fun item member => ?_
    obtain ⟨key, listed, shown⟩ := List.mem_filterMap.mp member
    obtain ⟨value, got, rfl⟩ := Option.map_eq_some_iff.mp shown
    refine ⟨?_, clean_field (block entries found) got⟩
    have each : ∀ name ∈ (["status", "input_files", "processed_files", "unresolved_references",
        "unsupported_patterns"] : List Text), Utf8.Clean name := by simp
    exact each key listed

/-- **The graph of shards without lone surrogates has none in its documents.** -/
theorem graphFromSnapshot_clean (hides : HidesSurrogates py) {snapshot : Snapshot.LoadedSnapshot} {graph : Graph}
    (formed : ∀ shard ∈ snapshot.shards, shard.document.WellFormed)
    (clean : ∀ shard ∈ snapshot.shards, Json.Clean py shard.document)
    (built : graphFromSnapshot py snapshot = .ok graph) : graph.Printable py := by
  obtain ⟨_, nodes, edges⟩ := graphFromSnapshot_records built
  refine ⟨fun node member => ?_, fun edge member => ?_, clean_coverageDocument fun entries found => ?_⟩
  · obtain ⟨shard, inside, _, records, record, read, among, parsed⟩ := nodes node member
    exact clean_node ((inherited_formed py).of_iterated (formed shard inside) read record among) parsed
      ((inherited_clean hides).of_iterated (clean shard inside) read record among)
  · obtain ⟨shard, inside, _, records, record, read, among, parsed⟩ := edges edge member
    exact clean_edge hides ((inherited_formed py).of_iterated (formed shard inside) read record among) parsed
      ((inherited_clean hides).of_iterated (clean shard inside) read record among)
  · have block := (graphFromSnapshot_block built).symm.trans found
    obtain ⟨document, last, made⟩ := Option.bind_eq_some_iff.mp block
    obtain ⟨shard, here, rfl⟩ := Option.map_eq_some_iff.mp last
    have inside : shard ∈ snapshot.shards := (List.mem_filter.mp (List.mem_of_getLast? here)).1
    have made : dictOf py shard.document = .ok entries := by
      cases read : dictOf py shard.document with
      | error fault =>
        rw [read] at made
        cases made
      | ok other =>
        rw [read] at made
        rw [Option.some.inj made]
    exact Json.clean_obj.mpr ((inherited_clean hides).of_dictOf (clean shard inside) made)

/-! ### What is listed -/

theorem clean_shownField {shown : Bool} {name : Text} {value : Json} (named : Utf8.Clean name)
    (clean : Json.Clean py value) :
    ∀ item ∈ shownField shown name value, Utf8.Clean item.1 ∧ Json.Clean py item.2 := by
  unfold shownField
  split
  · exact List.forall_mem_singleton.mpr ⟨named, clean⟩
  · exact List.forall_mem_nil _

/-- A document that shows a node of such a scope holds no lone surrogate. -/
theorem Shows.clean {scope : GraphSet} {document : JsonObject} (shows : Shows scope document)
    (printable : ∀ graph ∈ scope.members, graph.Printable py) : Json.Clean py (.obj document) := by
  have whole {node : Node} (pinned : node ∈ scope.allNodes) : Json.Clean py (.obj node.asDocument) := by
    obtain ⟨graph, among, here⟩ := List.mem_flatMap.mp pinned
    exact (printable graph among).nodes node here
  cases shows with
  | whole node pinned same =>
    rw [same]
    exact whole pinned
  | projected node pinned sections relations related coverage covers same =>
    have own := Json.clean_obj.mp (whole pinned)
    have ids (edgeIds : List Text) (inside : ∀ edgeId ∈ edgeIds, edgeId ∈ relations.incoming ++
      relations.outgoing) :
        Json.Clean py (texts (sortedBy id edgeIds)) := by
      refine Json.clean_arr.mpr (List.forall_mem_map.mpr fun edgeId member => Json.clean_str.mpr ?_)
      exact clean_sha256 (related edgeId (inside edgeId ((mem_sortedBy _ _).mp member)))
    have block : Json.Clean py (.obj coverage) := by
      rcases covers with rfl | ⟨graph, among, rfl⟩
      · exact Json.clean_obj.mpr (List.forall_mem_nil _)
      · exact (printable graph among).coverage
    have identity : node.identityFields ⊆ node.asDocument := by
      simp [Node.identityFields, Node.asDocument]
    have source : Json.Clean py node.source.asDocument :=
      (own ("source", node.source.asDocument) (by simp [Node.asDocument])).2
    have edgeIds : Json.Clean py (.obj [("incoming", texts (sortedBy id relations.incoming)),
        ("outgoing", texts (sortedBy id relations.outgoing))]) := by
      rw [Json.clean_obj]
      simp [ids _ fun _ => List.mem_append_left _, ids _ fun _ => List.mem_append_right _]
    rw [same, Json.clean_obj, projectNode]
    refine List.forall_mem_append.mpr ⟨List.forall_mem_append.mpr ⟨List.forall_mem_append.mpr
      ⟨fun item member => own item (identity member), ?_⟩, ?_⟩, ?_⟩
    · exact clean_shownField (Utf8.clean_ofString _) source
    · exact clean_shownField (Utf8.clean_ofString _) edgeIds
    · exact clean_shownField (Utf8.clean_ofString _) block

/-- **What an answer lists of such a scope holds no lone surrogate.** -/
theorem listed_clean {scope : GraphSet} {nodes edges : List JsonObject} (lists : ListsPinned scope nodes edges)
    (printable : ∀ graph ∈ scope.members, graph.Printable py) :
    ∀ document ∈ nodes ++ edges, Json.Clean py (.obj document) := by
  intro document member
  rcases List.mem_append.mp member with listed | listed
  · exact (lists.nodes document listed).clean printable
  · obtain ⟨edge, pinned, rfl⟩ := lists.edges document listed
    obtain ⟨graph, among, here⟩ := List.mem_flatMap.mp pinned
    exact (printable graph among).edges edge here

end AxiomMcp.Query
