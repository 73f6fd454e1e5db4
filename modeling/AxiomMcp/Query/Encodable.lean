/-
**When an envelope can be encoded (`query/envelope.py`, `query/budget.py`).**

Everything in an envelope besides the nodes and edges that it lists is an identifier, a digest, a fixed word or a
warning, and can be printed. So only the listed documents decide whether the packer finds a lone surrogate.

* `aggregateCoverage_warns`: what a scope without usable coverage warns of;
* `buildEnvelope_iff`: when an answer has an envelope;
* `unencodable_iff`: **an envelope cannot be encoded exactly if a document that it lists holds a
  lone surrogate**, and none an integer with too many digits, which is found first.
-/

import AxiomMcp.Query.Warned

namespace AxiomMcp.Query

open AxiomMcp.Lib

variable {py : Interpreter}

/-! ### Coverage -/

theorem limitedCoverage_warns (hides : HidesSurrogates py) (scope : GraphSet) (worst : ℕ) :
    ∀ warning ∈ (limitedCoverage py scope worst).2, Printed warning := by
  unfold limitedCoverage
  split
  · refine List.forall_mem_singleton.mpr (printed_format (by decide) (List.forall_mem_singleton.mpr ?_))
    exact clean_names (clean_pyRepr hides) ", " scope.missingProjects
  · split
    · exact List.forall_mem_singleton.mpr (printed_literal (by decide))
    · exact List.forall_mem_nil _

/-- An aggregate of members with a usable status. -/
theorem worst_passes {graphs : List Graph} (usable : ∀ graph ∈ graphs, usableStatus py graph = true) (first : ℕ) :
    ∃ worst, graphs.foldlM (worstCoverage py) first = .ok worst := by
  induction graphs generalizing first with
  | nil => exact ⟨first, rfl⟩
  | cons graph rest ih =>
    obtain ⟨here, later⟩ := List.forall_mem_cons.mp usable
    obtain ⟨worst, done⟩ := ih later (max first (severity (graph.coverageStatus py)))
    refine ⟨worst, ?_⟩
    rw [List.foldlM_cons, worstCoverage, if_pos here]
    exact done

/-- Coverage is aggregated exactly if every member has a usable status. -/
theorem aggregateCoverage_iff {scope : GraphSet} :
    (∃ aggregated, aggregateCoverage py scope = .ok aggregated) ↔
      ∀ graph ∈ scope.members, usableStatus py graph = true := by
  constructor
  · rintro ⟨⟨status, warnings⟩, aggregated⟩ graph member
    exact ((aggregateCoverage_ok aggregated).2.1 graph member).1
  · intro usable
    obtain ⟨worst, folded⟩ := worst_passes (fun graph member => usable graph (GraphSet.mem_graphs.mp member)) 0
    exact ⟨_, bind_eq_ok.mpr ⟨worst, folded, rfl⟩⟩

theorem aggregateCoverage_warns (hides : HidesSurrogates py) {scope : GraphSet} {status : Text}
    {warnings : List Text} (aggregated : aggregateCoverage py scope = .ok (status, warnings)) :
    Utf8.Clean status ∧ ∀ warning ∈ warnings, Printed warning := by
  obtain ⟨contract, _⟩ := aggregateCoverage_ok aggregated
  have fixed : ∀ status ∈ coverageSeverity, Utf8.Clean status := by
    simp [coverageSeverity]
  obtain ⟨worst, _, done⟩ := bind_eq_ok.mp aggregated
  obtain ⟨_, rfl⟩ := Prod.mk.inj (Except.ok.inj done)
  exact ⟨fixed status contract, limitedCoverage_warns hides scope worst⟩

/-! ### Envelopes -/

section Envelopes

variable {sha256 : Bytes → Text} {solutionId : Text} {scope : GraphSet} {parts : AnswerParts} {envelope : Envelope}

/-- An envelope that was built: the documents of its answer, in a header that can be printed. -/
structure Headed (py : Interpreter) (parts : AnswerParts) (envelope : Envelope) : Prop where
  nodes : envelope.nodes = parts.nodes
  edges : envelope.edges = parts.edges
  solution : Utf8.Clean envelope.solutionId
  generation : Utf8.Clean envelope.catalogGenerationId
  generations : ∀ pair ∈ envelope.generations, Utf8.Clean pair.1 ∧ Utf8.Clean pair.2
  freshness : Utf8.Clean envelope.freshness
  coverage : Utf8.Clean envelope.coverage
  verification : envelope.verification = {}
  warnings : ∀ warning ∈ envelope.warnings, Utf8.Clean warning

theorem buildEnvelope_headed (hides : HidesSurrogates py) (hex : ∀ bytes, Utf8.Clean (sha256 bytes))
    (warned : ∀ warning ∈ parts.warnings, Printed warning)
    (built : buildEnvelope py sha256 solutionId scope none {} parts = .ok envelope) : Headed py parts envelope := by
  obtain ⟨solution, named, built⟩ := bind_eq_ok.mp built
  obtain ⟨⟨coverage, limits⟩, aggregated, built⟩ := bind_eq_ok.mp built
  obtain ⟨warnings, checked, built⟩ := bind_eq_ok.mp built
  obtain rfl := Except.ok.inj built
  obtain ⟨status, limited⟩ := aggregateCoverage_warns hides aggregated
  refine ⟨rfl, rfl, ?_, hex _, fun pair member => ?_, Utf8.clean_ofString _, status, rfl, fun warning member => ?_⟩
  · unfold identifierText at named
    split at named
    · next identifier =>
      obtain rfl := Except.ok.inj named
      exact clean_identifier identifier
    · cases named
  · obtain ⟨graph, _, rfl⟩ := List.mem_map.mp member
    exact ⟨clean_identifier graph.projectId_identifier, clean_sha256 graph.generationId_digest⟩
  · unfold checkWarnings at checked
    split at checked
    · cases checked
    · obtain rfl := Except.ok.inj checked
      rcases List.mem_append.mp member with member | member
      · rcases List.mem_append.mp member with member | member
        · exact (warned warning member).clean
        · rw [List.mem_singleton.mp member]
          exact Utf8.clean_ofString _
      · exact (limited warning member).clean

/-- **An answer has an envelope exactly if the solution is an identifier and the coverage of every
member usable.** -/
theorem buildEnvelope_iff (hides : HidesSurrogates py) (warned : ∀ warning ∈ parts.warnings, Printed warning) :
    (∃ envelope, buildEnvelope py sha256 solutionId scope none {} parts = .ok envelope) ↔
      isIdentifier solutionId = true ∧ ∀ graph ∈ scope.members, usableStatus py graph = true := by
  constructor
  · rintro ⟨envelope, built⟩
    obtain ⟨solution, named, built⟩ := bind_eq_ok.mp built
    obtain ⟨aggregate, aggregated, built⟩ := bind_eq_ok.mp built
    refine ⟨?_, aggregateCoverage_iff.mp ⟨aggregate, aggregated⟩⟩
    unfold identifierText at named
    split at named
    · assumption
    · cases named
  · rintro ⟨identifier, usable⟩
    obtain ⟨⟨coverage, limits⟩, aggregated⟩ := aggregateCoverage_iff.mpr usable
    obtain ⟨_, limited⟩ := aggregateCoverage_warns hides aggregated
    have given : [] ∉ parts.warnings ++ (resolveFreshness py none {}).2 ++ limits := by
      intro member
      rcases List.mem_append.mp member with member | member
      · rcases List.mem_append.mp member with member | member
        · exact (warned [] member).given rfl
        · exact absurd (List.mem_singleton.mp member) (by decide)
      · exact (limited [] member).given rfl
    have named : (identifierText solutionId "solution_id").mapError
        (fun error => EnvelopeInvalid.mk (error.message py)) = .ok solutionId := by
      rw [identifierText, if_pos identifier]
      rfl
    have checked : checkWarnings (parts.warnings ++ (resolveFreshness py none {}).2 ++ limits) = .ok _ :=
      if_neg given
    exact ⟨_, bind_eq_ok.mpr ⟨_, named, bind_eq_ok.mpr ⟨_, aggregated, bind_eq_ok.mpr ⟨_, checked, rfl⟩⟩⟩⟩

theorem sendable_texts {items : List Text} (clean : ∀ item ∈ items, Utf8.Clean item) : (texts items).Sendable py :=
  Json.sendable_arr.mpr (List.forall_mem_map.mpr fun item member => Json.sendable_str.mpr (clean item member))

/-- What holds of objects and lists by their parts, and of all that can be printed and encoded, holds of an envelope
exactly if it holds of the documents that it lists. -/
theorem document_decided (headed : Headed py parts envelope) (keys : Text → Prop) (holds : Json → Prop)
    (literal : ∀ key : String, keys key)
    (object : ∀ entries : JsonObject, holds (.obj entries) ↔ ∀ item ∈ entries, keys item.1 ∧ holds item.2)
    (list : ∀ items : List Json, holds (.arr items) ↔ ∀ item ∈ items, holds item)
    (sendable : ∀ value : Json, value.Sendable py → holds value) :
    holds (.obj envelope.document.entries) ↔ ∀ document ∈ parts.nodes ++ parts.edges, holds (.obj document) := by
  have version : holds (.int envelopeSchemaVersion) := sendable _ (sendable_schemaVersion py)
  have solution : holds (.str envelope.solutionId) := sendable _ (Json.sendable_str.mpr headed.solution)
  have generation : holds (.str envelope.catalogGenerationId) :=
    sendable _ (Json.sendable_str.mpr headed.generation)
  have freshness : holds (.str envelope.freshness) := sendable _ (Json.sendable_str.mpr headed.freshness)
  have coverage : holds (.str envelope.coverage) := sendable _ (Json.sendable_str.mpr headed.coverage)
  have truncated : holds (.bool envelope.truncated) := by
    refine sendable _ ⟨rfl, ?_⟩
    cases envelope.truncated <;> exact Utf8.clean_ofString _
  have generations : holds (.arr (envelope.generations.map generationEntry)) := by
    refine sendable _ (Json.sendable_arr.mpr (List.forall_mem_map.mpr fun pair member => ?_))
    obtain ⟨project, digest⟩ := headed.generations pair member
    refine Json.sendable_obj.mpr (List.forall_mem_cons.mpr ⟨?_, List.forall_mem_singleton.mpr ?_⟩)
    · exact ⟨Utf8.clean_ofString _, Json.sendable_str.mpr project⟩
    · exact ⟨Utf8.clean_ofString _, Json.sendable_str.mpr digest⟩
  have verification : holds (.obj envelope.verification.asDocument) := by
    rw [headed.verification]
    refine sendable _ (Json.sendable_obj.mpr (List.forall_mem_singleton.mpr ?_))
    exact ⟨Utf8.clean_ofString _, Json.sendable_str.mpr (Utf8.clean_ofString _)⟩
  have warnings : holds (texts envelope.warnings) := sendable _ (sendable_texts headed.warnings)
  have listed (documents : List JsonObject) :
      holds (.arr (documents.map .obj)) ↔ ∀ document ∈ documents, holds (.obj document) := by
    rw [list, List.forall_mem_map]
  rw [object, List.forall_mem_append, ← headed.nodes, ← headed.edges]
  unfold Envelope.document
  simp only [List.forall_mem_cons, List.not_mem_nil, false_implies, implies_true, literal, version, solution,
    generation, freshness, coverage, truncated, generations, verification, warnings, listed, and_true, true_and]

/-- Why a document cannot be encoded. -/
theorem encodedSize_surrogate_iff {document : Dict Text Json} :
    encodedSize py document = .error .surrogate ↔
      (Json.obj document.entries).digitsFit py = true ∧ ¬ Json.Clean py (.obj document.entries) := by
  unfold encodedSize Json.dumps
  by_cases digits : (Json.obj document.entries).digitsFit py = true
  · rw [if_pos digits, and_iff_right digits]
    dsimp only
    by_cases clean : Utf8.Clean ((Json.obj document.entries).compactText py)
    · rw [Utf8.encode_of_clean clean]
      exact iff_of_false (fun wrong => nomatch wrong) fun dirty => dirty clean
    · rw [Utf8.encode_of_not_clean clean]
      exact iff_of_true rfl clean
  · rw [if_neg digits]
    exact iff_of_false (fun wrong => nomatch wrong) fun both => digits both.1

/-- **An envelope cannot be encoded exactly if a document that it lists holds a lone surrogate**,
and none an integer with too many digits. -/
theorem unencodable_iff (headed : Headed py parts envelope) :
    encodedSize py envelope.document = .error .surrogate ↔
      (∀ document ∈ parts.nodes ++ parts.edges, (Json.obj document).digitsFit py = true) ∧
        ∃ document ∈ parts.nodes ++ parts.edges, ¬ Json.Clean py (.obj document) := by
  have digits := document_decided headed (fun _ => True) (fun value => value.digitsFit py = true) (fun _ => trivial)
    (fun entries => by rw [Json.digitsFit, Json.digitsFitEntries_iff]; simp only [true_and])
    (fun items => by rw [Json.digitsFit, Json.digitsFitItems_iff]) fun _ sendable => sendable.1
  have clean := document_decided headed Utf8.Clean (Json.Clean py) Utf8.clean_ofString
    (fun _ => Json.clean_obj) (fun _ => Json.clean_arr) fun _ sendable => sendable.2
  rw [encodedSize_surrogate_iff, digits, clean]
  simp only [not_forall, exists_prop]

end Envelopes

end AxiomMcp.Query
