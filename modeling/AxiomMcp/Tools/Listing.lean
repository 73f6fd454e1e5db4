/-
**What an answer of `graph_query` lists.**

The handler takes the documents of an engine's answer, or the candidates of an ambiguous target, and adds warnings.

* `answer_lists`: **whatever the operation, an answer lists nodes and edges of its scope**;
* `answer_warns`: **whatever the operation, an answer warns of what can be printed**.
-/

import AxiomMcp.Query.Presented
import AxiomMcp.Query.Warned
import AxiomMcp.Tools.ChangeFacts

namespace AxiomMcp.Tools

open Lib
open Query

/-! ### What an answer lists -/

section Listed

variable {py : Interpreter} {scope : GraphSet} {arguments : JsonObject}

theorem partsOf_lists (answer : EngineAnswer)
    (lists : ListsPinned scope (answer.nodes ++ answer.candidates) answer.edges) :
    ListsPinned scope (partsOf py answer).nodes (partsOf py answer).edges := by
  unfold partsOf
  split
  · exact ⟨fun document member => lists.nodes document (List.mem_append_right _ member),
      fun _ wrong => nomatch wrong⟩
  · exact ⟨fun document member => lists.nodes document (List.mem_append_left _ member), lists.edges⟩

theorem callersParts_lists {result : CallersResult}
    (lists : ListsPinned scope (result.nodes ++ result.candidates) result.edges) :
    ListsPinned scope (callersParts py result).nodes (callersParts py result).edges := by
  unfold callersParts
  dsimp only
  split <;> exact partsOf_lists (ofCallers result) lists

theorem impactParts_lists {result : ImpactResult}
    (lists : ListsPinned scope (result.nodes ++ result.candidates) result.edges) :
    ListsPinned scope (impactParts py result).nodes (impactParts py result).edges := by
  unfold impactParts
  dsimp only
  split <;> exact partsOf_lists (ofImpact result) lists

theorem pathParts_lists {result : PathResult}
    (lists : ListsPinned scope (result.nodes ++ result.candidates) result.edges) :
    ListsPinned scope (pathParts py result).nodes (pathParts py result).edges := by
  unfold pathParts
  dsimp only
  split <;> exact partsOf_lists (ofPath result) lists

theorem engine_ok {α : Type} {result : Except QueryModelError α} {value : α} (done : engine py result = .ok value) :
    result = .ok value := mapError_eq_ok.mp done

/-- **A traversal lists what is pinned.** -/
theorem traversal_lists {operation : QueryOperation} {target : Text} {options : QueryOptions} {parts : AnswerParts}
    (done : traversal arguments py operation scope target options = .ok parts) :
    ListsPinned scope parts.nodes parts.edges := by
  unfold traversal at done
  split at done
  · obtain ⟨goal, _, done⟩ := bind_eq_ok.mp done
    obtain ⟨result, found, rfl⟩ := map_eq_ok.mp done
    exact pathParts_lists (path_lists (engine_ok found))
  · obtain ⟨result, found, rfl⟩ := map_eq_ok.mp done
    exact partsOf_lists (ofContext result) (context_lists (engine_ok found))
  · obtain ⟨result, found, rfl⟩ := map_eq_ok.mp done
    exact partsOf_lists (ofNeighbors result) (dependencies_lists (engine_ok found))
  · obtain ⟨result, found, rfl⟩ := map_eq_ok.mp done
    exact partsOf_lists (ofNeighbors result) (neighbors_lists (engine_ok found))
  · obtain ⟨result, found, rfl⟩ := map_eq_ok.mp done
    exact callersParts_lists (callers_lists (engine_ok found))
  · obtain ⟨result, found, rfl⟩ := map_eq_ok.mp done
    exact impactParts_lists (impact_lists (engine_ok found))

/-- A comparison with nothing lists nothing. -/
theorem changes_none {result : ChangeResult} (done : changes scope none none = .ok result) :
    result.comparable = false := by
  obtain ⟨head, _, done⟩ := bind_eq_ok.mp done
  obtain rfl := Except.ok.inj done
  rfl

/-- **The handler compares a scope with nothing or with itself**, and so lists nothing. -/
theorem changesAnswer_lists {sha256 : Lib.Bytes → Text} {result : ChangeResult}
    (done : changesAnswer arguments py sha256 scope = .ok result) :
    (changesParts arguments result).nodes = [] ∧ (changesParts arguments result).edges = [] := by
  have apart (incomparable : result.comparable = false) :
      (changesParts arguments result).nodes = [] ∧ (changesParts arguments result).edges = [] := by
    unfold changesParts
    rw [incomparable]
    exact ⟨rfl, rfl⟩
  unfold changesAnswer at done
  split at done
  · exact apart (changes_none (engine_ok done))
  · obtain ⟨baselineId, _, done⟩ := bind_eq_ok.mp done
    split at done
    · exact apart (changes_none (engine_ok done))
    · cases comparable : result.comparable with
      | false => exact apart comparable
      | true =>
        obtain ⟨_, compared, _⟩ := changes_compared (engine_ok done) comparable
        rw [changesParts_facts comparable]
        have same : ∀ item ∈ result.projects, item.2 = ⟨⟨[], [], []⟩, ⟨[], [], []⟩⟩ := by
          intro item member
          obtain ⟨graph, inside, other, inside', named, named', equal⟩ := (compared_of_mem compared member).pair
          obtain rfl := graph_unique inside inside' (named.trans named'.symm)
          rw [equal, diffGraphs_self]
        refine ⟨List.flatMap_eq_nil_iff.mpr fun item member => ?_,
          List.flatMap_eq_nil_iff.mpr fun item member => ?_⟩
        · rw [changedNodes, same item member]
          rfl
        · rw [changedEdges, same item member]
          rfl

/-- **Whatever the operation, an answer lists nodes and edges of its scope.** -/
theorem answer_lists {sha256 : Lib.Bytes → Text} {operation : QueryOperation} {parts : AnswerParts}
    (done : answer arguments py sha256 operation scope = .ok parts) :
    ListsPinned scope parts.nodes parts.edges := by
  obtain ⟨budgets, _, done⟩ := bind_eq_ok.mp done
  obtain ⟨projection, _, done⟩ := bind_eq_ok.mp done
  obtain ⟨edgeKinds, _, done⟩ := bind_eq_ok.mp done
  obtain ⟨direction, _, done⟩ := bind_eq_ok.mp done
  split at done
  · obtain ⟨query, _, done⟩ := bind_eq_ok.mp done
    obtain ⟨result, _, done⟩ := bind_eq_ok.mp done
    obtain ⟨nodes, listed, done⟩ := bind_eq_ok.mp done
    obtain rfl := Except.ok.inj done
    refine ⟨shows_mapM (mapError_eq_ok.mp listed) fun item _ document shown => ?_, fun _ wrong => nomatch wrong⟩
    obtain ⟨node, found, rfl⟩ := map_eq_ok.mp shown
    exact .whole node (GraphSet.node_ok.mp found).1 rfl
  · obtain ⟨result, found, rfl⟩ := map_eq_ok.mp done
    obtain ⟨nodes, edges⟩ := changesAnswer_lists found
    rw [nodes, edges]
    exact ⟨fun _ wrong => (nomatch wrong), fun _ wrong => nomatch wrong⟩
  · obtain ⟨target, _, done⟩ := bind_eq_ok.mp done
    exact traversal_lists done

end Listed

/-! ### What an answer warns of -/

section Warned

variable {py : Interpreter} (hides : HidesSurrogates py) {scope : GraphSet} {arguments : JsonObject}

include hides

theorem partsOf_warns {answer : EngineAnswer} (warned : ∀ warning ∈ answer.warnings, Printed warning) :
    ∀ warning ∈ (partsOf py answer).warnings, Printed warning := by
  have ambiguity : Printed (ambiguityWarning py (answer.target.getD []) answer.candidates.length) :=
    printed_format (by decide) (by simp [clean_pyRepr hides])
  have truncation : ∀ warning ∈ truncationNote answer, Printed warning := by
    unfold truncationNote
    split
    · refine List.forall_mem_singleton.mpr (printed_format (by decide) ?_)
      have reasons : Utf8.Clean (if answer.reasons = [] then ("an expansion bound" : Text)
          else Text.join ", " (answer.reasons.map WalkReason.name)) := by
        split
        · exact Utf8.clean_ofString _
        · exact clean_names WalkReason.clean_name ", " answer.reasons
      simp [reasons]
    · exact List.forall_mem_nil _
  unfold partsOf
  split
  · exact List.forall_mem_append.mpr ⟨warned, List.forall_mem_cons.mpr ⟨ambiguity, truncation⟩⟩
  · exact List.forall_mem_append.mpr ⟨warned, truncation⟩

omit hides in
theorem warned_warns {parts : AnswerParts} {warning : Text} (before : ∀ other ∈ parts.warnings, Printed other)
    (printed : Printed warning) : ∀ other ∈ (warned parts warning).warnings, Printed other :=
  List.forall_mem_append.mpr ⟨before, List.forall_mem_singleton.mpr printed⟩

theorem callersParts_warns {result : CallersResult} (warned : ∀ warning ∈ result.warnings, Printed warning) :
    ∀ warning ∈ (callersParts py result).warnings, Printed warning := by
  have parts : ∀ warning ∈ (partsOf py (ofCallers result)).warnings, Printed warning :=
    partsOf_warns hides warned
  unfold callersParts
  dsimp only
  split
  · exact parts
  · exact warned_warns parts (printed_literal (by decide))

theorem impactParts_warns {result : ImpactResult} (warned : ∀ warning ∈ result.warnings, Printed warning) :
    ∀ warning ∈ (impactParts py result).warnings, Printed warning := by
  have parts : ∀ warning ∈ (partsOf py (ofImpact result)).warnings, Printed warning :=
    partsOf_warns hides warned
  unfold impactParts
  dsimp only
  split
  · exact parts
  · exact warned_warns parts (printed_format (by decide) (by simp))

theorem pathParts_warns {result : PathResult} (warned : ∀ warning ∈ result.warnings, Printed warning) :
    ∀ warning ∈ (pathParts py result).warnings, Printed warning := by
  have parts : ∀ warning ∈ (partsOf py (ofPath result)).warnings, Printed warning :=
    partsOf_warns hides warned
  unfold pathParts
  dsimp only
  split
  · exact parts
  · exact warned_warns parts (printed_literal (by decide))

theorem traversal_warns {operation : QueryOperation} {target : Text} {options : QueryOptions} {parts : AnswerParts}
    (done : traversal arguments py operation scope target options = .ok parts) :
    ∀ warning ∈ parts.warnings, Printed warning := by
  unfold traversal at done
  split at done
  · obtain ⟨goal, _, done⟩ := bind_eq_ok.mp done
    obtain ⟨result, found, rfl⟩ := map_eq_ok.mp done
    exact pathParts_warns hides (path_warns hides (engine_ok found))
  · obtain ⟨result, found, rfl⟩ := map_eq_ok.mp done
    exact partsOf_warns hides (context_warns hides (engine_ok found))
  · obtain ⟨result, found, rfl⟩ := map_eq_ok.mp done
    exact partsOf_warns hides (neighbourTraversal_warns hides (engine_ok found))
  · obtain ⟨result, found, rfl⟩ := map_eq_ok.mp done
    exact partsOf_warns hides (neighbourTraversal_warns hides (engine_ok found))
  · obtain ⟨result, found, rfl⟩ := map_eq_ok.mp done
    exact callersParts_warns hides (callers_warns hides (engine_ok found))
  · obtain ⟨result, found, rfl⟩ := map_eq_ok.mp done
    exact impactParts_warns hides (impact_warns hides (engine_ok found))

omit hides in
theorem changesAnswer_warns {sha256 : Lib.Bytes → Text} {result : ChangeResult}
    (done : changesAnswer arguments py sha256 scope = .ok result) :
    ∀ warning ∈ (changesParts arguments result).warnings, Printed warning := by
  have warned : ∀ warning ∈ result.warnings, Printed warning := by
    unfold changesAnswer at done
    split at done
    · exact changes_warns (engine_ok done)
    · obtain ⟨baselineId, _, done⟩ := bind_eq_ok.mp done
      split at done <;> exact changes_warns (engine_ok done)
  unfold changesParts
  split
  · exact warned
  · refine List.forall_mem_append.mpr ⟨warned, List.forall_mem_singleton.mpr ?_⟩
    unfold notComparableReason
    split
    · exact printed_format (by decide) (by simp [ChangeStatus.clean_name])
    · split <;> exact printed_format (by decide) (by simp)

/-- **Whatever the operation, an answer warns of what can be printed.** -/
theorem answer_warns {sha256 : Lib.Bytes → Text} {operation : QueryOperation} {parts : AnswerParts}
    (done : answer arguments py sha256 operation scope = .ok parts) :
    ∀ warning ∈ parts.warnings, Printed warning := by
  obtain ⟨budgets, _, done⟩ := bind_eq_ok.mp done
  obtain ⟨projection, _, done⟩ := bind_eq_ok.mp done
  obtain ⟨edgeKinds, _, done⟩ := bind_eq_ok.mp done
  obtain ⟨direction, _, done⟩ := bind_eq_ok.mp done
  split at done
  · obtain ⟨query, _, done⟩ := bind_eq_ok.mp done
    obtain ⟨result, found, done⟩ := bind_eq_ok.mp done
    obtain ⟨nodes, _, done⟩ := bind_eq_ok.mp done
    obtain rfl := Except.ok.inj done
    have warned := search_warns (engine_ok found)
    unfold searchParts
    dsimp only
    split
    · refine List.forall_mem_append.mpr ⟨warned, List.forall_mem_singleton.mpr (printed_format (by decide) ?_)⟩
      simp [clean_pyRepr hides]
    · exact warned
  · obtain ⟨result, found, rfl⟩ := map_eq_ok.mp done
    exact changesAnswer_warns found
  · obtain ⟨target, _, done⟩ := bind_eq_ok.mp done
    exact traversal_warns hides done

end Warned

end AxiomMcp.Tools
