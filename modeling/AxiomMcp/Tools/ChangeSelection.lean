/-
**A comparison of selected projects.**

`changes(head, baseline, project_ids=...)` narrows the head to the selection and compares it with the whole
baseline. `SelectionCommutes` says what selecting promises: the comparison is made, and its changes are those of
the whole comparison, of the selected projects.

`selection_commutes_iff`: **for two scopes that can be compared this holds exactly if the selection is all of
their projects, each once.** Every other selection is answered `incompatible_scope`, or refused.
-/

import AxiomMcp.Query.Narrowing
import AxiomMcp.Tools.ChangeFacts

namespace AxiomMcp.Tools

open Lib
open Query

/-- The comparison of a selection is the part of the whole comparison about the selected projects. -/
def SelectionCommutes (head baseline : GraphSet) (selection : List Text) : Prop :=
  ∃ selected whole, changes head (some baseline) (some selection) = .ok selected ∧ selected.comparable = true ∧
    changes head (some baseline) none = .ok whole ∧
    selected.projects = whole.projects.filter fun item => decide (item.1 ∈ selection)

section Selection

variable {head baseline chosen : GraphSet} {selection : List Text}

/-- Pinned projects have the form of one. -/
theorem identifiers_pinned (pinned : ∀ projectId ∈ selection, projectId ∈ head.projectIds) :
    identifiers "project_id" selection = .ok selection := by
  have selects : ∀ projectId ∈ selection,
      projectId ∈ head.projectIds ∨ projectId ∈ head.missingProjects := fun projectId selected =>
    Or.inl (pinned projectId selected)
  exact identifiers_selection selects "project_id"

/-- The chosen members are those of the selected projects, in the order of the selection. -/
theorem chooseHead_members (pinned : ∀ projectId ∈ selection, projectId ∈ head.projectIds)
    (chose : chooseHead head (some selection) = .ok chosen) :
    chosen.members.map Graph.projectId = selection ∧ chosen.members ⊆ head.members := by
  unfold chooseHead at chose
  dsimp only at chose
  rw [identifiers_pinned pinned, ok_bind] at chose
  obtain ⟨order, _⟩ := admitAll_selection (init_members chose)
  refine ⟨order, fun graph member => ?_⟩
  rcases mem_admitAll (init_members chose) member with none | offered
  · exact (List.not_mem_nil none).elim
  · obtain ⟨projectId, _, found⟩ := List.mem_map.mp offered
    exact (graph_ok.mp found).1

/-- A selection that repeats nothing is chosen. -/
theorem chooseHead_of_nodup (pinned : ∀ projectId ∈ selection, projectId ∈ head.projectIds)
    (distinct : selection.Nodup) : ∃ chosen, chooseHead head (some selection) = .ok chosen := by
  obtain ⟨admitted, admission⟩ := @admitAll_of_nodup head selection []
    (fun _ none => (List.not_mem_nil none).elim) pinned distinct
  have nothing : ∀ projectId ∈ ([] : List Text), projectId ∉ admitted.map Graph.projectId :=
    fun _ none => (List.not_mem_nil none).elim
  obtain ⟨chosen, built⟩ := init_of_admitted admission rfl nothing
  refine ⟨chosen, ?_⟩
  unfold chooseHead
  dsimp only
  rw [identifiers_pinned pinned, ok_bind]
  exact built

/-- Members of a scope are found in a scope that holds them. -/
theorem graph?_of_subset (members : chosen.members ⊆ head.members) {projectId : Text}
    (pinned : projectId ∈ chosen.projectIds) : chosen.graph? projectId = head.graph? projectId := by
  obtain ⟨graph, member, named⟩ := GraphSet.mem_projectIds.mp pinned
  rw [GraphSet.graph?_eq_some.mpr ⟨member, named⟩, GraphSet.graph?_eq_some.mpr ⟨members member, named⟩]

/-- All of the projects, chosen in any order, are comparable with the baseline as the head is. -/
theorem comparable_of_all (members : chosen.members ⊆ head.members)
    (all : chosen.projectIds = head.projectIds) (comparable : Comparable head baseline) :
    Comparable chosen baseline := by
  have graphs : chosen.graphs = head.graphs := by
    unfold GraphSet.graphs
    rw [← all]
    exact List.filterMap_congr fun projectId pinned => graph?_of_subset members pinned
  have schema : schemaOf chosen = schemaOf head := by
    unfold schemaOf
    rw [graphs]
  exact ⟨all.trans comparable.projects, comparable.schemas.imp fun _ known => ⟨schema.trans known.1, known.2⟩⟩

/-- **Selecting projects commutes with the comparison exactly if all of them are selected, each once.** -/
theorem selection_commutes_iff (comparable : Comparable head baseline)
    (pinned : ∀ projectId ∈ selection, projectId ∈ head.projectIds) :
    SelectionCommutes head baseline selection ↔ selection.Perm head.projectIds := by
  constructor
  · rintro ⟨selected, _, answered, compared, _, _⟩
    obtain ⟨chosen, chose, between⟩ := bind_eq_ok.mp answered
    obtain ⟨order, _⟩ := chooseHead_members pinned chose
    have narrowed : changes chosen (some baseline) none = .ok selected := between
    have same : chosen.projectIds = baseline.projectIds := (changes_compared narrowed compared).1.projects
    rw [comparable.projects, ← same, GraphSet.projectIds, order]
    exact (sortedBy_perm id selection).symm
  · intro all
    have distinct : selection.Nodup := all.nodup_iff.mpr (sortedBy_nodup _ _ head.projects_nodup)
    obtain ⟨chosen, chose⟩ := chooseHead_of_nodup pinned distinct
    obtain ⟨order, members⟩ := chooseHead_members pinned chose
    have projects : chosen.projectIds = head.projectIds := by
      have sorted : sortedBy id selection = sortedBy id head.projectIds :=
        sortedBy_eq_of_perm all fun _ _ _ _ equal => equal
      rw [GraphSet.projectIds, order, sorted]
      exact sortedBy_of_pairwise (sortedBy_pairwise _ _)
    obtain ⟨selected, answered, made⟩ :=
      changes_comparable (comparable_of_all members projects comparable)
    obtain ⟨whole, answered', made'⟩ := changes_comparable comparable
    obtain ⟨_, each, _⟩ := changes_compared answered made
    obtain ⟨_, each', _⟩ := changes_compared answered' made'
    -- a diff with the chosen members is a diff with the head's
    have lifted : List.Forall₂ (Compared head baseline) head.projectIds selected.projects := by
      rw [← projects]
      refine each.imp fun project item compared => ?_
      obtain ⟨headGraph, member, rest⟩ := compared
      exact ⟨headGraph, members member, rest⟩
    have same : selected.projects = whole.projects := compared_unique lifted each'
    refine ⟨selected, whole, ?_, made, answered', ?_⟩
    · exact bind_eq_ok.mpr ⟨chosen, chose, answered⟩
    · rw [same, List.filter_eq_self.mpr]
      intro item member
      have listed : item.1 ∈ whole.projects.map Prod.fst := List.mem_map_of_mem member
      rw [compared_projects each'] at listed
      exact decide_eq_true (all.mem_iff.mpr listed)

end Selection

/-! ### Two projects -/

/-- Two projects of schema major 1 without symbols. -/
def twoProjects : GraphSet :=
  plainScope [{ plainGraph "p" [] [] none (by decide) with schemaMajor := some 1 },
    { plainGraph "q" [] [] none (by decide) with schemaMajor := some 1 }] ⟨by decide, List.nodup_nil⟩

theorem twoProjects_comparable : Comparable twoProjects twoProjects := ⟨rfl, 1, by decide, by decide⟩

/-- One of two projects is selected, and the comparison is refused. -/
theorem selection_incompatible : ¬ ∀ (head baseline : GraphSet) (selection : List Text),
    Comparable head baseline → (∀ projectId ∈ selection, projectId ∈ head.projectIds) →
      SelectionCommutes head baseline selection := by
  intro all
  obtain ⟨selected, whole, answered, compared, _⟩ :=
    all twoProjects twoProjects ["p"] twoProjects_comparable (by decide)
  have refused : (changes twoProjects (some twoProjects) (some ["p"])).toOption.map ChangeResult.comparable =
      some false := by decide
  rw [answered] at refused
  exact absurd (compared.symm.trans (Option.some.inj refused)) (by decide)

/-- Both projects are selected. -/
theorem selection_commutes_both : SelectionCommutes twoProjects twoProjects ["q", "p"] :=
  (selection_commutes_iff twoProjects_comparable (by decide)).mpr (by decide)

end AxiomMcp.Tools
