/-
**Narrowing a scope to a selection of its projects.**

`narrow_scope` keeps the missing members that are selected, but it looks every selected project up among
the pinned ones first: a selection with a missing member is refused, and so is one that repeats a project.

* `admitAll_selection`: what the constructor admits of a selection;
* `narrowScope_ok_iff`: a selection is accepted if and only if it repeats nothing and every project of it is
  pinned, and the narrowed scope then pins exactly the selection;
* `callers_missing`, `impact_missing`, `path_missing`: an answer reports the missing members of the scope it
  is narrowed to;
* `narrowing_right_iff`: **narrowing is right exactly for a selection of pinned projects without repetition**.
-/

import AxiomMcp.Query.Impact
import AxiomMcp.Query.Path

namespace AxiomMcp.Query

open AxiomMcp.Lib

variable {scope : GraphSet} {selection : List Text}

/-! ### What is admitted of a selection -/

/-- Looking the selected projects up and admitting them: all are pinned, and they are admitted in order. -/
theorem admitAll_selection {members admitted : List Graph}
    (accepted : admitAll members (selection.map scope.graph) = .ok admitted) :
    admitted.map Graph.projectId = members.map Graph.projectId ++ selection ∧
      ∀ projectId ∈ selection, projectId ∈ scope.projectIds := by
  induction selection generalizing members with
  | nil =>
    cases accepted
    exact ⟨(List.append_nil _).symm, fun _ none => (List.not_mem_nil none).elim⟩
  | cons projectId rest ih =>
    rw [List.map_cons] at accepted
    cases found : scope.graph projectId with
    | error refused =>
      rw [found] at accepted
      cases accepted
    | ok graph =>
      rw [found] at accepted
      have known : scope.graph? projectId = some graph := by
        unfold GraphSet.graph at found
        split at found
        · next other here =>
          cases found
          exact here
        · cases found
      obtain ⟨member, rfl⟩ := GraphSet.graph?_eq_some.mp known
      cases one : admitGraph members graph with
      | error refused =>
        simp only [admitAll, one] at accepted
        cases accepted
      | ok next =>
        simp only [admitAll, one] at accepted
        obtain ⟨rfl, _⟩ := admitGraph_ok one
        obtain ⟨order, pinned⟩ := ih accepted
        refine ⟨?_, fun other selected => ?_⟩
        · rw [order, List.map_append, List.append_assoc]
          rfl
        · rcases List.mem_cons.mp selected with rfl | later
          · exact GraphSet.mem_projectIds.mpr ⟨graph, member, rfl⟩
          · exact pinned other later

/-- A graph that is new by project and by node ids is admitted. -/
theorem admitGraph_of_fresh {members : List Graph} {graph : Graph}
    (project : graph.projectId ∉ members.map Graph.projectId)
    (nodes : ∀ node ∈ graph.nodes, node.id ∉ (members.flatMap Graph.nodes).map Node.id) :
    admitGraph members graph = .ok (members ++ [graph]) := by
  unfold admitGraph
  have fresh : members.find? (fun other => decide (other.projectId = graph.projectId)) = none := by
    refine List.find?_eq_none.mpr fun other member same => project ?_
    exact List.mem_map.mpr ⟨other, member, of_decide_eq_true same⟩
  have apart : graph.nodes.find?
      (fun node => decide (node.id ∈ (members.flatMap Graph.nodes).map Node.id)) = none :=
    List.find?_eq_none.mpr fun node member known => nodes node member (of_decide_eq_true known)
  rw [fresh]
  dsimp only
  rw [apart]

/-- Two pinned graphs of different projects share no node id. -/
theorem node_ids_apart {a b : Graph} (left : a ∈ scope.members) (right : b ∈ scope.members)
    (different : a.projectId ≠ b.projectId) {node other : Node} (inA : node ∈ a.nodes)
    (inB : other ∈ b.nodes) : node.id ≠ other.id := by
  intro same
  have one : node = other := GraphSet.node_eq_of_id
    (List.mem_flatMap.mpr ⟨a, left, inA⟩) (List.mem_flatMap.mpr ⟨b, right, inB⟩) same
  rw [← a.node_project node inA, ← b.node_project other inB, one] at different
  exact different rfl

/-- A selection of pinned projects without repetition is admitted, behind others. -/
theorem admitAll_of_nodup {members : List Graph} (known : ∀ graph ∈ members, graph ∈ scope.members)
    (pinned : ∀ projectId ∈ selection, projectId ∈ scope.projectIds)
    (distinct : (members.map Graph.projectId ++ selection).Nodup) :
    ∃ admitted, admitAll members (selection.map scope.graph) = .ok admitted := by
  induction selection generalizing members with
  | nil => exact ⟨members, rfl⟩
  | cons projectId rest ih =>
    obtain ⟨graph, member, rfl⟩ := GraphSet.mem_projectIds.mp (pinned _ List.mem_cons_self)
    have found : scope.graph graph.projectId = .ok graph := by
      unfold GraphSet.graph
      rw [GraphSet.graph?_eq_some.mpr ⟨member, rfl⟩]
    have fresh : graph.projectId ∉ members.map Graph.projectId := fun before =>
      List.disjoint_of_nodup_append distinct before List.mem_cons_self
    have one : admitGraph members graph = .ok (members ++ [graph]) := by
      refine admitGraph_of_fresh fresh fun node inside before => ?_
      obtain ⟨other, holds, same⟩ := List.mem_map.mp before
      obtain ⟨earlier, there, inEarlier⟩ := List.mem_flatMap.mp holds
      refine node_ids_apart member (known earlier there) (fun equal => fresh ?_) inside inEarlier same.symm
      exact equal ▸ List.mem_map.mpr ⟨earlier, there, rfl⟩
    have later := @ih (members ++ [graph]) ?_ ?_ ?_
    · rw [List.map_cons, found]
      simp only [admitAll, one]
      exact later
    · intro other inside
      rcases List.mem_append.mp inside with before | here
      · exact known other before
      · exact List.mem_singleton.mp here ▸ member
    · exact fun other selected => pinned other (List.mem_cons_of_mem _ selected)
    · rw [List.map_append, List.append_assoc]
      exact distinct

/-! ### Accepted selections -/

/-- What narrowing to a selection promises: the selected pinned projects are pinned, and the selected missing
ones missing. -/
structure Narrowed (scope : GraphSet) (selection : List Text) (narrowed : GraphSet) : Prop where
  pins : ∀ projectId, projectId ∈ narrowed.projectIds ↔
    projectId ∈ selection ∧ projectId ∈ scope.projectIds
  missing : ∀ projectId, projectId ∈ narrowed.missingProjects ↔
    projectId ∈ selection ∧ projectId ∈ scope.missingProjects

/-- The projects of a selection have the form of one. -/
theorem identifiers_selection
    (selects : ∀ projectId ∈ selection,
      projectId ∈ scope.projectIds ∨ projectId ∈ scope.missingProjects) (what : Text) :
    identifiers what selection = .ok selection := by
  have valid : ∀ projectId ∈ selection, isIdentifier projectId = true := by
    intro projectId selected
    rcases selects projectId selected with pinned | missing
    · obtain ⟨graph, _, rfl⟩ := GraphSet.mem_projectIds.mp pinned
      exact graph.projectId_identifier
    · exact scope.missing_identifiers projectId missing
  clear selects
  induction selection with
  | nil => rfl
  | cons projectId rest ih =>
    rw [identifiers, if_pos (valid _ List.mem_cons_self),
      ih fun other later => valid other (List.mem_cons_of_mem _ later)]
    rfl

/-- The missing projects of a scope that is built. -/
theorem init_missing {graphs : List (Except QueryModelError Graph)} {missing : List Text}
    {built : GraphSet} (accepted : GraphSet.init graphs missing = .ok built) :
    built.missingProjects = sortedSet id missing := by
  unfold GraphSet.init at accepted
  split at accepted
  · cases accepted
  · split at accepted
    · cases accepted
    · next named =>
      obtain ⟨rfl, _⟩ := identifiers_ok named
      split at accepted
      · cases accepted
      · cases accepted
        rfl

/-- A scope is built of what is admitted and of missing projects that are not pinned. -/
theorem init_of_admitted {graphs : List (Except QueryModelError Graph)} {missing : List Text}
    {members : List Graph} (admission : admitAll [] graphs = .ok members)
    (named : identifiers "project_id" missing = .ok missing)
    (apart : ∀ projectId ∈ missing, projectId ∉ members.map Graph.projectId) :
    ∃ built, GraphSet.init graphs missing = .ok built := by
  unfold GraphSet.init
  split
  · next refused =>
    rw [admission] at refused
    cases refused
  · next admitted other =>
    obtain rfl := Except.ok.inj (admission.symm.trans other)
    split
    · next refused =>
      rw [named] at refused
      cases refused
    · next values accepted =>
      obtain rfl := Except.ok.inj (named.symm.trans accepted)
      split
      · next projectId overlap =>
        have inside := mem_sortedSet.mp (List.mem_of_find?_eq_some overlap)
        have pinned : projectId ∈ members.map Graph.projectId := by
          simpa using List.find?_some overlap
        exact (apart projectId inside pinned).elim
      · exact ⟨_, rfl⟩

/-- A missing project is not pinned. -/
theorem not_pinned_of_missing {projectId : Text} (missing : projectId ∈ scope.missingProjects) :
    projectId ∉ scope.projectIds := by
  intro pinned
  obtain ⟨graph, member, rfl⟩ := GraphSet.mem_projectIds.mp pinned
  exact scope.missing_not_pinned _ missing (List.mem_map.mpr ⟨graph, member, rfl⟩)

/-- **A selection is accepted if and only if it repeats nothing and all of it is pinned**, and the narrowed
scope is then what narrowing promises. -/
theorem narrowScope_ok_iff
    (selects : ∀ projectId ∈ selection,
      projectId ∈ scope.projectIds ∨ projectId ∈ scope.missingProjects) :
    (∃ narrowed, narrowScope scope (some selection) = .ok narrowed ∧ Narrowed scope selection narrowed) ↔
      selection.Nodup ∧ ∀ projectId ∈ selection, projectId ∈ scope.projectIds := by
  have called : narrowScope scope (some selection) = GraphSet.init (selection.map scope.graph)
      (scope.missingProjects.filter fun projectId => decide (projectId ∈ selection)) := by
    rw [narrowScope, identifiers_selection selects]
  rw [called]
  constructor
  · rintro ⟨narrowed, built, _⟩
    obtain ⟨order, pinned⟩ := admitAll_selection (init_members built)
    rw [List.map_nil, List.nil_append] at order
    exact ⟨order ▸ narrowed.projects_nodup, pinned⟩
  · rintro ⟨distinct, pinned⟩
    have nothing : (scope.missingProjects.filter fun projectId => decide (projectId ∈ selection)) = [] := by
      refine List.filter_eq_nil_iff.mpr fun projectId missing selected => ?_
      exact not_pinned_of_missing missing (pinned projectId (of_decide_eq_true selected))
    rw [nothing]
    obtain ⟨admitted, admission⟩ := @admitAll_of_nodup scope selection []
      (fun _ none => (List.not_mem_nil none).elim) pinned distinct
    obtain ⟨narrowed, built⟩ := init_of_admitted admission rfl fun _ none => (List.not_mem_nil none).elim
    have members : narrowed.members = admitted :=
      Except.ok.inj ((init_members built).symm.trans admission)
    obtain ⟨order, _⟩ := admitAll_selection admission
    rw [List.map_nil, List.nil_append] at order
    refine ⟨narrowed, built, fun projectId => ?_, fun projectId => ?_⟩
    · rw [GraphSet.projectIds, mem_sortedBy, members, order]
      exact ⟨fun selected => ⟨selected, pinned projectId selected⟩, And.left⟩
    · rw [init_missing built]
      refine iff_of_false (fun none => List.not_mem_nil (mem_sortedSet.mp none)) fun here => ?_
      exact not_pinned_of_missing here.2 (pinned projectId here.1)

/-! ### What the operations report -/

section Reports

variable {py : Interpreter} {target : Text} {options : QueryOptions}

theorem callers_missing {result : CallersResult} (answered : callers py scope target options = .ok result) :
    ∃ pinned, narrowScope scope options.projectIds = .ok pinned ∧
      result.missingProjects = pinned.missingProjects := by
  obtain ⟨request, accepted, answered⟩ := bind_eq_ok.mp answered
  refine ⟨request.pinned, (reverseRequest_ok accepted).1, ?_⟩
  obtain ⟨selected, _, answered⟩ := bind_eq_ok.mp answered
  cases selected with
  | ambiguous candidateIds =>
    obtain ⟨candidates, _, rfl⟩ := map_eq_ok.mp answered
    rfl
  | one resolved =>
    obtain ⟨walk, _, answered⟩ := bind_eq_ok.mp answered
    obtain ⟨nodes, _, rfl⟩ := map_eq_ok.mp answered
    rfl

theorem impact_missing {result : ImpactResult} (answered : impact py scope target options = .ok result) :
    ∃ pinned, narrowScope scope options.projectIds = .ok pinned ∧
      result.missingProjects = pinned.missingProjects := by
  obtain ⟨request, accepted, answered⟩ := bind_eq_ok.mp answered
  refine ⟨request.pinned, (reverseRequest_ok accepted).1, ?_⟩
  obtain ⟨selected, _, answered⟩ := bind_eq_ok.mp answered
  cases selected with
  | ambiguous candidateIds =>
    obtain ⟨candidates, _, rfl⟩ := map_eq_ok.mp answered
    rfl
  | one resolved =>
    obtain ⟨walk, _, answered⟩ := bind_eq_ok.mp answered
    obtain ⟨exactWalk, _, answered⟩ := bind_eq_ok.mp answered
    obtain ⟨depthLimited, _, answered⟩ := bind_eq_ok.mp answered
    obtain ⟨nodes, _, rfl⟩ := map_eq_ok.mp answered
    rfl

/-- Every answer of `path` for one request reports its missing members. -/
theorem answerPath_missing {request : DirectedRequest} {start goal : Node} {result : PathResult}
    (answered : answerPath py request start goal = .ok result) :
    result.missingProjects = request.pinned.missingProjects := by
  unfold answerPath at answered
  dsimp only at answered
  split at answered
  · obtain ⟨pathNodes, _, answered⟩ := bind_eq_ok.mp answered
    obtain ⟨nodes, _, answered⟩ := bind_eq_ok.mp answered
    obtain rfl := Except.ok.inj answered
    rfl
  · obtain ⟨visitedNodes, _, answered⟩ := bind_eq_ok.mp answered
    obtain rfl := Except.ok.inj answered
    rfl

theorem path_missing {targetTo : Text} {result : PathResult}
    (answered : path py scope target targetTo options = .ok result) :
    ∃ pinned, narrowScope scope options.projectIds = .ok pinned ∧
      result.missingProjects = pinned.missingProjects := by
  obtain ⟨request, accepted, answered⟩ := bind_eq_ok.mp answered
  refine ⟨request.pinned, (directedRequest_ok.mp accepted).pinned, ?_⟩
  obtain ⟨selected, _, answered⟩ := bind_eq_ok.mp answered
  cases selected with
  | ambiguous candidateIds =>
    obtain ⟨candidates, _, rfl⟩ := map_eq_ok.mp answered
    rfl
  | one start =>
    obtain ⟨other, _, answered⟩ := bind_eq_ok.mp answered
    cases other with
    | ambiguous candidateIds =>
      obtain ⟨candidates, _, rfl⟩ := map_eq_ok.mp answered
      rfl
    | one goal => exact answerPath_missing answered

end Reports

/-- The operations over a narrowed scope report missing members if and only if one is selected. -/
structure ReportsSelected (py : Interpreter) (scope : GraphSet) (selection : List Text) (narrowed : GraphSet) :
    Prop where
  callers : ∀ within target options result, narrowScope within options.projectIds = .ok narrowed →
    callers py within target options = .ok result →
      (result.missingProjects ≠ [] ↔ ∃ projectId ∈ selection, projectId ∈ scope.missingProjects)
  impact : ∀ within target options result, narrowScope within options.projectIds = .ok narrowed →
    impact py within target options = .ok result →
      (result.missingProjects ≠ [] ↔ ∃ projectId ∈ selection, projectId ∈ scope.missingProjects)
  path : ∀ within target targetTo options result, narrowScope within options.projectIds = .ok narrowed →
    path py within target targetTo options = .ok result →
      (result.missingProjects ≠ [] ↔ ∃ projectId ∈ selection, projectId ∈ scope.missingProjects)

/-- What narrowing promises is what the operations report. -/
theorem Narrowed.reports (py : Interpreter) {narrowed : GraphSet} (right : Narrowed scope selection narrowed) :
    ReportsSelected py scope selection narrowed := by
  have some_iff {reported : List Text} (same : reported = narrowed.missingProjects) :
      reported ≠ [] ↔ ∃ projectId ∈ selection, projectId ∈ scope.missingProjects := by
    rw [same]
    constructor
    · intro nonempty
      obtain ⟨projectId, member⟩ := List.exists_mem_of_ne_nil _ nonempty
      exact ⟨projectId, (right.missing projectId).mp member⟩
    · rintro ⟨projectId, selected, missing⟩ empty
      have member := (right.missing projectId).mpr ⟨selected, missing⟩
      rw [empty] at member
      exact List.not_mem_nil member
  refine ⟨?_, ?_, ?_⟩
  · intro within target options result narrows answered
    obtain ⟨pinned, other, same⟩ := callers_missing answered
    obtain rfl := Except.ok.inj (narrows.symm.trans other)
    exact some_iff same
  · intro within target options result narrows answered
    obtain ⟨pinned, other, same⟩ := impact_missing answered
    obtain rfl := Except.ok.inj (narrows.symm.trans other)
    exact some_iff same
  · intro within target targetTo options result narrows answered
    obtain ⟨pinned, other, same⟩ := path_missing answered
    obtain rfl := Except.ok.inj (narrows.symm.trans other)
    exact some_iff same

/-- **Narrowing to a selection succeeds, keeps what is selected, pinned or missing, and lets the operations
report it exactly if the selection repeats nothing and all of it is pinned.** -/
theorem narrowing_right_iff (py : Interpreter) (scope : GraphSet) (selection : List Text)
    (selects : ∀ projectId ∈ selection,
      projectId ∈ scope.projectIds ∨ projectId ∈ scope.missingProjects) :
    (∃ narrowed, narrowScope scope (some selection) = .ok narrowed ∧ Narrowed scope selection narrowed ∧
        ReportsSelected py scope selection narrowed) ↔
      selection.Nodup ∧ ∀ projectId ∈ selection, projectId ∈ scope.projectIds := by
  rw [← narrowScope_ok_iff selects]
  constructor
  · rintro ⟨narrowed, narrows, right, _⟩
    exact ⟨narrowed, narrows, right⟩
  · rintro ⟨narrowed, narrows, right⟩
    exact ⟨narrowed, narrows, right, right.reports py⟩

/-! ### A scope with a missing member -/

/-- A scope without a pinned project and with one missing. -/
def missingOnly : GraphSet where
  members := []
  missingProjects := ["lib"]
  projects_nodup := List.nodup_nil
  node_ids_nodup := List.nodup_nil
  missing_identifiers := by decide
  missing_normal := by decide
  missing_not_pinned _ _ := List.not_mem_nil

/-- Selecting the missing member is refused. -/
theorem narrowing_refuses_missing : ¬ ∀ (scope : GraphSet) (selection : List Text),
    (∀ projectId ∈ selection, projectId ∈ scope.projectIds ∨ projectId ∈ scope.missingProjects) →
      ∃ narrowed, narrowScope scope (some selection) = .ok narrowed ∧
        Narrowed scope selection narrowed := by
  intro all
  obtain ⟨narrowed, narrows, _⟩ := all missingOnly ["lib"] fun projectId selected =>
    Or.inr (by rwa [List.mem_singleton.mp selected] at *)
  cases narrows

/-- The condition, for the selection of the missing member. -/
theorem narrowing_missing_iff :
    (∃ narrowed, narrowScope missingOnly (some ["lib"]) = .ok narrowed ∧
        Narrowed missingOnly ["lib"] narrowed ∧ ReportsSelected .ascii missingOnly ["lib"] narrowed) ↔
      (["lib"] : List Text).Nodup ∧ ∀ projectId ∈ (["lib"] : List Text), projectId ∈ missingOnly.projectIds :=
  narrowing_right_iff .ascii missingOnly ["lib"] fun _ selected => Or.inr selected

end AxiomMcp.Query
