/-
**Coverage, as the envelope and as `impact` read it.**

`aggregateCoverage` folds the pinned statuses of a scope by severity and refuses a member without a status
of the contract. `impact` reads the same statuses, but it compares them with the word `complete`, which is
no status of the contract.

* `aggregateCoverage_ok`: what an aggregate that came back says of each member;
* `impact_coverage_agrees_iff`: over a scope the envelope accepts, the two agree **exactly** if the target
  resolves and some member is not complete for its profile, or if it is ambiguous, all members are complete
  and some other is missing.
-/

import AxiomMcp.Query.Impact

namespace AxiomMcp.Query

open AxiomMcp.Lib

/-! ### The envelope -/

/-- The constant `COVERAGE_SEVERITY`, least to most limiting; it lists what `COVERAGE` allows. -/
def coverageSeverity : List Text := ["complete_for_profile", "partial", "unsupported"]

/-- The constant `COVERAGE_COMPLETE`. -/
def coverageComplete : Text := "complete_for_profile"

/-- The constant `COVERAGE_PARTIAL`. -/
def coveragePartial : Text := "partial"

/-- How limiting a status is: its index in `COVERAGE_SEVERITY`. -/
def severity (status : Text) : ℕ := coverageSeverity.idxOf status

/-- An `EnvelopeInvalid`. -/
structure EnvelopeInvalid where
  message : Text
  deriving DecidableEq

section Code

variable (py : Interpreter)

/-- A status of the contract, out of a coverage block that is there. -/
def usableStatus (graph : Graph) : Bool :=
  graph.coverage.getD [] ≠ [] && decide (graph.coverageStatus py ∈ coverageSeverity)

/-- One round of `aggregate_coverage`. -/
def worstCoverage (worst : ℕ) (graph : Graph) : Except EnvelopeInvalid ℕ :=
  if usableStatus py graph then .ok (max worst (severity (graph.coverageStatus py)))
  else .error ⟨Text.format ["project ", graph.projectId.pyRepr py.isPrintable,
    " pins no usable coverage status (got ", (graph.coverageStatus py).pyRepr py.isPrintable,
    "); a response cannot assert coverage it has no evidence for"]⟩

/-- The aggregate of a severity, with its warnings. -/
def limitedCoverage (graphs : GraphSet) (worst : ℕ) : ℕ × List Text :=
  if graphs.missingProjects ≠ [] then
    (max worst (severity coveragePartial),
      [Text.format ["coverage is partial because these requested projects are not pinned: ",
        Text.join ", " (graphs.missingProjects.map (Text.pyRepr py.isPrintable))]])
  else if graphs.projectIds = [] then
    (worst, ["the pinned scope holds no projects, so this response covers nothing"])
  else (worst, [])

/-- `aggregate_coverage(scope)` -/
def aggregateCoverage (graphs : GraphSet) : Except EnvelopeInvalid (Text × List Text) := do
  let worst ← graphs.graphs.foldlM (worstCoverage py) 0
  let limited := limitedCoverage py graphs worst
  return (coverageSeverity.getD limited.1 [], limited.2)

end Code

/-! ### What an aggregate says -/

section Aggregate

variable {py : Interpreter}

theorem severity_lt {status : Text} (contract : status ∈ coverageSeverity) :
    severity status < coverageSeverity.length :=
  List.idxOf_lt_length_iff.mpr contract

/-- An index of the list is the severity of the status there. -/
theorem severity_getD {n : ℕ} (small : n < coverageSeverity.length) :
    coverageSeverity.getD n [] ∈ coverageSeverity ∧ severity (coverageSeverity.getD n []) = n := by
  have each : ∀ n < 3, coverageSeverity.getD n [] ∈ coverageSeverity ∧
      severity (coverageSeverity.getD n []) = n := by decide
  exact each n small

theorem worst_ok {graphs : List Graph} {first worst : ℕ}
    (folded : graphs.foldlM (worstCoverage py) first = .ok worst) (small : first < coverageSeverity.length) :
    first ≤ worst ∧ worst < coverageSeverity.length ∧
      ∀ graph ∈ graphs, usableStatus py graph = true ∧ severity (graph.coverageStatus py) ≤ worst := by
  induction graphs generalizing first with
  | nil =>
    cases folded
    exact ⟨le_rfl, small, fun _ none => nomatch none⟩
  | cons graph rest ih =>
    rw [List.foldlM_cons] at folded
    obtain ⟨next, here, later⟩ := bind_eq_ok.mp folded
    unfold worstCoverage at here
    split at here
    · next usable =>
      obtain rfl := Except.ok.inj here
      have contract : graph.coverageStatus py ∈ coverageSeverity :=
        of_decide_eq_true (Bool.and_eq_true_iff.mp usable).2
      obtain ⟨above, below, each⟩ := ih later (max_lt small (severity_lt contract))
      refine ⟨(le_max_left _ _).trans above, below, List.forall_mem_cons.mpr ⟨⟨usable, ?_⟩, each⟩⟩
      exact (le_max_right _ _).trans above
    · cases here

/-- **An aggregate is as limiting as every member**, and at least partial where one is missing. -/
theorem aggregateCoverage_ok {graphs : GraphSet} {status : Text} {warnings : List Text}
    (aggregated : aggregateCoverage py graphs = .ok (status, warnings)) :
    status ∈ coverageSeverity ∧
      (∀ graph ∈ graphs.members, usableStatus py graph = true ∧
        severity (graph.coverageStatus py) ≤ severity status) ∧
      (graphs.missingProjects ≠ [] → severity coveragePartial ≤ severity status) := by
  obtain ⟨worst, folded, done⟩ := bind_eq_ok.mp aggregated
  obtain ⟨_, below, each⟩ := worst_ok folded (by decide)
  have limited : worst ≤ (limitedCoverage py graphs worst).1 ∧
      (limitedCoverage py graphs worst).1 < coverageSeverity.length ∧
        (graphs.missingProjects ≠ [] → severity coveragePartial ≤ (limitedCoverage py graphs worst).1) := by
    unfold limitedCoverage
    split
    · exact ⟨le_max_left _ _, max_lt below (by decide), fun _ => le_max_right _ _⟩
    · next none =>
      split
      · exact ⟨le_rfl, below, fun some => (none some).elim⟩
      · exact ⟨le_rfl, below, fun some => (none some).elim⟩
  have named := severity_getD limited.2.1
  have same : coverageSeverity.getD (limitedCoverage py graphs worst).1 [] = status :=
    congrArg Prod.fst (Except.ok.inj done)
  rw [same] at named
  refine ⟨named.1, fun graph here => ?_, fun missing => named.2 ▸ limited.2.2 missing⟩
  have member := each graph (GraphSet.mem_graphs.mpr here)
  exact ⟨member.1, named.2 ▸ member.2.trans limited.1⟩

theorem worst_attained {graphs : List Graph} {first worst : ℕ}
    (folded : graphs.foldlM (worstCoverage py) first = .ok worst) :
    worst = first ∨ ∃ graph ∈ graphs, severity (graph.coverageStatus py) = worst := by
  induction graphs generalizing first with
  | nil =>
    cases folded
    exact Or.inl rfl
  | cons graph rest ih =>
    rw [List.foldlM_cons] at folded
    obtain ⟨next, here, later⟩ := bind_eq_ok.mp folded
    unfold worstCoverage at here
    split at here
    · obtain rfl := Except.ok.inj here
      rcases ih later with same | ⟨other, member, same⟩
      · rcases le_total (severity (graph.coverageStatus py)) first with below | above
        · exact Or.inl (same.trans (max_eq_left below))
        · exact Or.inr ⟨graph, List.mem_cons_self, (same.trans (max_eq_right above)).symm⟩
      · exact Or.inr ⟨other, List.mem_cons_of_mem _ member, same⟩
    · cases here

/-- Where no member is missing, the aggregate is the status of a member. -/
theorem aggregateCoverage_attained {graphs : GraphSet} {status : Text} {warnings : List Text}
    (aggregated : aggregateCoverage py graphs = .ok (status, warnings)) (complete : graphs.missingProjects = [])
    (some : graphs.members ≠ []) :
    ∃ graph ∈ graphs.members, severity status ≤ severity (graph.coverageStatus py) := by
  obtain ⟨worst, folded, done⟩ := bind_eq_ok.mp aggregated
  obtain ⟨_, below, _⟩ := worst_ok folded (by decide)
  have kept : (limitedCoverage py graphs worst).1 = worst := by
    unfold limitedCoverage
    rw [if_neg (not_not.mpr complete)]
    split <;> rfl
  have same : coverageSeverity.getD worst [] = status := by
    rw [← kept]
    exact congrArg Prod.fst (Except.ok.inj done)
  have named : severity status = worst := same ▸ (severity_getD below).2
  rcases worst_attained folded with zero | ⟨graph, member, attained⟩
  · obtain ⟨graph, member⟩ := List.exists_mem_of_ne_nil _ some
    exact ⟨graph, member, by rw [named, zero]; exact Nat.zero_le _⟩
  · exact ⟨graph, GraphSet.mem_graphs.mp member, (named.trans attained.symm).le⟩

/-- A status of the contract is not the word that `impact` compares with. -/
theorem not_complete_word {graph : Graph} (usable : usableStatus py graph = true) :
    graph.coverageStatus py ≠ "complete" := by
  have contract : graph.coverageStatus py ∈ coverageSeverity :=
    of_decide_eq_true (Bool.and_eq_true_iff.mp usable).2
  have none : ("complete" : Text) ∉ coverageSeverity := by decide
  exact fun same => none (same ▸ contract)

end Aggregate

/-! ### Impact and the envelope -/

section Agreement

variable {py : Interpreter} {scope : GraphSet} {target : Text} {options : QueryOptions}
  {request : ReverseRequest} {result : ImpactResult}

/-- What the answer of `impact` says of coverage, in the words of the envelope: it names coverage as a reason
exactly if some pinned member is not complete for its profile, and over members that all are, an answer that
nothing else limits is exhaustive. -/
structure CoverageAgrees (py : Interpreter) (pinned : GraphSet) (result : ImpactResult) : Prop where
  named : .coverageNotComplete ∈ result.incompleteReasons ↔
    ∃ graph ∈ pinned.members, graph.coverageStatus py ≠ coverageComplete
  exhaustive : (∀ graph ∈ pinned.members, graph.coverageStatus py = coverageComplete) →
    result.truncated = false → .depthLimited ∉ result.incompleteReasons →
      result.missingProjects = [] → result.unresolved = [] → result.exhaustive = true

/-- Several pinned nodes match a selector equally well. -/
def Ambiguous (py : Interpreter) (pinned : GraphSet) (target : Text) : Prop :=
  ∃ text candidateIds, pinned.resolve py target = .error (.ambiguous text candidateIds)

/-- The two ways an answer comes about. -/
theorem impact_cases (asked : reverseRequest scope options = .ok request)
    (called : impact py scope target options = .ok result) :
    (∃ resolved walk exactWalk depthLimited, request.pinned.resolve py target = .ok resolved ∧
      impactAnswer py request resolved walk exactWalk depthLimited = .ok result) ∨
    Ambiguous py request.pinned target ∧
      ∃ candidateIds, ambiguousImpact py request target candidateIds = .ok result := by
  obtain ⟨request', accepted, called⟩ := bind_eq_ok.mp called
  obtain rfl := Except.ok.inj (asked.symm.trans accepted)
  obtain ⟨selected, chosen, called⟩ := bind_eq_ok.mp called
  cases selected with
  | one resolved =>
    obtain ⟨walk, _, called⟩ := bind_eq_ok.mp called
    obtain ⟨exactWalk, _, called⟩ := bind_eq_ok.mp called
    obtain ⟨depthLimited, _, called⟩ := bind_eq_ok.mp called
    exact Or.inl ⟨resolved, walk, exactWalk, depthLimited, selectTarget_one.mp chosen, called⟩
  | ambiguous candidateIds =>
    refine Or.inr ⟨?_, candidateIds, called⟩
    unfold selectTarget at chosen
    split at chosen
    · cases chosen
    · next text candidateIds' found => exact ⟨text, candidateIds', found⟩
    · cases chosen

/-- The reasons of an answer name coverage where some member is not `complete`. -/
theorem coverage_mem {walk : Walk} {depthLimited : Bool} {unresolvedEdges : List Edge} :
    .coverageNotComplete ∈ (impactIncomplete py request walk depthLimited unresolvedEdges).map Prod.fst ↔
      partialCoverage py request.pinned ≠ [] := by
  have single : ∀ (applies : Bool) (reason : IncompleteReason) (text : Text),
      .coverageNotComplete ∈ (reasonIf applies reason text).map Prod.fst ↔
        applies = true ∧ reason = .coverageNotComplete := by
    intro applies reason text
    cases applies <;> simp [reasonIf, eq_comm]
  unfold impactIncomplete
  simp only [List.map_append, List.mem_append, single]
  simp

/-- **Impact and the envelope agree** on what complete coverage is exactly in these cases. -/
theorem impact_coverage_agrees_iff {aggregated : Text × List Text}
    (accepts : aggregateCoverage py scope = .ok aggregated)
    (asked : reverseRequest scope options = .ok request)
    (called : impact py scope target options = .ok result) :
    CoverageAgrees py request.pinned result ↔
      ((∃ resolved, request.pinned.resolve py target = .ok resolved) ∧
        ∃ graph ∈ request.pinned.members, graph.coverageStatus py ≠ coverageComplete) ∨
      (Ambiguous py request.pinned target ∧
        (∀ graph ∈ request.pinned.members, graph.coverageStatus py = coverageComplete) ∧
          request.pinned.missingProjects ≠ []) := by
  have narrowed := narrowScope_members (reverseRequest_ok asked).1
  have usable : ∀ graph ∈ request.pinned.members, usableStatus py graph = true := fun graph here =>
    ((aggregateCoverage_ok (show aggregateCoverage py scope = .ok (aggregated.1, aggregated.2) from accepts)).2.1
      graph (narrowed here)).1
  rcases impact_cases asked called with
    ⟨resolved, walk, exactWalk, depthLimited, found, answered⟩ | ⟨several, candidateIds, answered⟩
  · -- a member is pinned, and its status is never the word `complete`
    have some : ∃ graph, graph ∈ request.pinned.members := by
      obtain ⟨graph, member, _⟩ := List.mem_flatMap.mp (GraphSet.resolve_mem found)
      exact ⟨graph, member⟩
    have uncovered : partialCoverage py request.pinned ≠ [] := by
      obtain ⟨graph, member⟩ := some
      exact fun none => not_complete_word (usable graph member) (partialCoverage_eq_nil.mp none graph member)
    have unambiguous : ¬ Ambiguous py request.pinned target := by
      rintro ⟨_, _, other⟩
      rw [found] at other
      cases other
    obtain ⟨documents, _, rfl⟩ := map_eq_ok.mp answered
    constructor
    · exact fun agrees => Or.inl ⟨⟨resolved, found⟩, agrees.named.mp (coverage_mem.mpr uncovered)⟩
    · rintro (⟨_, graph, member, other⟩ | ⟨several, _⟩)
      · refine ⟨iff_of_true (coverage_mem.mpr uncovered) ⟨graph, member, other⟩, fun all => ?_⟩
        exact (other (all graph member)).elim
      · exact (unambiguous several).elim
  · have unresolved : ¬ ∃ resolved, request.pinned.resolve py target = .ok resolved := by
      rintro ⟨resolved, found⟩
      obtain ⟨_, _, other⟩ := several
      rw [found] at other
      cases other
    obtain ⟨documents, _, rfl⟩ := map_eq_ok.mp answered
    have unnamed : IncompleteReason.coverageNotComplete ∉ [IncompleteReason.ambiguousTarget] := by decide
    constructor
    · intro agrees
      have all : ∀ graph ∈ request.pinned.members, graph.coverageStatus py = coverageComplete := by
        intro graph member
        by_contra other
        exact unnamed (agrees.named.mpr ⟨graph, member, other⟩)
      refine Or.inr ⟨several, all, fun missing => ?_⟩
      have deep : IncompleteReason.depthLimited ∉ [IncompleteReason.ambiguousTarget] := by decide
      cases agrees.exhaustive all rfl deep missing rfl
    · rintro (⟨resolves, _⟩ | ⟨_, all, missing⟩)
      · exact (unresolved resolves).elim
      · refine ⟨iff_of_false unnamed fun ⟨graph, member, other⟩ => other (all graph member), ?_⟩
        exact fun _ _ _ none => (missing none).elim

end Agreement

/-! ### A complete member and a partial one -/

/-- Two functions in one project, the second calling the first, under a coverage status. -/
def coveredPair (status : Text) : GraphSet :=
  plainScope [plainGraph "p"
    [plainNode "p" "a" 'a', plainNode "p" "b" 'b']
    [plainEdge "p" '1' 'b' 'a' .calls]
    (some [("status", .str status)]) (by decide)] (by simp [plainGraph]; decide)

/-- A member that is complete for its profile is reported as not complete, and nothing else limits the
answer. -/
theorem impact_coverage_disagrees : ∃ request result,
    aggregateCoverage .ascii (coveredPair coverageComplete) = .ok (coverageComplete, []) ∧
      reverseRequest (coveredPair coverageComplete) impactDefaults = .ok request ∧
      impact .ascii (coveredPair coverageComplete) "a" impactDefaults = .ok result ∧
      result.incompleteReasons = [.coverageNotComplete] ∧
      ¬ CoverageAgrees .ascii request.pinned result := by
  refine ⟨_, _, by decide +kernel, rfl, rfl, by decide +kernel, fun agrees => ?_⟩
  obtain ⟨graph, member, other⟩ := agrees.named.mp (by decide +kernel)
  obtain rfl := List.mem_singleton.mp member
  exact other (by decide)

/-- Over a member with partial coverage the two agree. -/
theorem impact_coverage_agrees_partial : ∃ request result,
    reverseRequest (coveredPair coveragePartial) impactDefaults = .ok request ∧
      impact .ascii (coveredPair coveragePartial) "a" impactDefaults = .ok result ∧
      CoverageAgrees .ascii request.pinned result := by
  have accepts : aggregateCoverage .ascii (coveredPair coveragePartial) = .ok (coveragePartial, []) := by
    decide +kernel
  obtain ⟨request, asked, pinned⟩ :
    ∃ request, reverseRequest (coveredPair coveragePartial) impactDefaults = .ok request ∧
      request.pinned = coveredPair coveragePartial := ⟨_, rfl, rfl⟩
  obtain ⟨result, called⟩ : ∃ result, impact .ascii (coveredPair coveragePartial) "a" impactDefaults = .ok result :=
    ⟨_, rfl⟩
  refine ⟨request, result, asked, called, (impact_coverage_agrees_iff accepts asked called).mpr (Or.inl ?_)⟩
  rw [pinned]
  exact ⟨⟨_, rfl⟩, _, List.mem_singleton_self _, by decide⟩

end AxiomMcp.Query
