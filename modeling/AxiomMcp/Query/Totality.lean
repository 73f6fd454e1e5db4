/-
**When a traversal answers.**

An edge may end at a node of a project that is not pinned, is missing or was left out, and every
traversal looks up the nodes it lists. `Operation.Reads` says which ids an operation looks up, in terms
of the scope and the request:

* `callers` and `impact` walk backwards, and an edge starts at a pinned node: they always answer;
* `context`, `neighbors` and `dependencies` look up the first nodes of a breadth-first walk
  (`nodesWithin`);
* `path` looks up the route to its goal, or all it visited (`Passable`).

`traversal_answers_iff` — **a traversal of a target that resolves answers exactly when the ids it reads
are pinned**. Otherwise it raises `TargetNotFound` for an id nobody asked for (`neighbors_dangles`).
-/

import AxiomMcp.Query.Impact
import AxiomMcp.Query.Neighborhood
import AxiomMcp.Query.PathTrials

namespace AxiomMcp.Query

open AxiomMcp.Lib

/-! ### What a walk reads -/

section Walk

variable (setting : WalkSetting) (pinned : GraphSet) (root : Text)

/-- The ids of the first edges a walk without budgets meets, as many as the edge budget. -/
def WalkSetting.edgesWithin : List Text :=
  Net.keys (((setting.net pinned).run unlimited [root] setting.hops).known.take setting.edgeBudget)

/-- The first nodes a walk over these edges meets, as many as the node budget. -/
def WalkSetting.nodesWithin : List Text :=
  (((setting.net pinned).only (setting.edgesWithin pinned root)).run unlimited [root]
    setting.hops).seen.take setting.nodeBudget

theorem WalkSetting.search_seen :
    (setting.search pinned [root] setting.hops).seen = setting.nodesWithin pinned root :=
  Net.run_seen (setting.net pinned) setting.nodeBudget setting.edgeBudget [root] setting.hops

end Walk

/-! ### The six traversals -/

/-- The operations that walk from a target. -/
inductive Operation
  | context | neighbors | dependencies | callers | impact | path
  deriving DecidableEq, Repr

/-- The operation returns an answer. -/
def Operation.Answers (py : Interpreter) (scope : GraphSet) (target targetTo : Text)
    (options : QueryOptions) : Operation → Prop
  | .context => ∃ result, Query.context py scope target options = .ok result
  | .neighbors => ∃ result, Query.neighbors py scope target options = .ok result
  | .dependencies => ∃ result, Query.dependencies py scope target options = .ok result
  | .callers => ∃ result, Query.callers py scope target options = .ok result
  | .impact => ∃ result, Query.impact py scope target options = .ok result
  | .path => ∃ result, Query.path py scope target targetTo options = .ok result

/-- A request that walks along outgoing edges instead. -/
def DirectedRequest.outwards (request : DirectedRequest) : DirectedRequest :=
  { request with heading := .outgoing }

/-- The ids the operation reads are pinned. -/
def Operation.Reads (request : DirectedRequest) (start goal : Text) : Operation → Prop
  | .context | .neighbors =>
    ∀ nodeId ∈ request.setting.nodesWithin request.pinned start, request.pinned.Pinned nodeId
  | .dependencies =>
    ∀ nodeId ∈ request.outwards.setting.nodesWithin request.pinned start,
      request.pinned.Pinned nodeId
  | .callers | .impact => True
  | .path => request.Passable start goal

variable {py : Interpreter} {scope : GraphSet} {options : QueryOptions} {request : DirectedRequest}
  {target targetTo : Text} {start goal : Node}

/-- A request with a direction is a request without one. -/
theorem DirectedRequest.Accepted.reverse (accepted : request.Accepted scope options) :
    ∃ backwards, reverseRequest scope options = .ok backwards ∧
      backwards.pinned = request.pinned := by
  obtain ⟨kinds, chosen⟩ : ∃ kinds, validKinds options.edgeKinds callerKinds = .ok kinds := by
    have named := accepted.kinds
    cases given : options.edgeKinds with
    | none => exact ⟨callerKinds, rfl⟩
    | some values =>
      rw [given] at named
      exact ⟨request.kinds, named⟩
  refine ⟨⟨request.pinned, request.sections, request.hops, kinds, request.nodeBudget,
    request.edgeBudget⟩, ?_, rfl⟩
  unfold reverseRequest
  rw [accepted.pinned, accepted.sections, accepted.hops, chosen, accepted.nodeBudget,
    accepted.edgeBudget]
  rfl

theorem DirectedRequest.Accepted.outwards (accepted : request.Accepted scope options) :
    request.outwards.Accepted scope
      { options with direction := some Direction.outgoing.name } where
  pinned := accepted.pinned
  sections := accepted.sections
  hops := accepted.hops
  heading := choice_label Direction.name_injective (Direction.mem_all .outgoing)
  kinds := accepted.kinds
  nodeBudget := accepted.nodeBudget
  edgeBudget := accepted.edgeBudget

theorem context_returns_iff (checks : request.Accepted scope options)
    (source : request.pinned.resolve py target = .ok start) :
    (∃ result, context py scope target options = .ok result) ↔
      ∀ nodeId ∈ request.setting.nodesWithin request.pinned start.id,
        request.pinned.Pinned nodeId := by
  rw [(context_outcome checks source).returns_iff, ← WalkSetting.search_seen]
  rfl

theorem neighbourTraversal_returns_iff {operation : Text} (checks : request.Accepted scope options)
    (source : request.pinned.resolve py target = .ok start) :
    (∃ result, neighbourTraversal py operation scope target options = .ok result) ↔
      ∀ nodeId ∈ request.setting.nodesWithin request.pinned start.id,
        request.pinned.Pinned nodeId := by
  rw [(neighbourTraversal_outcome checks source).returns_iff, ← WalkSetting.search_seen]
  rfl

/-- Callers of a target that resolves are always answered. -/
theorem callers_returns {backwards : ReverseRequest}
    (accepted : reverseRequest scope options = .ok backwards)
    (named : backwards.pinned.resolve py target = .ok start) :
    ∃ result, callers py scope target options = .ok result := by
  obtain ⟨_, valid⟩ := reverseRequest_ok accepted
  obtain ⟨walk, walks, walked⟩ : ∃ walk, backwards.walk start backwards.hops none = .ok walk ∧
      Walked backwards.pinned (backwards.setting backwards.hops none) [start.id] walk :=
    backwards.walk_ok valid (GraphSet.pinned_of_resolve named) valid.hops fun _ none => by cases none
  have inside : ∀ node ∈ besides start walk, node ∈ backwards.pinned.allNodes :=
    fun node member => walked.nodes_pinned node (List.mem_filter.mp member).1
  obtain ⟨documents, shown, _⟩ := nodeDocuments_ok backwards.sections inside
  exact ⟨_, bind_eq_ok.mpr ⟨backwards, accepted, bind_eq_ok.mpr ⟨.one start,
    selectTarget_one.mpr named, bind_eq_ok.mpr ⟨walk, walks,
      map_eq_ok.mpr ⟨documents, shown, rfl⟩⟩⟩⟩⟩

/-- **A traversal of a target that resolves answers exactly when the ids it reads are pinned.** -/
theorem traversal_answers_iff (accepted : directedRequest scope options = .ok request)
    (source : request.pinned.resolve py target = .ok start)
    (sink : request.pinned.resolve py targetTo = .ok goal) (operation : Operation) :
    operation.Answers py scope target targetTo options ↔
      operation.Reads request start.id goal.id := by
  have checks := directedRequest_ok.mp accepted
  obtain ⟨backwards, reversed, same⟩ := checks.reverse
  cases operation with
  | context => exact context_returns_iff checks source
  | neighbors => exact neighbourTraversal_returns_iff checks source
  | dependencies =>
    have outwards : (∃ result, dependencies py scope target options = .ok result) ↔ _ :=
      neighbourTraversal_returns_iff checks.outwards source
    exact outwards
  | callers =>
    rw [← same] at source
    exact iff_of_true (callers_returns reversed source) trivial
  | impact =>
    rw [← same] at source
    obtain ⟨_, result, _, answered, _⟩ := impact_answered reversed source
    exact iff_of_true ⟨result, answered⟩ trivial
  | path => exact path_returns_iff checks source sink

/-- In a pair of calls every traversal answers. -/
theorem traversal_answers_callPair :
    ∃ request start goal, ∀ operation : Operation,
      operation.Answers .ascii callPair "a" "b" contextDefaults ↔ operation.Reads request start goal := by
  have accepted : directedRequest callPair contextDefaults = .ok _ := rfl
  exact ⟨_, _, _, traversal_answers_iff accepted rfl rfl⟩

/-! ### What else happens -/

/-- The contract codes `_answer` raises for refused queries. -/
inductive AnswerCode
  | notFound | limitExceeded | validationError
  deriving DecidableEq, Repr

/-- The `except` chain of `_answer`. -/
def answerCode (refused : QueryModelError) : AnswerCode :=
  match refused.exceptionClass with
  | .targetAmbiguous => .notFound
  | .targetNotFound => .notFound
  | .limitRejected => .limitExceeded
  | .queryModelError => .validationError

/-- One member, whose only node calls a node of a project that is not pinned. -/
def danglingScope : GraphSet :=
  plainScope [plainGraph "p"
    [plainNode "p" "a" 'a']
    [plainEdge "q" '1' 'a' 'b' .calls]
    none (by decide)] (by decide)

/-- The neighbours of a target that exists are not found, for a callee that is not pinned. -/
theorem neighbors_dangles : ∃ node, danglingScope.resolve .ascii "a" = .ok node ∧
    neighbors .ascii danglingScope "a" neighborsDefaults = .error (.noNode (digest 'b')) ∧
      answerCode (.noNode (digest 'b')) = .notFound :=
  ⟨_, rfl, rfl, rfl⟩

end AxiomMcp.Query
