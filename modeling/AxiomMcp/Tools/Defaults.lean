/-
**`dependencies` through the tool and through the engine.**

The handler passes `edge_kinds=None` on where a request leaves the kinds out, and an explicit `None` is not the
keyword's default: the engine then follows every kind. `DependencyRequest` is such a request with what its
arguments are read as; `DependenciesMean` says that its answer is the engine's default answer, so that the edges
are dependencies and the nodes are reached through dependencies.

`dependencies_mean_iff`: **this holds where the kinds are irrelevant, and where edge ids are unique only there.**
-/

import AxiomMcp.Query.Dependencies
import AxiomMcp.Tools.Query

namespace AxiomMcp.Tools

open Lib
open Query

/-- A request for `dependencies` that leaves `edge_kinds` out, with what its arguments are read as. -/
structure DependencyRequest (arguments : JsonObject) where
  budgets : Budgets
  projection : Option (List Text)
  target : Text
  budgets_read : Tools.budgets arguments = .ok budgets
  projection_read : choiceListArgument arguments "projection" projectionNames = .ok projection
  target_read : requireText arguments "target" = .ok target
  /-- `edge_kinds` is left out. -/
  kinds_out : argument arguments "edge_kinds" = none
  /-- The operation takes no `direction`. -/
  direction_out : argument arguments "direction" = none

section Request

variable (py : Interpreter) (sha256 : Bytes → Text) {arguments : JsonObject}
  (request : DependencyRequest arguments) (scope : GraphSet)

/-- The keyword arguments that the engine is called with. -/
def DependencyRequest.options : QueryOptions :=
  traversalOptions request.budgets none none request.projection

/-- The answer of the handler to the request is the answer of the engine's default call. -/
structure DependenciesMean : Prop where
  same : (answer arguments py sha256 .dependencies scope).toOption.map
      (fun parts => (parts.nodes, parts.edges)) =
    (dependenciesByDefault py scope request.target request.options).toOption.map NeighborResult.listed
  edges : ∀ parts resolved, answer arguments py sha256 .dependencies scope = .ok parts →
    scope.resolve py request.target = .ok resolved →
      ∀ document ∈ parts.edges, ∃ edge ∈ scope.allEdges,
        edge.kind ∈ dependencyKinds ∧ document = edge.asDocument
  nodes : ∀ parts resolved, answer arguments py sha256 .dependencies scope = .ok parts →
    scope.resolve py request.target = .ok resolved →
      ∀ nodeId ∈ listedIds parts.nodes,
        nodeId ∈ Ball (Hop scope .outgoing (some sortedDependencyKinds) none) {resolved.id}
          request.budgets.depth.toNat

variable {py sha256 request scope}

/-- What the handler makes of an answer of the engine keeps its nodes and edges. -/
theorem partsOf_listed (result : NeighborResult) :
    ((partsOf py (ofNeighbors result)).nodes, (partsOf py (ofNeighbors result)).edges) = result.listed := by
  unfold partsOf ofNeighbors NeighborResult.listed
  split <;> rfl

/-- The handler calls the engine with `edge_kinds=None`. -/
theorem answer_dependencies (request : DependencyRequest arguments) :
    answer arguments py sha256 .dependencies scope =
      (engine py (dependencies py scope request.target request.options)).map fun result =>
        partsOf py (ofNeighbors result) := by
  have kinds : choiceListArgument arguments "edge_kinds" (EdgeKind.all.map EdgeKind.name) = .ok none := by
    unfold choiceListArgument
    rw [request.kinds_out]
  have direction : directionArgument py arguments = .ok none := by
    unfold directionArgument
    rw [request.direction_out]
  unfold answer
  rw [request.budgets_read, request.projection_read, kinds, direction]
  change (requireText arguments "target" >>= _) = _
  rw [request.target_read]
  rfl

theorem answer_listed (sha256 : Bytes → Text) (request : DependencyRequest arguments) :
    (answer arguments py sha256 .dependencies scope).toOption.map (fun parts => (parts.nodes, parts.edges)) =
      (dependencies py scope request.target request.options).toOption.map NeighborResult.listed := by
  rw [answer_dependencies request]
  cases dependencies py scope request.target request.options with
  | error refused => rfl
  | ok result => exact congrArg some (partsOf_listed result)

/-- The depth of a request is the depth of its walk. -/
theorem depth_of_validated {validated : DirectedRequest}
    (accepted : validated.Accepted scope
      { request.options with direction := some Direction.outgoing.name }) :
    validated.hops = request.budgets.depth.toNat := by
  rcases boundedInt_ok accepted.hops with ⟨none, _⟩ | ⟨given, _, _⟩
  · cases none
  · rw [Option.some.inj given, Int.toNat_natCast]

/-- Where the answers are the same, the edges are dependencies and the nodes are reached through them. -/
theorem dependenciesMean_of_same (same : SameListing py scope request.target request.options) :
    DependenciesMean py sha256 request scope := by
  have inside : ∀ parts resolved, answer arguments py sha256 .dependencies scope = .ok parts →
      scope.resolve py request.target = .ok resolved →
      (∀ document ∈ parts.edges, ∃ edge ∈ scope.allEdges,
        edge.kind ∈ dependencyKinds ∧ document = edge.asDocument) ∧
      ∀ nodeId ∈ listedIds parts.nodes,
        nodeId ∈ Ball (Hop scope .outgoing (some sortedDependencyKinds) none) {resolved.id}
          request.budgets.depth.toNat := by
    intro parts resolved answered named
    have listing : some (parts.nodes, parts.edges) =
        (dependencies py scope request.target request.options).toOption.map NeighborResult.listed := by
      rw [← answer_listed sha256, answered]
      rfl
    cases validated : directedRequest scope
        { request.options with direction := some Direction.outgoing.name } with
    | error refused =>
      unfold dependencies neighbourTraversal at listing
      rw [validated] at listing
      cases listing
    | ok inner =>
      have accepted := directedRequest_ok.mp validated
      obtain rfl : scope = inner.pinned := Except.ok.inj accepted.pinned
      rw [same, default_traverse rfl validated] at listing
      obtain ⟨edges, nodes⟩ := default_listing rfl validated named listing.symm
      refine ⟨edges, fun nodeId member => ?_⟩
      have reached := nodes nodeId member
      have root : {root | root ∈ [resolved.id]} = ({resolved.id} : Set Text) := by
        ext root
        exact List.mem_singleton
      unfold WalkSetting.Reaches WalkSetting.Hop at reached
      rw [root] at reached
      rw [← depth_of_validated accepted]
      exact reached
  exact ⟨(answer_listed sha256 request).trans same, fun parts resolved answered named =>
    (inside parts resolved answered named).1, fun parts resolved answered named =>
    (inside parts resolved answered named).2⟩

/-- **A request that leaves the kinds out is answered as the engine's default call where the kinds are
irrelevant, and where edge ids are unique only there.** -/
theorem dependencies_mean_iff (py : Interpreter) (sha256 : Bytes → Text) {arguments : JsonObject}
    (request : DependencyRequest arguments) (scope : GraphSet) :
    (KindsIrrelevant py scope request.target request.options → DependenciesMean py sha256 request scope) ∧
      (scope.UniqueEdgeIds →
        (DependenciesMean py sha256 request scope ↔
          KindsIrrelevant py scope request.target request.options)) := by
  have enough : KindsIrrelevant py scope request.target request.options →
      DependenciesMean py sha256 request scope := fun irrelevant =>
    dependenciesMean_of_same (sameListing_of_irrelevant rfl irrelevant)
  refine ⟨enough, fun unique => ⟨fun mean => ?_, enough⟩⟩
  exact irrelevant_of_sameListing rfl unique ((answer_listed _ request).symm.trans mean.same)

end Request

/-! ### A class and its method -/

/-- A class that contains a method, which calls a function. -/
def classScope : GraphSet :=
  plainScope [plainGraph "p"
    [plainNode "p" "a" 'a',
      plainNode "p" "b" 'b',
      plainNode "p" "c" 'c']
    [plainEdge "p" '1' 'a' 'b' .contains,
      plainEdge "p" '2' 'b' 'c' .calls]
    none (by decide)] (by decide)

/-- The arguments of a request for the dependencies of a symbol. -/
def dependencyArguments (target : Text) : JsonObject :=
  [("solution_id", .str "shop"), ("operation", .str "dependencies"), ("target", .str target)]

def dependencyRequest (target : Text) (named : requireText (dependencyArguments target) "target" = .ok target) :
    DependencyRequest (dependencyArguments target) where
  budgets := ⟨defaultDepth, defaultMaxNodes, defaultMaxEdges, defaultMaxBytes⟩
  projection := none
  target := target
  budgets_read := rfl
  projection_read := rfl
  target_read := named
  kinds_out := rfl
  direction_out := rfl

/-- The handler follows `CONTAINS` as well, and lists a node that the default call does not. -/
theorem dependencies_drift :
    ¬ ∀ (py : Interpreter) (sha256 : Bytes → Text) (arguments : JsonObject)
      (request : DependencyRequest arguments) (scope : GraphSet), DependenciesMean py sha256 request scope := by
  intro mean
  have same := (mean .ascii (fun _ => digest '0') _ (dependencyRequest "a" rfl) classScope).same
  have counts := congrArg (Option.map fun listing : List JsonObject × List JsonObject =>
    (listing.1.length, listing.2.length)) same
  revert counts
  decide +kernel

/-- Asked of the method, both calls list it and the function. -/
theorem dependencies_mean_method :
    DependenciesMean .ascii (fun _ => digest '0') (dependencyRequest "b" rfl) classScope := by
  refine (dependencies_mean_iff .ascii (fun _ => digest '0') (dependencyRequest "b" rfl) classScope).1 ?_
  intro request resolved validated named
  have unique : classScope.resolve .ascii "b" = .ok
      (plainNode "p" "b" 'b') := rfl
  cases validated
  obtain rfl := Except.ok.inj (unique.symm.trans named)
  exact Or.inl rfl

end AxiomMcp.Tools
