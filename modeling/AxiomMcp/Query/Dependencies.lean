/-
**The default of `dependencies`, and a walk without it.**

`dependencies` called without `edge_kinds` follows the kinds of `DEPENDENCY_KINDS`; called with
`edge_kinds=None` it follows every kind. Both are walks along outgoing edges from one target, one over part of
the other's edges.

* `walkFrom_edges` — the edges a walk lists are those of the steps that passed its edge budget;
* `DependenciesAlone` — the condition under which the kinds make no difference: among the edges that leave the
  nodes that dependencies reach, the edge budget has room for the same resolved ones, whether the edges of
  other kinds are counted or not;
* `walks_same` and `walks_differ` — under it **both walks list the same nodes and edges**, and where edge ids
  are unique only under it.
-/

import AxiomMcp.Lib.SearchPart
import AxiomMcp.Query.Neighborhood
import AxiomMcp.Query.WalkExact

namespace AxiomMcp.Query

open AxiomMcp.Lib

/-! ### The code -/

/-- The constant `DEPENDENCY_KINDS`. -/
def dependencyKinds : List EdgeKind :=
  [.imports, .references, .calls, .inherits, .implements, .callsEndpoint, .reads, .writes,
    .executesProcedure, .dependsOn, .publishes, .subscribes, .tests]

/-- The keyword defaults of `dependencies`. -/
def dependenciesDefaults : QueryOptions :=
  keywordDefaults (some defaultDepth) (some (dependencyKinds.map EdgeKind.name)) (some defaultProjectionNames)

/-- `dependencies(scope, target, ...)` without the keyword `edge_kinds`, whose default then applies. -/
def dependenciesByDefault (py : Interpreter) (scope : GraphSet) (target : Text) (options : QueryOptions) :
    Except QueryModelError NeighborResult :=
  dependencies py scope target { options with edgeKinds := dependenciesDefaults.edgeKinds }

/-- The kinds as `choice_list` returns them. -/
def sortedDependencyKinds : List EdgeKind := sortedSet EdgeKind.name dependencyKinds

theorem validKinds_dependencies :
    validKinds dependenciesDefaults.edgeKinds [] = .ok sortedDependencyKinds := by
  decide

theorem namedKinds_dependencies : namedKinds sortedDependencyKinds = some sortedDependencyKinds := by
  decide

/-! ### The edges of a walk -/

section Edges

variable {pinned : GraphSet} {setting : WalkSetting}

/-- A resolved edge is stored under its id, the first of several. -/
def store (walked : Dict Text Edge) (step : Text × Edge) : Dict Text Edge :=
  if step.2.resolved then walked.setDefault step.2.id step.2 else walked

theorem collect_walked (scan : LevelScan) (nodeId : Text) (edge : Edge) :
    (scan.collect edge).walked = store scan.walked (nodeId, edge) := by
  unfold LevelScan.collect store
  cases edge.resolved <;> rfl

/-- Examining an edge stores it where the budget lets it pass. -/
theorem examine_walked {scan : LevelScan} {s : Scan Text Text Bool} (same : SameScan pinned scan s)
    (visited : Dict Text Node) (nodeId : Text) (edge : Edge) :
    (examine setting visited nodeId scan edge).walked =
      if edge.id ∉ s.known.map Prod.fst ∧ full (some setting.edgeBudget) s.known.length = true then scan.walked
      else store scan.walked (nodeId, edge) := by
  have guard : (!(scan.walked.has edge.id || scan.unresolved.has edge.id) &&
      decide (scan.walked.size + scan.unresolved.size ≥ setting.edgeBudget)) = true ↔
      edge.id ∉ s.known.map Prod.fst ∧ full (some setting.edgeBudget) s.known.length = true := by
    rw [Bool.and_eq_true, Bool.not_eq_true', decide_eq_true_iff, same.slots.count, full_some,
      ← Bool.not_eq_true, same.slots.known_iff]
  unfold examine
  by_cases refused : edge.id ∉ s.known.map Prod.fst ∧ full (some setting.edgeBudget) s.known.length = true
  · rw [if_pos refused]
    dsimp only
    rw [if_pos (guard.mpr refused)]
    rfl
  · rw [if_neg refused, ← collect_walked]
    dsimp only
    rw [if_neg (mt guard.mp refused)]
    cases otherEnd edge nodeId setting.heading with
    | none => rfl
    | some other =>
      dsimp only
      split
      · rfl
      · split <;> rfl

/-- The edges of one node. -/
theorem node_walked {visited : Dict Text Node} {seen : List Text} (keys : visited.keys = seen)
    (nodeId : Text) (edges : List Edge) (inside : ∀ edge ∈ edges, edge ∈ pinned.allEdges) :
    ∀ {scan : LevelScan} {s : Scan Text Text Bool}, SameScan pinned scan s →
      (edges.foldl (examine setting visited nodeId) scan).walked =
        (Net.passed (setting.net pinned).slot (some setting.edgeBudget) s.known
          (edges.map fun edge => (nodeId, edge))).foldl store scan.walked := by
  induction edges with
  | nil => exact fun _ => rfl
  | cons edge rest ih =>
    intro scan s same
    have next : SameScan pinned (examine setting visited nodeId scan edge)
        ((setting.net pinned).examine setting.limits seen s (nodeId, edge)) :=
      same.examine keys (inside edge List.mem_cons_self) nodeId
    have later := ih (fun other member => inside other (List.mem_cons_of_mem _ member)) next
    rw [List.foldl_cons, later, examine_walked same, List.map_cons, Net.passed]
    by_cases refused : ((setting.net pinned).slot edge).1 ∉ s.known.map Prod.fst ∧
        full (some setting.edgeBudget) s.known.length = true
    · have still : (setting.net pinned).examine setting.limits seen s (nodeId, edge) =
          { s with cut := true } := if_pos refused
      rw [if_pos refused, still]
      exact congrArg (fun walked => List.foldl store walked _) (if_pos refused)
    · have known : ((setting.net pinned).examine setting.limits seen s (nodeId, edge)).known =
          Net.counted s.known ((setting.net pinned).slot edge) :=
        (Net.examine_room (setting.net pinned) setting.limits seen refused).1
      rw [if_neg refused, known, List.foldl_cons]
      exact congrArg (fun walked => List.foldl store walked _) (if_neg refused)

/-- The nodes of one level. -/
theorem nodes_walked {visited : Dict Text Node} {seen : List Text} (keys : visited.keys = seen)
    (front : List Text) :
    ∀ {scan : LevelScan} {s : Scan Text Text Bool}, SameScan pinned scan s →
      (front.foldl (fun scan nodeId => (setting.incident pinned nodeId).foldl
          (examine setting visited nodeId) scan) scan).walked =
        (Net.passed (setting.net pinned).slot (some setting.edgeBudget) s.known
          ((setting.net pinned).steps front)).foldl store scan.walked := by
  induction front with
  | nil => exact fun _ => rfl
  | cons nodeId rest ih =>
    intro scan s same
    have inside : ∀ edge ∈ setting.incident pinned nodeId, edge ∈ pinned.allEdges := fun edge member =>
      (of_mem_incident member).1
    have next : SameScan pinned ((setting.incident pinned nodeId).foldl (examine setting visited nodeId) scan)
        ((setting.net pinned).scan setting.limits seen
          ((setting.incident pinned nodeId).map fun edge => (nodeId, edge)) s) :=
      SameScan.node keys nodeId _ inside same
    have later := ih next
    have known := (Net.scan_passed (setting.net pinned) setting.limits seen
      ((setting.incident pinned nodeId).map fun edge => (nodeId, edge)) s).1
    rw [List.foldl_cons, later, node_walked keys nodeId _ inside same, known, Net.steps_cons,
      Net.passed_append, List.foldl_append]
    rfl

/-- The edges stored after some levels are those of the steps that passed. -/
def StoredEdges (pinned : GraphSet) (setting : WalkSetting) (roots : List Text) (m : ℕ)
    (state : WalkState) : Prop :=
  state.walked = (Net.passed (setting.net pinned).slot (some setting.edgeBudget) []
    ((setting.net pinned).steps ((setting.net pinned).expanded setting.limits roots m))).foldl store Dict.empty

theorem StoredEdges.level {roots : List Text} {m : ℕ} {state : WalkState}
    (stored : StoredEdges pinned setting roots m state)
    (same : SameState pinned state (setting.search pinned roots m)) :
    (expandLevel pinned setting state).walked =
      (Net.passed (setting.net pinned).slot (some setting.edgeBudget) []
        ((setting.net pinned).steps ((setting.net pinned).expanded setting.limits roots (m + 1)))).foldl store
          Dict.empty := by
  have scanned : SameScan pinned
      ⟨state.walked, state.unresolved, [], state.reasons, state.blockedAt⟩
      ⟨(setting.search pinned roots m).known, [], (setting.search pinned roots m).cut⟩ :=
    ⟨same.slots, rfl, same.cut⟩
  unfold expandLevel
  rw [nodes_walked same.visited_keys state.current scanned, stored, same.current, Net.expanded_succ,
    Net.steps_append, Net.passed_append, List.foldl_append]
  refine congrArg (fun known => List.foldl store _ (Net.passed _ _ known _)) ?_
  exact Net.run_known m

theorem walkLevels_stored {roots : List Text} (distinct : roots.Nodup) (remaining : ℕ) :
    ∀ {m : ℕ} {state state' : WalkState} (level : ℕ),
      SameState pinned state (setting.search pinned roots m) →
      StoredEdges pinned setting roots m state →
      walkLevels pinned setting state level remaining = .ok state' →
        StoredEdges pinned setting roots (m + remaining) state' := by
  induction remaining with
  | zero =>
    intro m state state' level _ stored done
    cases done
    exact stored
  | succ remaining ih =>
    intro m state state' level same stored done
    rw [walkLevels] at done
    by_cases stop : state.current = []
    · rw [if_pos stop] at done
      cases done
      have empty : ((setting.net pinned).run setting.limits roots m).front = [] := same.current ▸ stop
      have still : (setting.net pinned).expanded setting.limits roots (m + (remaining + 1)) =
          (setting.net pinned).expanded setting.limits roots m := by
        have last : (setting.net pinned).run setting.limits roots (m + remaining) =
            (setting.net pinned).run setting.limits roots m := Net.run_of_front_nil empty remaining
        change ((setting.net pinned).run setting.limits roots (m + remaining)).seen = _
        rw [last, Net.run_seen_eq, empty, List.append_nil]
      unfold StoredEdges
      rw [still]
      exact stored
    rw [if_neg stop] at done
    have scanned : SameScan pinned (expandLevel pinned setting state) _ := same.level
    have discovered : (setting.search pinned roots (m + 1)).seen =
        state.visited.keys ++ (expandLevel pinned setting state).discovered := by
      rw [same.visited_keys, scanned.discovered]
      rfl
    have apart : (state.visited.keys ++ (expandLevel pinned setting state).discovered).Nodup := by
      rw [← discovered]
      exact (Net.searched_run distinct (m + 1)).seen_nodup
    rcases visitAll_outcome (expandLevel pinned setting state).discovered same.visited_nodes apart
      with ⟨visited, found, ⟨keys, holds⟩, _⟩ | ⟨nodeId, _, _, raised⟩
    · simp only [found] at done
      have moved : SameState pinned (state.next (expandLevel pinned setting state) visited level)
          (setting.search pinned roots (m + 1)) :=
        ⟨scanned.slots, keys.trans discovered.symm, holds, scanned.discovered, scanned.cut⟩
      have rest := ih (level + 1) moved (stored.level same) done
      rw [Nat.add_right_comm] at rest
      exact rest
    · simp only [raised] at done
      cases done

/-- **The edges a walk lists are those of the steps that passed its edge budget.** -/
theorem walkFrom_edges {roots : List Text} {walk : Walk} (distinct : roots.Nodup)
    (done : walkFrom pinned setting roots = .ok walk) :
    walk.edges = ((Net.passed (setting.net pinned).slot (some setting.edgeBudget) []
      ((setting.net pinned).steps ((setting.net pinned).expanded setting.limits roots setting.hops))).foldl
        store Dict.empty).inKeyOrder := by
  unfold walkFrom at done
  have begun : LooksUp pinned _ (startWalk pinned setting roots) fun state =>
      SameState pinned state (setting.search pinned roots 0) := startWalk_outcome distinct
  rcases begun with ⟨state, started, same, _⟩ | ⟨_, _, _, raised⟩
  · simp only [started] at done
    have start : StoredEdges pinned setting roots 0 state := by
      unfold startWalk at started
      cases visits : visitRoots pinned setting Dict.empty roots with
      | error refused =>
        rw [visits] at started
        cases started
      | ok visited =>
        rw [visits] at started
        cases started
        rfl
    cases levels : walkLevels pinned setting state 1 setting.hops with
    | error refused =>
      simp only [levels] at done
      cases done
    | ok last =>
      simp only [levels] at done
      cases done
      have stored := walkLevels_stored distinct setting.hops 1 same start levels
      rw [Nat.zero_add] at stored
      exact congrArg Dict.inKeyOrder stored
  · simp only [raised] at done
    cases done

end Edges

/-! ### One walk over part of the edges of another -/

/-- An edge of one of the dependency kinds. -/
def isDependency (edge : Edge) : Bool := decide (edge.kind ∈ sortedDependencyKinds)

section Part

variable (pinned : GraphSet) (hops nodeBudget edgeBudget : ℕ)

/-- A walk along outgoing edges of every kind. -/
def everyKind : WalkSetting := ⟨hops, .outgoing, none, nodeBudget, edgeBudget, none⟩

/-- The same walk along dependencies. -/
def dependencyKind : WalkSetting :=
  ⟨hops, .outgoing, some sortedDependencyKinds, nodeBudget, edgeBudget, none⟩

/-- **The dependency kinds make no difference to a walk from `root`**: among the edges that leave the nodes
that dependencies reach in fewer than `hops` hops, in the order a walk tries them, the edge budget has room for
the same resolved ones, whether the edges of other kinds are counted or not. -/
def DependenciesAlone (root : Text) : Prop :=
  Net.SamePassed ((everyKind hops nodeBudget edgeBudget).net pinned) isDependency
    ⟨some nodeBudget, some edgeBudget⟩ [root] hops

variable {pinned hops nodeBudget edgeBudget}

/-- The dependencies at a node are part of its edges. -/
theorem incident_dependencies (nodeId : Text) :
    incident pinned nodeId .outgoing (some sortedDependencyKinds) none =
      (incident pinned nodeId .outgoing none none).filter isDependency := by
  unfold incident restrictResolutions
  rw [GraphSet.outgoing_eq, GraphSet.outgoing_eq]
  exact sortedBy_filter edgeOrder isDependency _

theorem net_dependencies :
    (dependencyKind hops nodeBudget edgeBudget).net pinned =
      ((everyKind hops nodeBudget edgeBudget).net pinned).part isDependency := by
  unfold WalkSetting.net walkNet Net.part
  simp only [dependencyKind, everyKind, incident_dependencies]

theorem search_dependencies (roots : List Text) (n : ℕ) :
    (dependencyKind hops nodeBudget edgeBudget).search pinned roots n =
      (((everyKind hops nodeBudget edgeBudget).net pinned).part isDependency).run
        ⟨some nodeBudget, some edgeBudget⟩ roots n := by
  unfold WalkSetting.search
  rw [net_dependencies]
  rfl

/-- An edge that leaves a node leads somewhere exactly if it is resolved. -/
theorem leads_iff {nodeId : Text} {edge : Edge}
    (member : edge ∈ incident pinned nodeId .outgoing none none) :
    (otherEnd edge nodeId .outgoing).isSome = edge.resolved := by
  have here : edge.sourceId = nodeId := (of_mem_incident member).2.2
  unfold otherEnd Edge.resolved
  cases edge.targetId with
  | none => rfl
  | some target => simp [here]

/-- Only the steps that lead somewhere are stored. -/
theorem store_leading (pinned : GraphSet) {steps : List (Text × Edge)}
    (inside : ∀ step ∈ steps, step.2 ∈ incident pinned step.1 .outgoing none none) :
    ∀ walked : Dict Text Edge, steps.foldl store walked =
      (Net.leading (fun nodeId edge => otherEnd edge nodeId .outgoing) steps).foldl store walked := by
  induction steps with
  | nil => exact fun _ => rfl
  | cons step rest ih =>
    intro walked
    have later := ih fun other member => inside other (List.mem_cons_of_mem _ member)
    have leads := leads_iff (inside step List.mem_cons_self)
    unfold Net.leading at later ⊢
    cases resolved : step.2.resolved with
    | false =>
      have still : store walked step = walked := by
        unfold store
        rw [if_neg (by rw [resolved]; exact Bool.false_ne_true)]
      rw [List.filter_cons_of_neg (by rw [leads, resolved]; exact Bool.false_ne_true), List.foldl_cons, still]
      exact later walked
    | true =>
      rw [List.filter_cons_of_pos (by rw [leads, resolved]), List.foldl_cons, List.foldl_cons]
      exact later _

/-- Two lists of pinned nodes with the same ids. -/
theorem nodes_eq_of_ids : ∀ {nodes nodes' : List Node}, (∀ node ∈ nodes, node ∈ pinned.allNodes) →
    (∀ node ∈ nodes', node ∈ pinned.allNodes) → nodes.map Node.id = nodes'.map Node.id → nodes = nodes'
  | [], [], _, _, _ => rfl
  | [], _ :: _, _, _, same => by cases same
  | _ :: _, [], _, _, same => by cases same
  | node :: nodes, node' :: nodes', left, right, same => by
    obtain ⟨first, rest⟩ := List.cons.inj same
    rw [GraphSet.node_eq_of_id (left node List.mem_cons_self) (right node' List.mem_cons_self) first,
      nodes_eq_of_ids (fun other member => left other (List.mem_cons_of_mem _ member))
        (fun other member => right other (List.mem_cons_of_mem _ member)) rest]

/-- The steps from some nodes are incident edges. -/
theorem steps_incident {setting : WalkSetting} (heading : setting.heading = .outgoing)
    (every : setting.allowedResolutions = none) {nodes : List Text} {step : Text × Edge}
    (member : step ∈ (setting.net pinned).steps nodes) :
    step.2 ∈ incident pinned step.1 .outgoing none none := by
  obtain ⟨_, inside⟩ := Net.mem_steps.mp member
  have inside : step.2 ∈ incident pinned step.1 setting.heading setting.kinds setting.allowedResolutions := inside
  rw [heading, every] at inside
  obtain ⟨listed, _, touches⟩ := of_mem_incident inside
  exact (mem_incident (by rintro ⟨⟩)).mpr ⟨listed, passes_none _, touches⟩

/-- **Where the dependency kinds make no difference, both walks list the same nodes and edges.** -/
theorem walks_same {root : Text} {walk walk' : Walk}
    (alone : DependenciesAlone pinned hops nodeBudget edgeBudget root)
    (done : walkFrom pinned (everyKind hops nodeBudget edgeBudget) [root] = .ok walk)
    (done' : walkFrom pinned (dependencyKind hops nodeBudget edgeBudget) [root] = .ok walk')
    (walked : Walked pinned (everyKind hops nodeBudget edgeBudget) [root] walk)
    (walked' : Walked pinned (dependencyKind hops nodeBudget edgeBudget) [root] walk') :
    walk.nodes = walk'.nodes ∧ walk.edges = walk'.edges := by
  have distinct : [root].Nodup := List.nodup_singleton root
  have inStep := Net.run_part distinct alone hops (Nat.le_refl _)
  constructor
  · refine nodes_eq_of_ids walked.nodes_pinned walked'.nodes_pinned ?_
    change walk.nodeIds = walk'.nodeIds
    rw [walked.node_ids, walked'.node_ids]
    refine congrArg (sortedBy id) ?_
    change ((everyKind hops nodeBudget edgeBudget).search pinned [root] hops).seen =
      ((dependencyKind hops nodeBudget edgeBudget).search pinned [root] hops).seen
    rw [search_dependencies]
    exact inStep.seen
  · rw [walkFrom_edges distinct done, walkFrom_edges distinct done']
    refine congrArg Dict.inKeyOrder ?_
    rw [store_leading pinned fun step member =>
        steps_incident rfl rfl ((Net.passed_sublist _ _).subset member),
      store_leading pinned fun step member =>
        steps_incident rfl rfl ((Net.passed_sublist _ _).subset member)]
    refine congrArg (fun steps => List.foldl store Dict.empty steps) ?_
    unfold DependenciesAlone Net.SamePassed at alone
    rw [net_dependencies]
    change Net.leading _ (Net.passed _ _ [] (((everyKind hops nodeBudget edgeBudget).net pinned).steps
      (((everyKind hops nodeBudget edgeBudget).net pinned).expanded ⟨some nodeBudget, some edgeBudget⟩ [root]
        hops))) = _
    rw [inStep.1]
    exact alone

/-- Where edge ids are unique, a walk tries no id twice. -/
theorem single_of_unique (unique : pinned.UniqueEdgeIds) :
    ((everyKind hops nodeBudget edgeBudget).net pinned).Single where
  incident_nodup nodeId := by
    change (incident pinned nodeId .outgoing none none).Nodup
    unfold incident restrictResolutions
    refine sortedBy_nodup _ _ ?_
    rw [GraphSet.outgoing_eq]
    exact (List.Nodup.of_map _ unique).filter _
  key_unique u edge member u' edge' member' same := by
    have here : edge ∈ incident pinned u .outgoing none none := member
    have here' : edge' ∈ incident pinned u' .outgoing none none := member'
    obtain ⟨inside, _, starts⟩ := of_mem_incident here
    obtain ⟨inside', _, starts'⟩ := of_mem_incident here'
    have equal : edge = edge' := GraphSet.edge_eq_of_id unique inside inside' same
    subst equal
    exact ⟨starts.symm.trans starts', rfl⟩

/-- **Where edge ids are unique, walks that list the same edges are not told apart by the kinds.** -/
theorem walks_differ {root : Text} {walk walk' : Walk} (unique : pinned.UniqueEdgeIds)
    (walked : Walked pinned (everyKind hops nodeBudget edgeBudget) [root] walk)
    (walked' : Walked pinned (dependencyKind hops nodeBudget edgeBudget) [root] walk')
    (same : walk.edges.map Edge.id = walk'.edges.map Edge.id) :
    DependenciesAlone pinned hops nodeBudget edgeBudget root := by
  refine (Net.passed_part (single_of_unique unique) (List.nodup_singleton root) ?_ hops (Nat.le_refl _)).2
  intro nodeId edge member leads
  have resolved : edge.resolved = true := (leads_iff member).symm.trans leads
  have slot : ((everyKind hops nodeBudget edgeBudget).net pinned).slot edge = (edge.id, true) :=
    Prod.ext rfl resolved
  have every := walked.edge_ids edge.id
  have some := walked'.edge_ids edge.id
  have listed : (∃ other ∈ walk.edges, other.id = edge.id) ↔ ∃ other ∈ walk'.edges, other.id = edge.id := by
    rw [← List.mem_map, ← List.mem_map, same]
  rw [slot]
  refine every.symm.trans (listed.trans (some.trans ?_))
  change (edge.id, true) ∈ ((dependencyKind hops nodeBudget edgeBudget).search pinned [root] hops).known ↔ _
  rw [search_dependencies]

/-! ### What the dependency walk lists -/

/-- What is stored along some steps. -/
theorem stored_from {steps : List (Text × Edge)} {edge : Edge} : ∀ {walked : Dict Text Edge},
    edge ∈ (steps.foldl store walked).inKeyOrder →
      edge ∈ walked.inKeyOrder ∨ ∃ step ∈ steps, step.2 = edge := by
  induction steps with
  | nil => exact fun member => Or.inl member
  | cons step rest ih =>
    intro walked member
    rcases ih member with before | ⟨other, inside, rfl⟩
    · unfold store at before
      by_cases resolved : step.2.resolved = true
      · rw [if_pos resolved] at before
        obtain ⟨edgeId, found⟩ := Dict.mem_inKeyOrder.mp before
        rw [Dict.get?_setDefault] at found
        by_cases here : edgeId = step.2.id
        · rw [if_pos here] at found
          cases old : walked.get? step.2.id with
          | none =>
            rw [old] at found
            cases found
            exact Or.inr ⟨step, List.mem_cons_self, rfl⟩
          | some first =>
            rw [old] at found
            cases found
            exact Or.inl (Dict.mem_inKeyOrder.mpr ⟨_, old⟩)
        · rw [if_neg here] at found
          exact Or.inl (Dict.mem_inKeyOrder.mpr ⟨_, found⟩)
      · rw [if_neg resolved] at before
        exact Or.inl before
    · exact Or.inr ⟨other, List.mem_cons_of_mem _ inside, rfl⟩

/-- The dependency walk lists dependencies. -/
theorem dependency_edges {root : Text} {walk : Walk}
    (done : walkFrom pinned (dependencyKind hops nodeBudget edgeBudget) [root] = .ok walk) :
    ∀ edge ∈ walk.edges, edge ∈ pinned.allEdges ∧ edge.kind ∈ dependencyKinds := by
  intro edge member
  rw [walkFrom_edges (List.nodup_singleton root) done] at member
  rcases stored_from member with none | ⟨step, passed, rfl⟩
  · exact absurd none List.not_mem_nil
  · obtain ⟨_, inside⟩ := Net.mem_steps.mp ((Net.passed_sublist _ _).subset passed)
    have here : step.2 ∈ incident pinned step.1 .outgoing (some sortedDependencyKinds) none := inside
    obtain ⟨listed, passes, _⟩ := of_mem_incident here
    exact ⟨listed, mem_sortedSet.mp (passes.1 _ rfl)⟩

end Part

/-! ### The two calls -/

/-- The nodes and the edges of an answer; of an ambiguous target they are its candidates. -/
def NeighborResult.listed (result : NeighborResult) : List JsonObject × List JsonObject :=
  if result.status = .ambiguousTarget then (result.candidates, []) else (result.nodes, result.edges)

/-- The walk meets a node that the scope does not pin, on which it raises. -/
def LeavesScope (pinned : GraphSet) (setting : WalkSetting) (root : Text) : Prop :=
  ∃ nodeId ∈ (setting.search pinned [root] setting.hops).seen, ¬ pinned.Pinned nodeId

section Calls

variable (py : Interpreter) (scope : GraphSet) (target : Text) (options : QueryOptions)

/-- The two calls, with `edge_kinds=None` and without `edge_kinds`, list the same nodes and edges. -/
def SameListing : Prop :=
  (dependencies py scope target options).toOption.map NeighborResult.listed =
    (dependenciesByDefault py scope target options).toOption.map NeighborResult.listed

/-- The condition on the scope: where the options are valid and the target names one node, the dependency
kinds make no difference to the walk from it, or both walks leave the scope. -/
def KindsIrrelevant : Prop :=
  ∀ request resolved,
    directedRequest scope { options with direction := some Direction.outgoing.name } = .ok request →
    request.pinned.resolve py target = .ok resolved →
      DependenciesAlone request.pinned request.hops request.nodeBudget request.edgeBudget resolved.id ∨
        LeavesScope request.pinned (everyKind request.hops request.nodeBudget request.edgeBudget) resolved.id ∧
          LeavesScope request.pinned (dependencyKind request.hops request.nodeBudget request.edgeBudget)
            resolved.id

variable {py scope target options}

/-- The options of `dependencies`, which walks along outgoing edges. -/
def outgoingOptions (options : QueryOptions) : QueryOptions :=
  { options with direction := some Direction.outgoing.name }

variable (scope) in
/-- The default is one validated request with other kinds. -/
theorem directedRequest_default {options : QueryOptions} (left : options.edgeKinds = none) :
    directedRequest scope { options with edgeKinds := dependenciesDefaults.edgeKinds } =
      (directedRequest scope options).map fun request =>
        { request with kinds := sortedDependencyKinds } := by
  have none : validKinds options.edgeKinds [] = .ok [] := by
    rw [left]
    rfl
  unfold directedRequest
  rw [none, validKinds_dependencies]
  cases narrowScope scope options.projectIds with
  | error refused => rfl
  | ok pinned =>
    cases normaliseProjection options.projection with
    | error refused => rfl
    | ok sections =>
      cases validDepth options.depth with
      | error refused => rfl
      | ok hops =>
        cases validDirection options.direction with
        | error refused => rfl
        | ok heading =>
          cases validNodeBudget options.maxNodes with
          | error refused => rfl
          | ok nodeBudget =>
            cases validEdgeBudget options.maxEdges with
            | error refused => rfl
            | ok edgeBudget => rfl

/-- A validated request of `dependencies` walks along outgoing edges. -/
theorem outgoing_of_accepted {request : DirectedRequest}
    (accepted : request.Accepted scope { options with direction := some Direction.outgoing.name }) :
    request.heading = .outgoing := by
  have chosen : validDirection (some Direction.outgoing.name) = .ok .outgoing := by decide
  exact Except.ok.inj (accepted.heading.symm.trans chosen)

/-- The traversal after its validation. -/
def traverse (py : Interpreter) (target : Text) (request : DirectedRequest) :
    Except QueryModelError NeighborResult := do
  match ← selectTarget py request.pinned target with
  | .ambiguous candidateIds => ambiguousNeighbor py "dependencies" request target candidateIds
  | .one resolved =>
    let walk ← request.walk resolved
    neighborAnswer "dependencies" request resolved walk

/-- What a walk from the target is listed as. -/
theorem traverse_one {options : QueryOptions} {request : DirectedRequest} {resolved : Node}
    (accepted : request.Accepted scope options)
    (named : request.pinned.resolve py target = .ok resolved) :
    (∃ walk documents, walkFrom request.pinned request.setting [resolved.id] = .ok walk ∧
        Walked request.pinned request.setting [resolved.id] walk ∧
        nodeDocuments request.pinned request.sections walk.nodes = .ok documents ∧
        listedIds documents = walk.nodes.map Node.id ∧
        ¬ LeavesScope request.pinned request.setting resolved.id ∧
        (traverse py target request).toOption.map NeighborResult.listed =
          some (documents, walk.edges.map Edge.asDocument)) ∨
      LeavesScope request.pinned request.setting resolved.id ∧
        (traverse py target request).toOption.map NeighborResult.listed = none := by
  have rooted := GraphSet.pinned_of_resolve named
  have admitted : (walkOptions request.hops request.heading (namedKinds request.kinds) none
      request.nodeBudget request.edgeBudget).setting = .ok request.setting :=
    walkOptions_setting (validDepth_le accepted.hops) (validNodeBudget_range accepted.nodeBudget)
      (validEdgeBudget_le accepted.edgeBudget) (validKinds_sorted accepted.kinds)
      fun _ allowed => by cases allowed
  have walks : request.walk resolved = walkFrom request.pinned request.setting [resolved.id] := by
    rw [DirectedRequest.walk, boundedWalk_single rooted admitted]
  have same : traverse py target request =
      walkFrom request.pinned request.setting [resolved.id] >>= neighborAnswer "dependencies" request resolved := by
    unfold traverse
    rw [selectTarget_one.mpr named, ← walks]
    rfl
  have outcome : LooksUp request.pinned _ (walkFrom request.pinned request.setting [resolved.id]) _ :=
    walkFrom_outcome (List.nodup_singleton _)
  rw [same]
  rcases outcome with ⟨walk, done, walked, all⟩ | ⟨nodeId, member, absent, raised⟩
  · obtain ⟨documents, shown, ids⟩ := nodeDocuments_ok request.sections walked.nodes_pinned
    refine Or.inl ⟨walk, documents, done, walked, shown, ids, ?_, ?_⟩
    · rintro ⟨nodeId, member, absent⟩
      exact absent (all nodeId member)
    · rw [done]
      change ((neighborAnswer "dependencies" request resolved walk).toOption.map _) = _
      rw [neighborAnswer, shown]
      rfl
  · refine Or.inr ⟨⟨nodeId, member, absent⟩, ?_⟩
    rw [raised]
    rfl

/-- An ambiguous target lists the same candidates whatever the kinds. -/
theorem traverse_ambiguous (request : DirectedRequest) (kinds : List EdgeKind)
    (other : ∀ resolved, request.pinned.resolve py target ≠ .ok resolved) :
    (traverse py target request).toOption.map NeighborResult.listed =
      (traverse py target { request with kinds := kinds }).toOption.map NeighborResult.listed := by
  unfold traverse
  cases chosen : selectTarget py request.pinned target with
  | error refused => rfl
  | ok selected =>
    cases selected with
    | one resolved => exact absurd (selectTarget_one.mp chosen) (other resolved)
    | ambiguous candidateIds =>
      change (ambiguousNeighbor py _ request target candidateIds).toOption.map _ =
        (ambiguousNeighbor py _ { request with kinds := kinds } target candidateIds).toOption.map _
      unfold ambiguousNeighbor
      cases candidateDocuments request.pinned request.sections candidateIds with
      | error refused => rfl
      | ok candidates => rfl

/-- The call with `edge_kinds=None`, from its validated request on. -/
theorem dependencies_traverse {request : DirectedRequest}
    (validated : directedRequest scope { options with direction := some Direction.outgoing.name } = .ok request) :
    dependencies py scope target options = traverse py target request := by
  unfold dependencies neighbourTraversal
  rw [validated]
  rfl

/-- The call without `edge_kinds`, from there on. -/
theorem default_traverse (left : options.edgeKinds = none) {request : DirectedRequest}
    (validated : directedRequest scope { options with direction := some Direction.outgoing.name } = .ok request) :
    dependenciesByDefault py scope target options =
      traverse py target { request with kinds := sortedDependencyKinds } := by
  have validated' := directedRequest_default scope (show (outgoingOptions options).edgeKinds = none from left)
  unfold outgoingOptions at validated'
  unfold dependenciesByDefault dependencies neighbourTraversal
  dsimp only at validated' ⊢
  rw [validated', validated]
  rfl

theorem sameListing_iff_traverse (left : options.edgeKinds = none) {request : DirectedRequest}
    (validated : directedRequest scope { options with direction := some Direction.outgoing.name } = .ok request) :
    SameListing py scope target options ↔
      (traverse py target request).toOption.map NeighborResult.listed =
        (traverse py target { request with kinds := sortedDependencyKinds }).toOption.map
          NeighborResult.listed := by
  unfold SameListing
  rw [dependencies_traverse validated, default_traverse left validated]

/-- A refused request is refused with either kinds. -/
theorem sameListing_of_refused (left : options.edgeKinds = none) {refused : QueryModelError}
    (raised : directedRequest scope { options with direction := some Direction.outgoing.name } =
      .error refused) : SameListing py scope target options := by
  have validated' := directedRequest_default scope (show (outgoingOptions options).edgeKinds = none from left)
  unfold outgoingOptions at validated'
  unfold SameListing dependenciesByDefault dependencies neighbourTraversal
  dsimp only at validated' ⊢
  rw [validated', raised]
  rfl

/-- What the walk of a setting lists. -/
def Lists (request : DirectedRequest) (setting : WalkSetting) (resolved : Node)
    (listing : Option (List JsonObject × List JsonObject)) : Prop :=
  (∃ walk documents, walkFrom request.pinned setting [resolved.id] = .ok walk ∧
      Walked request.pinned setting [resolved.id] walk ∧
      nodeDocuments request.pinned request.sections walk.nodes = .ok documents ∧
      listedIds documents = walk.nodes.map Node.id ∧
      ¬ LeavesScope request.pinned setting resolved.id ∧
      listing = some (documents, walk.edges.map Edge.asDocument)) ∨
    LeavesScope request.pinned setting resolved.id ∧ listing = none

/-- The walks of the two calls. -/
theorem both_walks (left : options.edgeKinds = none) {request : DirectedRequest} {resolved : Node}
    (validated : directedRequest scope { options with direction := some Direction.outgoing.name } = .ok request)
    (named : request.pinned.resolve py target = .ok resolved) :
    Lists request (everyKind request.hops request.nodeBudget request.edgeBudget) resolved
        ((traverse py target request).toOption.map NeighborResult.listed) ∧
      Lists request (dependencyKind request.hops request.nodeBudget request.edgeBudget) resolved
        ((traverse py target { request with kinds := sortedDependencyKinds }).toOption.map
          NeighborResult.listed) := by
  have accepted := directedRequest_ok.mp validated
  have validated' := directedRequest_default scope (show (outgoingOptions options).edgeKinds = none from left)
  unfold outgoingOptions at validated'
  rw [validated] at validated'
  have accepted' := directedRequest_ok.mp validated'
  have heading := outgoing_of_accepted accepted
  have kinds : request.kinds = [] := by
    have given := accepted.kinds
    dsimp only at given
    rw [left] at given
    exact (Except.ok.inj given).symm
  have every : request.setting = everyKind request.hops request.nodeBudget request.edgeBudget := by
    unfold DirectedRequest.setting everyKind
    rw [heading, kinds]
    rfl
  have some : DirectedRequest.setting { request with kinds := sortedDependencyKinds } =
      dependencyKind request.hops request.nodeBudget request.edgeBudget := by
    unfold DirectedRequest.setting dependencyKind
    dsimp only
    rw [heading, namedKinds_dependencies]
  have one := traverse_one accepted named
  have named' : (DirectedRequest.pinned { request with kinds := sortedDependencyKinds }).resolve py target =
      .ok resolved := named
  have two := traverse_one accepted' named'
  rw [every] at one
  rw [some] at two
  exact ⟨one, two⟩

/-- The same nodes are seen, so both walks leave the scope or neither does. -/
theorem leavesScope_iff {pinned : GraphSet} {hops nodeBudget edgeBudget : ℕ} {root : Text}
    (alone : DependenciesAlone pinned hops nodeBudget edgeBudget root) :
    LeavesScope pinned (everyKind hops nodeBudget edgeBudget) root ↔
      LeavesScope pinned (dependencyKind hops nodeBudget edgeBudget) root := by
  have seen := (Net.run_part (List.nodup_singleton root) alone hops (Nat.le_refl _)).seen
  have same : ((everyKind hops nodeBudget edgeBudget).search pinned [root] hops).seen =
      ((dependencyKind hops nodeBudget edgeBudget).search pinned [root] hops).seen := by
    rw [search_dependencies]
    exact seen
  unfold LeavesScope
  change (∃ nodeId ∈ ((everyKind hops nodeBudget edgeBudget).search pinned [root] hops).seen, _) ↔
    ∃ nodeId ∈ ((dependencyKind hops nodeBudget edgeBudget).search pinned [root] hops).seen, _
  rw [same]

/-- **Where the kinds are irrelevant, both calls list the same nodes and edges.** -/
theorem sameListing_of_irrelevant (left : options.edgeKinds = none)
    (irrelevant : KindsIrrelevant py scope target options) : SameListing py scope target options := by
  cases validated : directedRequest scope { options with direction := some Direction.outgoing.name } with
  | error refused => exact sameListing_of_refused left validated
  | ok request =>
    rw [sameListing_iff_traverse left validated]
    by_cases named : ∃ resolved, request.pinned.resolve py target = .ok resolved
    · obtain ⟨resolved, named⟩ := named
      obtain ⟨one, two⟩ := both_walks left validated named
      rcases one with ⟨walk, documents, done, walked, shown, _, stays, listing⟩ | ⟨leaves, listing⟩
      · rcases two with ⟨walk', documents', done', walked', shown', _, _, listing'⟩ | ⟨leaves', _⟩
        · have alone := (irrelevant request resolved validated named).resolve_right fun both => stays both.1
          obtain ⟨nodes, edges⟩ := walks_same alone done done' walked walked'
          rw [nodes, shown'] at shown
          rw [listing, listing', edges, Except.ok.inj shown]
        · rcases irrelevant request resolved validated named with alone | both
          · exact absurd ((leavesScope_iff alone).mpr leaves') stays
          · exact absurd both.1 stays
      · rcases two with ⟨_, _, _, _, _, _, stays', _⟩ | ⟨_, listing'⟩
        · rcases irrelevant request resolved validated named with alone | both
          · exact absurd ((leavesScope_iff alone).mp leaves) stays'
          · exact absurd both.2 stays'
        · rw [listing, listing']
    · exact traverse_ambiguous request _ fun resolved found => named ⟨resolved, found⟩

/-- What the default call lists: dependencies, and nodes reached through them. -/
theorem default_listing (left : options.edgeKinds = none) {request : DirectedRequest} {resolved : Node}
    (validated : directedRequest scope { options with direction := some Direction.outgoing.name } = .ok request)
    (named : request.pinned.resolve py target = .ok resolved)
    {listing : List JsonObject × List JsonObject}
    (listed : (traverse py target { request with kinds := sortedDependencyKinds }).toOption.map
      NeighborResult.listed = some listing) :
    (∀ document ∈ listing.2, ∃ edge ∈ request.pinned.allEdges,
      edge.kind ∈ dependencyKinds ∧ document = edge.asDocument) ∧
    ∀ nodeId ∈ listedIds listing.1, nodeId ∈
      (dependencyKind request.hops request.nodeBudget request.edgeBudget).Reaches request.pinned [resolved.id]
        request.hops := by
  rcases (both_walks left validated named).2 with
    ⟨walk, documents, done, walked, _, ids, _, listing'⟩ | ⟨_, listing'⟩
  · obtain rfl := Option.some.inj (listed.symm.trans listing')
    constructor
    · intro document member
      obtain ⟨edge, inside, rfl⟩ := List.mem_map.mp member
      obtain ⟨pinned, kind⟩ := dependency_edges done edge inside
      exact ⟨edge, pinned, kind, rfl⟩
    · intro nodeId member
      rw [ids] at member
      obtain ⟨node, inside, rfl⟩ := List.mem_map.mp member
      exact walked.within (List.nodup_singleton _) inside
  · cases listed.symm.trans listing'

/-- An edge's document shows its id. -/
theorem idOf_edge (edge : Edge) : idOf edge.asDocument = some edge.id := by
  unfold Edge.asDocument
  rfl

/-- **Where edge ids are unique, only there.** -/
theorem irrelevant_of_sameListing (left : options.edgeKinds = none) (unique : scope.UniqueEdgeIds)
    (same : SameListing py scope target options) : KindsIrrelevant py scope target options := by
  intro request resolved validated named
  rw [sameListing_iff_traverse left validated] at same
  have unique' := narrowScope_unique (directedRequest_ok.mp validated).pinned unique
  obtain ⟨one, two⟩ := both_walks left validated named
  rcases one with ⟨walk, documents, _, walked, _, _, _, listing⟩ | ⟨leaves, listing⟩
  · rcases two with ⟨walk', documents', _, walked', _, _, _, listing'⟩ | ⟨_, listing'⟩
    · rw [listing, listing'] at same
      have edges := (Prod.mk.inj (Option.some.inj same)).2
      have ids : ∀ edges : List Edge, (edges.map Edge.asDocument).filterMap idOf = edges.map Edge.id := by
        intro edges
        rw [List.filterMap_map]
        refine (List.filterMap_congr fun edge _ => idOf_edge edge).trans ?_
        rw [← List.filterMap_eq_map]
        rfl
      refine Or.inl (walks_differ unique' walked walked' ?_)
      rw [← ids, ← ids, edges]
    · rw [listing, listing'] at same
      cases same
  · rcases two with ⟨_, _, _, _, _, _, _, listing'⟩ | ⟨leaves', _⟩
    · rw [listing, listing'] at same
      cases same
    · exact Or.inr ⟨leaves, leaves'⟩

end Calls

end AxiomMcp.Query
