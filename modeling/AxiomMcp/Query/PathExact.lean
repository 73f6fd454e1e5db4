/-
**A found path is a shortest path, and a proven absence is an absence.**

Between levels the search keeps its links (`AtLevel`) and, where the ids of edges are unique, is at the
frontier of a ball (`Explored`); a level that nothing stops moves it by one hop (`AtLevel.step`), and a level
that finds the goal finds it at its distance (`AtLevel.found`). `Ends` lists how a search ends.

* `path_shortest` — **a found path is a path** within the depth, and on a scope with unique edge ids a shortest
  one, whatever the budgets cut;
* `path_absent` — **a proven absence** comes without a missing member, and neither a budget nor the depth cut
  the search; on a scope with unique edge ids nothing joins the two nodes, and no unresolved edge was left
  unsaid.

Without unique edge ids an edge can be taken for one tried before: `path_detours` and
`path_absent_wrong`.
-/

import AxiomMcp.Query.PathSearch

namespace AxiomMcp.Query

open AxiomMcp.Lib

namespace DirectedRequest

variable {request : DirectedRequest} {start goal : Text} {L : ℕ} {front : List Text} {s t : State}

/-! ### Between levels -/

/-- After `L` levels that skipped no edge for the id of another one. -/
structure Explored (request : DirectedRequest) (start : Text) (L : ℕ) (front : List Text) (s : State) :
    Prop where
  frontier : Frontier request.Hop {start} L {v | v ∈ s.visited} {v | v ∈ front}
  accounted : Accounted request s
  /-- Behind the front every edge was tried. -/
  behind : ∀ u ∈ s.visited, u ∉ front → ∀ edge ∈ request.incident u, edge.id ∈ s.seenEdges

/-- What holds after `L` levels that did not find the goal. -/
structure AtLevel (request : DirectedRequest) (start goal : Text) (L : ℕ) (front : List Text)
    (s : State) : Prop where
  running : s.stopped = false
  linked : Linked request start s.parent s.visited
  front_traced : ∀ v ∈ front, Traced s.parent s.visited v L
  goal_new : goal ∉ s.visited
  explored : request.pinned.UniqueEdgeIds → Explored request start L front s

/-- The state a level starts with. -/
abbrev State.begin (s : State) : State := { s with nextLevel := [] }

theorem AtLevel.inLevel (here : AtLevel request start goal L front s) :
    InLevel request start goal L front s.visited s.begin where
  linked := here.linked
  front_traced := here.front_traced
  next_traced := fun _ none => (List.not_mem_nil none).elim
  next_new := fun _ none => (List.not_mem_nil none).elim
  visited_eq := fun _ => (List.append_nil _).symm
  goal_new := fun _ => here.goal_new
  goal_found := fun found => by
    have unfound : s.found = false := (Bool.or_eq_false_iff.mp here.running).1
    cases unfound.symm.trans found

/-- After the level. -/
theorem AtLevel.level (here : AtLevel request start goal L front s) :
    InLevel request start goal L front s.visited (request.tryNodes goal front s.begin) :=
  here.inLevel.tryNodes front (List.Subset.refl _) here.running

theorem AtLevel.settled (unique : request.pinned.UniqueEdgeIds)
    (here : AtLevel request start goal L front s)
    (unstopped : (request.tryNodes goal front s.begin).stopped = false) :
    Settled request (front.flatMap request.incident) s.begin
      (request.tryNodes goal front s.begin) := by
  have explored := here.explored unique
  have inside : front ⊆ s.visited := fun v member => explored.frontier.front_seen member
  exact here.inLevel.settled_nodes unique front (List.Subset.refl _) here.running explored.accounted
    inside unstopped

/-- A level that nothing stops and that skips no edge moves the frontier by one hop. -/
theorem AtLevel.explored_step (unique : request.pinned.UniqueEdgeIds)
    (here : AtLevel request start goal L front s)
    (unstopped : (request.tryNodes goal front s.begin).stopped = false) :
    Explored request start (L + 1) (request.tryNodes goal front s.begin).nextLevel
      (request.tryNodes goal front s.begin) := by
  have level := here.level
  have settled := here.settled unique unstopped
  have unfound := (Bool.or_eq_false_iff.mp unstopped).1
  have explored := here.explored unique
  generalize request.tryNodes goal front s.begin = t at *
  have visited := level.visited_eq unfound
  have tried : ∀ u ∈ front, ∀ edge ∈ request.incident u, edge.id ∈ t.seenEdges :=
    fun u member edge incident => settled.tried edge (List.mem_flatMap.mpr ⟨u, member, incident⟩)
  have found : ∀ v, v ∈ t.nextLevel ↔ v ∉ s.visited ∧ ∃ u ∈ front, request.Hop u v := by
    intro v
    refine ⟨fun next => level.next_new v next, ?_⟩
    rintro ⟨new, u, inFront, edge, inside, passes, joins⟩
    have incident : edge ∈ request.incident u :=
      (mem_incident fun _ => unique).mpr ⟨inside, passes, joins.touches⟩
    have arrived := (settled.accounted edge inside (tried u inFront edge incident)).1 u v joins
    rw [visited] at arrived
    exact (List.mem_append.mp arrived).resolve_left new
  have seen : {v | v ∈ t.visited} = {v | v ∈ s.visited} ∪ {v | v ∈ t.nextLevel} := by
    ext v
    simp only [Set.mem_ofPred_eq, Set.mem_union, visited, List.mem_append]
  exact {
    frontier := by
      rw [seen]
      exact explored.frontier.step found
    accounted := settled.accounted
    behind := by
      intro u member past edge incident
      rw [visited] at member
      have before : u ∈ s.visited := (List.mem_append.mp member).resolve_right past
      by_cases inFront : u ∈ front
      · exact tried u inFront edge incident
      · exact settled.seen (explored.behind u before inFront edge incident) }

/-- A level that nothing stops. -/
theorem AtLevel.step (here : AtLevel request start goal L front s)
    (unstopped : (request.tryNodes goal front s.begin).stopped = false) :
    AtLevel request start goal (L + 1) (request.tryNodes goal front s.begin).nextLevel
      (request.tryNodes goal front s.begin) where
  running := unstopped
  linked := here.level.linked
  front_traced := here.level.next_traced
  goal_new := here.level.goal_new (Bool.or_eq_false_iff.mp unstopped).1
  explored := fun unique => here.explored_step unique unstopped

/-- A level that finds the goal finds it at its distance. -/
theorem AtLevel.found (unique : request.pinned.UniqueEdgeIds) (here : AtLevel request start goal L front s)
    (found : (request.tryNodes goal front s.begin).found = true) :
    Dist request.Hop start goal (L + 1) := by
  obtain ⟨new, _, u, inFront, hop⟩ := here.level.goal_found found
  have frontier := (here.explored unique).frontier
  have outside : goal ∉ Ball request.Hop {start} L := by
    rw [← frontier.exact_ball]
    exact new
  have inside : u ∈ Ball request.Hop {start} L := by
    rw [← frontier.exact_ball]
    exact frontier.front_seen inFront
  rw [mem_ball_singleton] at outside inside
  obtain ⟨k, bound, chain⟩ := inside
  have arrives : Chain request.Hop (k + 1) start goal := .snoc chain hop
  have length : k = L := by
    by_contra other
    exact outside ⟨k + 1, by omega, arrives⟩
  subst length
  exact ⟨arrives, fun m less shorter => outside ⟨m, Nat.le_of_lt_succ less, shorter⟩⟩

/-! ### The whole search -/

/-- How a search of at most `limit` levels ends. -/
inductive Ends (request : DirectedRequest) (start goal : Text) (limit : ℕ) : Outcome → Prop
  /-- At the goal. -/
  | found (outcome : Outcome) (found : outcome.state.found = true) (n : ℕ) (bound : n ≤ limit)
      (linked : Linked request start outcome.state.parent outcome.state.visited)
      (traced : Traced outcome.state.parent outcome.state.visited goal n)
      (dist : request.pinned.UniqueEdgeIds → Dist request.Hop start goal n) : Ends request start goal limit outcome
  /-- At a budget. -/
  | spent (outcome : Outcome) (unfound : outcome.state.found = false)
      (spent : outcome.state.budgetExhausted = true) : Ends request start goal limit outcome
  /-- After a level: at the depth, or with nothing left to try. -/
  | settled (outcome : Outcome)
      (level : AtLevel request start goal outcome.depthReached outcome.current outcome.state)
      (last : outcome.current = [] ∨ outcome.depthReached = limit) (bound : outcome.depthReached ≤ limit) :
      Ends request start goal limit outcome

theorem ends_searchLevels {limit : ℕ} (remaining : ℕ) :
    ∀ {L : ℕ} {front : List Text} {s : State}, AtLevel request start goal L front s →
      L + remaining = limit →
      Ends request start goal limit (request.searchLevels goal s front L remaining) := by
  induction remaining with
  | zero =>
    intro L front s here total
    exact .settled _ here (Or.inr total) (Nat.le_of_eq total)
  | succ remaining ih =>
    intro L front s here total
    unfold searchLevels
    by_cases beyond : front = []
    · rw [if_pos beyond]
      exact .settled _ here (Or.inl beyond) (by dsimp only; omega)
    rw [if_neg beyond]
    dsimp only
    cases stop : (request.tryNodes goal front s.begin).stopped with
    | false =>
      rw [if_neg Bool.false_ne_true]
      exact ih (here.step stop) (by omega)
    | true =>
      rw [if_pos rfl]
      cases found : (request.tryNodes goal front s.begin).found with
      | true =>
        refine .found _ found (L + 1) (by omega) here.level.linked ?_ fun unique => here.found unique found
        exact (here.level.goal_found found).2.1
      | false =>
        refine .spent _ found ?_
        rw [State.stopped, found, Bool.false_or] at stop
        exact stop

theorem linked_firstState : Linked request start (firstState start).parent [start] where
  keys := Dict.keys_set_of_notMem List.not_mem_nil none
  root := by
    intro v found
    rw [firstState, Dict.get?_set] at found
    by_contra other
    rw [if_neg other] at found
    cases found
  link := by
    intro v u edge found
    rw [firstState, Dict.get?_set] at found
    by_cases here : v = start
    · rw [if_pos here] at found
      cases found
    · rw [if_neg here] at found
      cases found

theorem traced_firstState : Traced (firstState start).parent [start] start 0 := by
  refine ⟨[start], [], .root start ?_, rfl, List.nodup_singleton _, List.Subset.refl _⟩
  rw [firstState, Dict.get?_set, if_pos rfl]

theorem explored_firstState : Explored request start 0 [start] (firstState start) where
  frontier := by
    have same : {v : Text | v ∈ [start]} = {start} := by
      ext v
      exact List.mem_singleton
    change Frontier request.Hop {start} 0 {v | v ∈ [start]} {v | v ∈ [start]}
    rw [same]
    exact .init
  accounted := fun _ _ none => (List.not_mem_nil none).elim
  behind := fun _ visited past => (past visited).elim

theorem atLevel_firstState (apart : start ≠ goal) :
    AtLevel request start goal 0 [start] (firstState start) where
  running := rfl
  linked := linked_firstState
  front_traced := by
    intro v member
    rw [List.mem_singleton.mp member]
    exact traced_firstState
  goal_new := fun member => apart (List.mem_singleton.mp member).symm
  explored := fun _ => explored_firstState

/-- How the search between two nodes ends. -/
theorem ends_search (start goal : Text) :
    Ends request start goal request.hops (request.search start goal) := by
  unfold search
  by_cases same : start = goal
  · rw [if_pos same]
    refine .found _ rfl 0 (Nat.zero_le _) linked_firstState ?_ fun _ => dist_zero_iff.mpr same
    exact same ▸ traced_firstState
  · rw [if_neg same]
    exact ends_searchLevels request.hops (atLevel_firstState same) (Nat.zero_add _)

/-! ### The path read off the links -/

/-- A walk along listed nodes: each two consecutive ones are joined by the listed edge. -/
inductive Route (request : DirectedRequest) : Text → List Text → List Edge → Text → Prop
  | stop (v : Text) : Route request v [v] [] v
  | go (u v w : Text) (edge : Edge) (ids : List Text) (edges : List Edge)
      (inside : edge ∈ request.pinned.allEdges)
      (passes : Passes (namedKinds request.kinds) none edge)
      (joins : Joins request.heading u edge v) (rest : Route request v ids edges w) :
      Route request u (u :: ids) (edge :: edges) w

theorem Route.snoc {u v w : Text} {edge : Edge} {ids : List Text} {edges : List Edge}
    (route : Route request u ids edges v) (inside : edge ∈ request.pinned.allEdges)
    (passes : Passes (namedKinds request.kinds) none edge)
    (joins : Joins request.heading v edge w) :
    Route request u (ids ++ [w]) (edges ++ [edge]) w := by
  induction route with
  | stop v => exact .go v w w edge [w] [] inside passes joins (.stop w)
  | go u x v first ids edges here kind step _ ih =>
    exact .go u x w first _ _ here kind step (ih joins)

/-- A trace, read backwards, is a route from the source. -/
theorem Traces.route {parent : Dict Text (Option (Text × Edge))} {visited : List Text} {v : Text}
    {ids : List Text} {edges : List Edge} (linked : Linked request start parent visited)
    (traces : Traces parent v ids edges) :
    Route request start ids.reverse edges.reverse v := by
  induction traces with
  | root v ends =>
    rw [linked.root v ends]
    exact .stop start
  | link v u edge ids edges link _ ih =>
    obtain ⟨inside, passes, joins⟩ := linked.link v u edge link
    rw [List.reverse_cons, List.reverse_cons]
    exact ih.snoc inside passes joins

/-- The path of a search that found its goal. -/
theorem Traced.route {parent : Dict Text (Option (Text × Edge))} {visited : List Text} {n : ℕ}
    (linked : Linked request start parent visited) (traced : Traced parent visited goal n) :
    ∃ ids edges, backtrack parent parent.size goal = (ids, edges) ∧
      Route request start ids.reverse edges.reverse goal ∧ ids.Nodup ∧ edges.length = n := by
  obtain ⟨ids, edges, traces, length, distinct, inside⟩ := traced
  have enough : ids.length ≤ parent.size := by
    rw [← Dict.length_keys, linked.keys]
    exact distinct.length_le_of_subset inside
  exact ⟨ids, edges, traces.backtrack enough, traces.route linked, distinct, length⟩

end DirectedRequest

/-! ### The answers -/

section Answers

open DirectedRequest

variable {py : Interpreter} {scope : GraphSet} {options : QueryOptions} {request : DirectedRequest}
  {start goal : Node} {outcome : Outcome} {result : PathResult}

/-- The answer is about two nodes or about an ambiguous name. -/
theorem path_ok {target targetTo : Text} (done : path py scope target targetTo options = .ok result) :
    ∃ request, directedRequest scope options = .ok request ∧
      ((∃ label candidateIds, ambiguousPath py request target targetTo label candidateIds =
          .ok result) ∨
        ∃ start goal, request.pinned.resolve py target = .ok start ∧
          request.pinned.resolve py targetTo = .ok goal ∧
          answerPath py request start goal = .ok result) := by
  obtain ⟨request, accepted, done⟩ := bind_eq_ok.mp done
  refine ⟨request, accepted, ?_⟩
  obtain ⟨selected, found, done⟩ := bind_eq_ok.mp done
  cases selected with
  | ambiguous candidateIds => exact Or.inl ⟨target, candidateIds, done⟩
  | one start =>
    obtain ⟨selected, found', done⟩ := bind_eq_ok.mp done
    cases selected with
    | ambiguous candidateIds => exact Or.inl ⟨targetTo, candidateIds, done⟩
    | one goal =>
      exact Or.inr ⟨start, goal, selectTarget_one.mp found, selectTarget_one.mp found', done⟩

/-- Looking up a list of ids. -/
theorem mapM_node_ok {pinned : GraphSet} {ids : List Text} {nodes : List Node}
    (looked : ids.mapM pinned.node = .ok nodes) :
    nodes.map Node.id = ids ∧ ∀ node ∈ nodes, node ∈ pinned.allNodes := by
  have pairs := mapM_ok.mp looked
  clear looked
  induction pairs with
  | nil => exact ⟨rfl, fun _ none => (List.not_mem_nil none).elim⟩
  | cons here _ ih =>
    obtain ⟨inside, named⟩ := GraphSet.node_ok.mp here
    obtain ⟨ids, all⟩ := ih
    refine ⟨by rw [List.map_cons, named, ids], ?_⟩
    intro node member
    rcases List.mem_cons.mp member with rfl | later
    · exact inside
    · exact all node later

/-- A found answer shows the path of the search. -/
theorem foundPath_ok (done : foundPath request start goal outcome = .ok result) {ids : List Text}
    {edges : List Edge} (read : backtrack outcome.state.parent outcome.state.parent.size goal.id =
      (ids, edges)) :
    result.found = true ∧ result.provenAbsent = false ∧ listedIds result.nodes = ids.reverse ∧
      result.edges = edges.reverse.map Edge.asDocument ∧ result.length = edges.length := by
  unfold foundPath at done
  dsimp only at done
  rw [read] at done
  obtain ⟨pathNodes, looked, done⟩ := bind_eq_ok.mp done
  obtain ⟨documents, shown, done⟩ := bind_eq_ok.mp done
  cases done
  obtain ⟨ids, inside⟩ := mapM_node_ok looked
  obtain ⟨documents', shown', listed⟩ := nodeDocuments_ok request.sections inside
  rw [shown] at shown'
  cases shown'
  exact ⟨rfl, rfl, listed.trans ids, rfl, List.length_reverse⟩

/-- A result with a path comes from a search that found its goal, and the other way round. -/
theorem answerPath_found (done : answerPath py request start goal = .ok result) :
    result.found = (request.search start.id goal.id).state.found := by
  unfold answerPath at done
  dsimp only at done
  cases found : (request.search start.id goal.id).state.found with
  | true =>
    rw [if_pos found] at done
    exact (foundPath_ok done rfl).1
  | false =>
    rw [if_neg (by rw [found]; exact Bool.false_ne_true)] at done
    obtain ⟨visitedNodes, _, done⟩ := bind_eq_ok.mp done
    cases done
    rfl

/-- **A found path is a shortest path**: it leads from the source to the goal without repetition along listed
pinned edges of an allowed kind, within the depth, and if the ids of edges are unique, its length is the
distance. -/
theorem path_shortest {target targetTo : Text}
    (done : path py scope target targetTo options = .ok result) (found : result.found = true) :
    ∃ request start goal edges, directedRequest scope options = .ok request ∧
      request.pinned.resolve py target = .ok start ∧
      request.pinned.resolve py targetTo = .ok goal ∧
      Route request start.id (listedIds result.nodes) edges goal.id ∧
      (listedIds result.nodes).Nodup ∧ result.edges = edges.map Edge.asDocument ∧
      result.length = edges.length ∧ edges.length ≤ request.hops ∧
      (scope.UniqueEdgeIds → Dist request.Hop start.id goal.id edges.length) := by
  obtain ⟨request, accepted, answer⟩ := path_ok done
  rcases answer with ⟨label, candidateIds, ambiguous⟩ | ⟨start, goal, source, sink, answered⟩
  · obtain ⟨_, _, rfl⟩ := map_eq_ok.mp ambiguous
    cases found
  have reached := (answerPath_found answered).symm.trans found
  have ends : Ends request start.id goal.id request.hops (request.search start.id goal.id) :=
    ends_search start.id goal.id
  cases ends with
  | spent unfound => cases unfound.symm.trans reached
  | settled level =>
    cases (Bool.or_eq_false_iff.mp level.running).1.symm.trans reached
  | found _ n bound linked traced dist =>
    obtain ⟨ids, edges, read, route, distinct, length⟩ := traced.route linked
    rw [answerPath, if_pos reached] at answered
    obtain ⟨_, _, listed, shown, counted⟩ := foundPath_ok answered read
    refine ⟨request, start, goal, edges.reverse, accepted, source, sink, ?_, ?_, shown, ?_, ?_, fun unique => ?_⟩
    · rw [listed]
      exact route
    · rw [listed]
      exact List.nodup_reverse.mpr distinct
    · rw [counted, List.length_reverse]
    · rw [List.length_reverse, length]
      exact bound
    · rw [List.length_reverse, length]
      exact dist (narrowScope_unique (directedRequest_ok.mp accepted).pinned unique)

/-- A found path: the call of a pair. -/
theorem path_shortest_callPair : ∃ request start goal, ∃ edges : List Edge,
    directedRequest callPair pathDefaults = .ok request ∧
      request.pinned.resolve .ascii "a" = .ok start ∧
      request.pinned.resolve .ascii "b" = .ok goal ∧
      Dist request.Hop start.id goal.id edges.length := by
  have done : path .ascii callPair "a" "b" pathDefaults = .ok _ := rfl
  obtain ⟨request, start, goal, edges, accepted, source, sink, _, _, _, _, _, dist⟩ :=
    path_shortest done (by decide +kernel)
  exact ⟨request, start, goal, edges, accepted, source, sink, dist (by decide)⟩

/-- Two members with an edge id in common: `a` calls `b` under it, and `c` calls `e`. -/
def detourScope : GraphSet :=
  plainScope [
    plainGraph "p"
      [plainNode "p" "a" 'a', plainNode "p" "b" 'b', plainNode "p" "d" 'd', plainNode "p" "e" 'e']
      [plainEdge "p" '1' 'a' 'b' .calls, plainEdge "q" '2' 'a' 'c' .calls, plainEdge "p" '3' 'b' 'd' .calls,
        plainEdge "p" '4' 'd' 'e' .calls] none (by decide),
    plainGraph "q" [plainNode "q" "c" 'c'] [plainEdge "p" '1' 'c' 'e' .calls] none (by decide)] (by decide)

/-- Without unique edge ids a found path can be longer than the distance. -/
theorem path_detours : ∃ result,
    path .ascii detourScope "a" "e" { pathDefaults with direction := some "outgoing", depth := some 3 } =
        .ok result ∧
      result.found = true ∧ result.length = 3 ∧
      Chain (Hop detourScope .outgoing none none) 2 (digest 'a') (digest 'e') := by
  refine ⟨_, rfl, by decide +kernel, by decide +kernel, ?_⟩
  have first : Hop detourScope .outgoing none none (digest 'a') (digest 'c') :=
    ⟨plainEdge "q" '2' 'a' 'c' .calls,
      List.mem_cons_of_mem _ List.mem_cons_self, passes_none _, rfl, rfl⟩
  have second : Hop detourScope .outgoing none none (digest 'c') (digest 'e') :=
    ⟨plainEdge "p" '1' 'c' 'e' .calls,
      List.mem_append_right _ List.mem_cons_self, passes_none _, rfl, rfl⟩
  exact .snoc (.snoc (.nil _) first) second

/-! ### Proven absence -/

/-- No unresolved edge was met, and none names a visited node. -/
theorem relevantUnresolved_eq_nil {visited : List Node} {unresolved : Dict Text Edge} :
    (relevantUnresolved py request visited unresolved).values = [] ↔
      (∀ node ∈ visited, unresolvedReferences py request.pinned node = []) ∧
        unresolved.values = [] := by
  rw [relevantUnresolved, Dict.values_eq_nil]
  simp only [Dict.mem_keys_foldl Dict.setDefault fun _ _ _ _ => Dict.mem_keys_setDefault,
    Dict.mem_keys_ofList, not_or, forall_and]
  refine and_congr ⟨?_, ?_⟩ ⟨?_, ?_⟩
  · intro none node member
    refine List.eq_nil_iff_forall_not_mem.mpr fun edge named => ?_
    exact none edge.id ⟨edge, List.mem_flatMap.mpr ⟨node, member, named⟩, rfl⟩
  · rintro none edgeId ⟨edge, member, _⟩
    obtain ⟨node, inside, named⟩ := List.mem_flatMap.mp member
    rw [none node inside] at named
    exact List.not_mem_nil named
  · intro none
    exact List.eq_nil_iff_forall_not_mem.mpr fun edge member => none edge.id ⟨edge, member, rfl⟩
  · rintro none edgeId ⟨edge, member, _⟩
    rw [none] at member
    exact List.not_mem_nil member

/-- Nothing keeps absence from being proven. -/
theorem pathIncomplete_eq_nil {state : State} {relevant : Dict Text Edge} {depthLimited : Bool} :
    pathIncomplete request state relevant depthLimited = [] ↔
      state.budgetExhausted = false ∧ request.pinned.missingProjects = [] ∧
        relevant.values = [] ∧ depthLimited = false := by
  unfold pathIncomplete
  simp only [List.append_eq_nil_iff, reasonIf_eq_nil, Bool.not_eq_false', List.isEmpty_iff,
    and_assoc]

/-- What a proven absence says about the search. -/
theorem absentPath_ok (done : absentPath py request start goal outcome = .ok result)
    (absent : result.provenAbsent = true) :
    ∃ visitedNodes, outcome.state.visited.mapM request.pinned.node = .ok visitedNodes ∧
      result.budgetExhausted = false ∧ outcome.state.budgetExhausted = false ∧
      result.frontier = sortedBy id outcome.current ∧ request.pinned.missingProjects = [] ∧
      (relevantUnresolved py request visitedNodes outcome.state.unresolved).values = [] ∧
      (outcome.current = [] ∨ outcome.depthReached < request.hops) := by
  obtain ⟨visitedNodes, looked, done⟩ := bind_eq_ok.mp done
  cases done
  obtain ⟨unspent, missing, relevant, unlimited⟩ :=
    pathIncomplete_eq_nil.mp (List.isEmpty_iff.mp absent)
  refine ⟨visitedNodes, looked, unspent, unspent, rfl, missing, relevant, ?_⟩
  rw [unspent, Bool.not_false, Bool.and_true] at unlimited
  simpa only [Bool.and_eq_false_iff, Bool.not_eq_false', List.isEmpty_iff, decide_eq_false_iff_not,
    ge_iff_le, not_le] using unlimited

/-- A search with an empty front has visited everything reachable. -/
theorem DirectedRequest.Explored.reachable {start : Text} {L : ℕ} {s : State}
    (level : Explored request start L [] s) {n : ℕ} {v : Text}
    (chain : Chain request.Hop n start v) : v ∈ s.visited := by
  have nothing : {v : Text | v ∈ ([] : List Text)} = ∅ := by
    ext v
    exact ⟨List.not_mem_nil, fun none => none.elim⟩
  have frontier := level.frontier
  rw [nothing] at frontier
  have all : v ∈ Ball request.Hop {start} (max L n) :=
    mem_ball_singleton.mpr ⟨n, le_max_right L n, chain⟩
  rw [← frontier.stop (le_max_left L n)] at all
  exact all

/-- What a proven absence says where the ids of edges are unique: no chain of any length joins the source to
the goal, what is reachable is so within the depth, and no unresolved edge starts at or names what is. -/
structure Absent (py : Interpreter) (request : DirectedRequest) (start goal : Node) : Prop where
  apart : ∀ n, ¬ Chain request.Hop n start.id goal.id
  within : ∀ n v, Chain request.Hop n start.id v → ∃ k ≤ request.hops, Chain request.Hop k start.id v
  begins : ∀ edge ∈ request.pinned.allEdges, edge.resolved = false → ∀ n v, Chain request.Hop n start.id v →
    request.heading ≠ .incoming → Passes (namedKinds request.kinds) none edge → edge.sourceId ≠ v
  names : ∀ edge ∈ request.pinned.allEdges, edge.resolved = false → ∀ n v, Chain request.Hop n start.id v →
    ∀ node ∈ request.pinned.allNodes, node.id = v → Names py edge node = false

/-- A search that ended with nothing left to try, and that skipped no edge. -/
theorem DirectedRequest.Explored.absent {L : ℕ} {s : State} (unique : request.pinned.UniqueEdgeIds)
    (level : Explored request start.id L [] s) (bound : L ≤ request.hops) (new : goal.id ∉ s.visited)
    {visitedNodes : List Node} (looked : s.visited.mapM request.pinned.node = .ok visitedNodes)
    (relevant : (relevantUnresolved py request visitedNodes s.unresolved).values = []) :
    Absent py request start goal := by
  obtain ⟨unnamed, unmet⟩ := relevantUnresolved_eq_nil.mp relevant
  obtain ⟨ids, inside⟩ := mapM_node_ok looked
  constructor
  · exact fun n chain => new (level.reachable chain)
  · intro n v chain
    have near : v ∈ Ball request.Hop {start.id} L := by
      rw [← level.frontier.exact_ball]
      exact level.reachable chain
    exact mem_ball_singleton.mp (ball_mono bound near)
  · intro edge member dangling n v chain outwards passes starts
    have incident : edge ∈ request.incident v := by
      refine (mem_incident fun _ => unique).mpr ⟨member, passes, ?_⟩
      cases heading : request.heading with
      | outgoing => exact starts
      | incoming => exact (outwards heading).elim
      | both => exact Or.inl starts
    have tried := level.behind v (level.reachable chain) List.not_mem_nil edge incident
    exact Dict.values_eq_nil.mp unmet edge.id ((level.accounted edge member tried).2 dangling)
  · rintro edge member dangling n v chain node pinned rfl
    have visited := level.reachable chain
    by_contra names
    rw [Bool.not_eq_false] at names
    rw [← ids] at visited
    obtain ⟨other, here, same⟩ := List.mem_map.mp visited
    obtain rfl := GraphSet.node_eq_of_id (inside other here) pinned same
    have reference := (GraphSet.mem_unresolvedReferences unique).mpr ⟨member, dangling, names⟩
    rw [unnamed other here] at reference
    exact List.not_mem_nil reference

/-- **A proven absence is an absence**: no member is missing, no budget cut the search, and it ended with
nothing left to try; if the ids of edges are unique, the goal is `Absent` from what the source reaches. -/
theorem path_absent {target targetTo : Text}
    (done : path py scope target targetTo options = .ok result) (absent : result.provenAbsent = true) :
    ∃ request start goal, directedRequest scope options = .ok request ∧
      request.pinned.resolve py target = .ok start ∧
      request.pinned.resolve py targetTo = .ok goal ∧
      request.pinned.missingProjects = [] ∧ result.budgetExhausted = false ∧ result.frontier = [] ∧
      (scope.UniqueEdgeIds → Absent py request start goal) := by
  obtain ⟨request, accepted, answer⟩ := path_ok done
  rcases answer with ⟨label, candidateIds, ambiguous⟩ | ⟨start, goal, source, sink, answered⟩
  · obtain ⟨_, _, rfl⟩ := map_eq_ok.mp ambiguous
    cases absent
  have ends : Ends request start.id goal.id request.hops (request.search start.id goal.id) :=
    ends_search start.id goal.id
  unfold answerPath at answered
  dsimp only at answered
  generalize request.search start.id goal.id = outcome at ends answered
  cases found : outcome.state.found with
  | true =>
    rw [if_pos found] at answered
    cases (foundPath_ok answered rfl).2.1.symm.trans absent
  | false =>
    rw [if_neg (by rw [found]; exact Bool.false_ne_true)] at answered
    obtain ⟨visitedNodes, looked, unspent, unspent', shown, missing, relevant, last⟩ :=
      absentPath_ok answered absent
    cases ends with
    | found reached => cases found.symm.trans reached
    | spent _ spent => cases unspent'.symm.trans spent
    | settled level beyond bound =>
      have empty : outcome.current = [] := by
        rcases last with empty | short
        · exact empty
        · exact beyond.resolve_right (Nat.ne_of_lt short)
      rw [empty] at level shown
      refine ⟨request, start, goal, accepted, source, sink, missing, unspent, shown, fun unique => ?_⟩
      have unique' := narrowScope_unique (directedRequest_ok.mp accepted).pinned unique
      exact (level.explored unique').absent unique' bound level.goal_new looked relevant

/-- A proven absence: nothing leads from the callee of a pair to its caller. -/
theorem path_absent_callPair : ∃ request start goal,
    directedRequest callPair { pathDefaults with direction := some "outgoing" } = .ok request ∧
      request.pinned.resolve .ascii "b" = .ok start ∧
      request.pinned.resolve .ascii "a" = .ok goal ∧
      ∀ n, ¬ Chain request.Hop n start.id goal.id := by
  have done : path .ascii callPair "b" "a" { pathDefaults with direction := some "outgoing" } = .ok _ := rfl
  obtain ⟨request, start, goal, accepted, source, sink, _, _, _, none⟩ := path_absent done (by decide +kernel)
  exact ⟨request, start, goal, accepted, source, sink, (none (by decide)).apart⟩

/-- Two members with an edge id in common: `a` calls `b` under it, and `b` calls `c`, which calls its own name. -/
def maskedScope : GraphSet :=
  plainScope [
    plainGraph "p" [plainNode "p" "a" 'a', plainNode "p" "c" 'c']
      [plainEdge "q" '1' 'a' 'b' .calls, namedEdge "p" "c" '3' 'c' .calls] none (by decide),
    plainGraph "q" [plainNode "q" "b" 'b'] [plainEdge "p" '1' 'b' 'c' .calls] none (by decide)] (by decide)

/-- Without unique edge ids a proven absence can be wrong: the goal is reached, and an unresolved edge starts at it
and names it. -/
theorem path_absent_wrong : ∃ result request start goal,
    path .ascii maskedScope "a" "c" { pathDefaults with direction := some "outgoing" } = .ok result ∧
      result.provenAbsent = true ∧
      directedRequest maskedScope { pathDefaults with direction := some "outgoing" } = .ok request ∧
      maskedScope.resolve .ascii "a" = .ok start ∧ maskedScope.resolve .ascii "c" = .ok goal ∧
      Chain request.Hop 2 start.id goal.id ∧
      (∃ edge ∈ maskedScope.allEdges, edge.resolved = false ∧ Passes (namedKinds request.kinds) none edge ∧
        edge.sourceId = goal.id ∧ Names .ascii edge goal = true) := by
  refine ⟨_, _, _, _, rfl, by decide +kernel, rfl, rfl, rfl, ?_, ?_⟩
  · have first : Hop maskedScope .outgoing none none (digest 'a') (digest 'b') :=
      ⟨plainEdge "q" '1' 'a' 'b' .calls, List.mem_cons_self, passes_none _, rfl, rfl⟩
    have second : Hop maskedScope .outgoing none none (digest 'b') (digest 'c') :=
      ⟨plainEdge "p" '1' 'b' 'c' .calls, List.mem_append_right _ List.mem_cons_self, passes_none _, rfl, rfl⟩
    exact .snoc (.snoc (.nil _) first) second
  · exact ⟨namedEdge "p" "c" '3' 'c' .calls, by simp [maskedScope, plainScope, plainGraph, GraphSet.allEdges],
      rfl, passes_none _, rfl, by decide +kernel⟩

end Answers

end AxiomMcp.Query
