/-
**What a path search looks up.**

`log` is the breadth-first search from the source without budgets and without a goal, as the list of the
edges it tries, each edge id once, with the node each discovers. A path search follows it until it is
halted (`Progress`), so its visited nodes are told by the log: the nodes discovered by the first
`max_edges` trials, up to `max_nodes` of them (`discoveredWithin`).

* `search_found_iff` — the search finds the goal exactly when it is among them;
* `path_returns_iff` — **a path is answered exactly when every node on the route to a discovered goal is
  pinned, and every discovered node where the goal is not discovered**. No uniqueness of edge ids is
  needed.
-/

import AxiomMcp.Query.PathExact

namespace AxiomMcp.Query

open AxiomMcp.Lib

namespace DirectedRequest

/-! ### The trials of a search without budgets -/

/-- An edge tried from a node, with the node it discovers. -/
structure Trial where
  origin : Text
  edge : Edge
  discovered : Option Text

/-- The trials so far, with the nodes discovered in this level. -/
structure Log where
  trials : List Trial
  next : List Text

/-- The ids of the edges tried. -/
def triedIds (trials : List Trial) : List Text := trials.map fun trial => trial.edge.id

/-- The source and the nodes discovered after it. -/
def order (start : Text) (trials : List Trial) : List Text :=
  start :: trials.filterMap Trial.discovered

section Log

variable (request : DirectedRequest) (start : Text)

/-- Try an edge from a node, unless one with its id was tried. -/
def attempt (l : Log) (step : Text × Edge) : Log :=
  if step.2.id ∈ triedIds l.trials then l
  else
    let discovered := (otherEnd step.2 step.1 request.heading).filter fun far =>
      decide (far ∉ order start l.trials)
    ⟨l.trials ++ [⟨step.1, step.2, discovered⟩], l.next ++ discovered.toList⟩

/-- Try a list of edges. -/
def attemptAll (l : Log) (steps : List (Text × Edge)) : Log :=
  steps.foldl (request.attempt start) l

/-- The edges to try from a list of nodes. -/
def stepsFrom (nodes : List Text) : List (Text × Edge) :=
  nodes.flatMap fun nodeId => (request.incident nodeId).map fun edge => (nodeId, edge)

/-- The trials of a number of levels. -/
def log : ℕ → Log
  | 0 => ⟨[], [start]⟩
  | n + 1 => request.attemptAll start ⟨(log n).trials, []⟩ (request.stepsFrom (log n).next)

/-- The trials the edge budget allows. -/
def trialsWithin : List Trial := (request.log start request.hops).trials.take request.edgeBudget

/-- The nodes these discover, as many as the node budget allows. -/
def discoveredWithin : List Text :=
  (order start (request.trialsWithin start)).take request.nodeBudget

/-- A node on the route by which another one was discovered. -/
inductive OnRoute (trials : List Trial) : Text → Text → Prop
  | here (v : Text) : OnRoute trials v v
  | back (v w : Text) (trial : Trial) (member : trial ∈ trials)
      (discovers : trial.discovered = some v) (rest : OnRoute trials trial.origin w) :
      OnRoute trials v w

/-- What the search from a source to a goal looks up is pinned. -/
def Passable (start goal : Text) : Prop :=
  (goal ∈ request.discoveredWithin start →
    ∀ nodeId, OnRoute (request.trialsWithin start) goal nodeId → request.pinned.Pinned nodeId) ∧
  (goal ∉ request.discoveredWithin start →
    ∀ nodeId ∈ request.discoveredWithin start, request.pinned.Pinned nodeId)

end Log

variable {request : DirectedRequest} {start goal : Text} {l : Log}

theorem mem_order {trials : List Trial} {v : Text} :
    v ∈ order start trials ↔ v = start ∨ ∃ trial ∈ trials, trial.discovered = some v := by
  rw [order, List.mem_cons, List.mem_filterMap]

theorem order_snoc (trials : List Trial) (trial : Trial) :
    order start (trials ++ [trial]) = order start trials ++ trial.discovered.toList := by
  rw [order, List.filterMap_append, order, List.cons_append]
  cases found : trial.discovered <;> simp [found]

theorem order_initial {before after : List Trial} (le : before <+: after) :
    order start before <+: order start after :=
  (List.prefix_cons_inj start).mpr (le.filterMap _)

theorem attempt_initial (l : Log) (step : Text × Edge) :
    l.trials <+: (request.attempt start l step).trials := by
  unfold attempt
  by_cases old : step.2.id ∈ triedIds l.trials
  · rw [if_pos old]
  · rw [if_neg old]
    exact List.prefix_append _ _

theorem attemptAll_initial (steps : List (Text × Edge)) :
    ∀ l : Log, l.trials <+: (request.attemptAll start l steps).trials := by
  induction steps with
  | nil => exact fun l => List.prefix_rfl
  | cons step rest ih => exact fun l => (attempt_initial l step).trans (ih _)

theorem log_initial {m n : ℕ} (le : m ≤ n) :
    (request.log start m).trials <+: (request.log start n).trials := by
  induction le with
  | refl => exact List.prefix_rfl
  | @step n _ ih => exact ih.trans (attemptAll_initial _ ⟨(request.log start n).trials, []⟩)

/-- A level from nowhere tries nothing. -/
theorem log_done {m n : ℕ} (le : m ≤ n) (beyond : (request.log start m).next = []) :
    (request.log start n).trials = (request.log start m).trials ∧
      (request.log start n).next = [] := by
  induction le with
  | refl => exact ⟨rfl, beyond⟩
  | step _ ih =>
    obtain ⟨trials, next⟩ := ih
    rw [log, next]
    exact ⟨trials, rfl⟩

theorem attempt_nodup {step : Text × Edge} (distinct : (order start l.trials).Nodup) :
    (order start (request.attempt start l step).trials).Nodup := by
  unfold attempt
  by_cases old : step.2.id ∈ triedIds l.trials
  · rw [if_pos old]
    exact distinct
  · rw [if_neg old]
    dsimp only
    rw [order_snoc, List.nodup_append]
    refine ⟨distinct, ?_, ?_⟩
    · cases Option.filter _ (otherEnd step.2 step.1 request.heading) with
      | none => exact List.nodup_nil
      | some far => exact List.nodup_singleton far
    · intro a before b last same
      subst same
      rw [Option.mem_toList] at last
      dsimp only at last
      rw [Option.filter_eq_some_iff] at last
      exact of_decide_eq_true last.2 before

/-- A node is discovered once. -/
theorem log_nodup (n : ℕ) : (order start (request.log start n).trials).Nodup := by
  induction n with
  | zero => exact List.nodup_singleton start
  | succ n ih =>
    have all : ∀ (steps : List (Text × Edge)) (l : Log), (order start l.trials).Nodup →
        (order start (request.attemptAll start l steps).trials).Nodup := by
      intro steps
      induction steps with
      | nil => exact fun _ distinct => distinct
      | cons step rest ih => exact fun l distinct => ih _ (attempt_nodup distinct)
    exact all _ ⟨(request.log start n).trials, []⟩ ih

/-! ### A search beside its log -/

/-- The parent links and the visited nodes stand for some trials, within the budgets. -/
structure Mirrors (request : DirectedRequest) (start : Text)
    (parent : Dict Text (Option (Text × Edge))) (visited : List Text) (trials : List Trial) :
    Prop where
  linked : Linked request start parent visited
  traced : ∀ v ∈ visited, ∃ k, Traced parent visited v k
  visited_eq : visited = order start trials
  links : ∀ v u edge, parent.get? v = some (some (u, edge)) ↔ ⟨u, edge, some v⟩ ∈ trials
  edges_fit : trials.length ≤ request.edgeBudget
  nodes_fit : visited.length ≤ request.nodeBudget

/-- A running search stands where its log stands. -/
structure Follows (request : DirectedRequest) (start goal : Text) (s : State) (l : Log) : Prop where
  running : s.stopped = false
  mirrors : Mirrors request start s.parent s.visited l.trials
  seen : s.seenEdges = triedIds l.trials
  next : s.nextLevel = l.next
  goal_new : goal ∉ s.visited

/-- A search halted, at the goal or at a budget. -/
inductive Halted (request : DirectedRequest) (start goal : Text) (s : State) (trials : List Trial) :
    Prop
  | found (found : s.found = true) (reached : goal ∈ s.visited)
      (mirrors : Mirrors request start s.parent s.visited trials)
  | spent (unfound : s.found = false) (spent : s.budgetExhausted = true)
      (goal_new : goal ∉ s.visited) (mirrors : Mirrors request start s.parent s.visited trials)
      (full : request.edgeBudget ≤ trials.length ∨ request.nodeBudget ≤ s.visited.length)

/-- A search goes on beside its log, or has halted somewhere before. -/
inductive Progress (request : DirectedRequest) (start goal : Text) (s : State) (l : Log) : Prop
  | on (follows : Follows request start goal s l)
  | halted (trials : List Trial) (before : trials <+: l.trials)
      (halted : Halted request start goal s trials)

theorem Halted.stopped {s : State} {trials : List Trial}
    (halted : Halted request start goal s trials) : s.stopped = true := by
  cases halted with
  | found found reached mirrors => rw [State.stopped, found, Bool.true_or]
  | spent unfound spent goal_new mirrors full => rw [State.stopped, spent, Bool.or_true]

section Step

variable {parent : Dict Text (Option (Text × Edge))} {visited : List Text} {trials : List Trial}
  {nodeId far : Text} {edge : Edge}

/-- A trial that discovers nothing. -/
theorem Mirrors.quiet (mirrors : Mirrors request start parent visited trials)
    (room : trials.length < request.edgeBudget) :
    Mirrors request start parent visited (trials ++ [⟨nodeId, edge, none⟩]) where
  linked := mirrors.linked
  traced := mirrors.traced
  visited_eq := by
    rw [order_snoc, mirrors.visited_eq]
    exact (List.append_nil _).symm
  links := by
    intro v u other
    rw [mirrors.links, List.mem_append]
    refine ⟨Or.inl, fun member => member.resolve_right fun last => ?_⟩
    cases List.mem_singleton.mp last
  edges_fit := by
    rw [List.length_append, List.length_singleton]
    exact room
  nodes_fit := mirrors.nodes_fit

/-- A trial that discovers a node. -/
theorem Mirrors.reach (mirrors : Mirrors request start parent visited trials)
    (fresh : far ∉ parent.keys) (known : nodeId ∈ visited)
    (member : edge ∈ request.incident nodeId)
    (leads : otherEnd edge nodeId request.heading = some far)
    (room : trials.length < request.edgeBudget) (space : visited.length < request.nodeBudget) :
    Mirrors request start (parent.set far (some (nodeId, edge))) (visited ++ [far])
      (trials ++ [⟨nodeId, edge, some far⟩]) where
  linked := by
    obtain ⟨inside, passes, joins⟩ := hop_of_incident member leads
    exact mirrors.linked.reach fresh inside passes joins
  traced := by
    intro v here
    rcases List.mem_append.mp here with old | last
    · obtain ⟨k, traced⟩ := mirrors.traced v old
      exact ⟨k, traced.keep fresh _⟩
    · obtain rfl := List.mem_singleton.mp last
      obtain ⟨k, traced⟩ := mirrors.traced nodeId known
      exact ⟨k + 1, traced.reach mirrors.linked fresh⟩
  visited_eq := by
    rw [order_snoc, mirrors.visited_eq]
    rfl
  links := by
    intro v u other
    rw [Dict.get?_set, List.mem_append, List.mem_singleton]
    by_cases here : v = far
    · subst here
      rw [if_pos rfl]
      constructor
      · intro same
        cases same
        exact Or.inr rfl
      · rintro (old | last)
        · refine (fresh ?_).elim
          rw [mirrors.linked.keys, mirrors.visited_eq]
          exact mem_order.mpr (Or.inr ⟨_, old, rfl⟩)
        · cases last
          rfl
    · rw [if_neg here, mirrors.links]
      refine ⟨Or.inl, fun member => member.resolve_right fun last => ?_⟩
      cases last
      exact here rfl
  edges_fit := by
    rw [List.length_append, List.length_singleton]
    exact room
  nodes_fit := by
    rw [List.length_append, List.length_singleton]
    exact space

theorem attempt_old (old : edge.id ∈ triedIds l.trials) :
    request.attempt start l (nodeId, edge) = l := if_pos old

theorem attempt_nothing (fresh : edge.id ∉ triedIds l.trials)
    (nothing : ∀ far, otherEnd edge nodeId request.heading = some far →
      far ∈ order start l.trials) :
    request.attempt start l (nodeId, edge) = ⟨l.trials ++ [⟨nodeId, edge, none⟩], l.next⟩ := by
  have none : (otherEnd edge nodeId request.heading).filter
      (fun far => decide (far ∉ order start l.trials)) = none := by
    rw [Option.filter_eq_none_iff]
    intro far leads
    simpa using nothing far leads
  rw [attempt, if_neg fresh]
  simp only [none, Option.toList_none, List.append_nil]

theorem attempt_discovers (fresh : edge.id ∉ triedIds l.trials)
    (leads : otherEnd edge nodeId request.heading = some far)
    (new : far ∉ order start l.trials) :
    request.attempt start l (nodeId, edge) =
      ⟨l.trials ++ [⟨nodeId, edge, some far⟩], l.next ++ [far]⟩ := by
  have some : (otherEnd edge nodeId request.heading).filter
      (fun far => decide (far ∉ order start l.trials)) = some far := by
    rw [Option.filter_eq_some_iff]
    exact ⟨leads, decide_eq_true new⟩
  rw [attempt, if_neg fresh]
  simp only [some, Option.toList_some]

end Step

/-- Trying an edge. -/
theorem Follows.tryEdge {s : State} {nodeId : Text} {edge : Edge}
    (follows : Follows request start goal s l) (known : nodeId ∈ order start l.trials)
    (member : edge ∈ request.incident nodeId) :
    Progress request start goal (request.tryEdge goal nodeId s edge)
      (request.attempt start l (nodeId, edge)) := by
  obtain ⟨running, mirrors, seen, next, goal_new⟩ := follows
  have visited : nodeId ∈ s.visited := mirrors.visited_eq ▸ known
  have keys : s.parent.keys = order start l.trials := mirrors.linked.keys.trans mirrors.visited_eq
  have count : s.seenEdges.length = l.trials.length := by
    rw [seen, triedIds, List.length_map]
  have grown : ∀ found : Option Text,
      s.seenEdges ++ [edge.id] = triedIds (l.trials ++ [⟨nodeId, edge, found⟩]) := by
    intro found
    rw [triedIds, List.map_append, seen]
    rfl
  have unfound : s.found = false := (Bool.or_eq_false_iff.mp running).1
  have done := tried request goal nodeId s edge
  generalize request.tryEdge goal nodeId s edge = t at done ⊢
  cases done with
  | again old =>
    rw [seen] at old
    rw [attempt_old old]
    exact .on ⟨running, mirrors, seen, next, goal_new⟩
  | spent fresh full =>
    rw [count] at full
    exact .halted l.trials (attempt_initial l _) (.spent unfound rfl goal_new mirrors (Or.inl full))
  | crowded fresh resolved full =>
    exact .halted l.trials (attempt_initial l _) (.spent unfound rfl goal_new mirrors (Or.inr full))
  | dangling fresh unresolved room =>
    rw [seen] at fresh
    rw [count] at room
    have nothing : ∀ far, otherEnd edge nodeId request.heading = some far →
        far ∈ order start l.trials := by
      intro far leads
      cases unresolved.symm.trans (otherEnd_eq_some.mp leads).resolved
    rw [attempt_nothing fresh nothing]
    exact .on ⟨running, mirrors.quiet room, grown none, next, goal_new⟩
  | old fresh resolved nothing room =>
    rw [seen] at fresh
    rw [count] at room
    rw [attempt_nothing fresh fun far leads => keys ▸ (nothing far leads).1]
    exact .on ⟨running, mirrors.quiet room, grown none, next, goal_new⟩
  | goal fresh leads room space =>
    rw [seen] at fresh
    rw [count] at room
    have unvisited : goal ∉ s.parent.keys := mirrors.linked.keys ▸ goal_new
    rw [attempt_discovers fresh leads (keys ▸ unvisited)]
    refine .halted _ List.prefix_rfl (.found rfl ?_
      (mirrors.reach unvisited visited member leads room space))
    exact List.mem_append_right _ (List.mem_singleton.mpr rfl)
  | new far fresh leads unseen other room space =>
    rw [seen] at fresh
    rw [count] at room
    rw [attempt_discovers fresh leads (keys ▸ unseen)]
    refine .on ⟨running, mirrors.reach unseen visited member leads room space, grown (some far), ?_,
      ?_⟩
    · change s.nextLevel ++ [far] = l.next ++ [far]
      rw [next]
    · intro here
      rcases List.mem_append.mp here with old | last
      · exact goal_new old
      · exact other (List.mem_singleton.mp last).symm

/-- The loop over the edges of a node. -/
theorem Follows.tryEdges {nodeId : Text} (edges : List Edge)
    (members : ∀ edge ∈ edges, edge ∈ request.incident nodeId) :
    ∀ {s : State} {l : Log}, Follows request start goal s l → nodeId ∈ order start l.trials →
      Progress request start goal (request.tryEdges goal nodeId edges s)
        (request.attemptAll start l (edges.map fun edge => (nodeId, edge))) := by
  induction edges with
  | nil => exact fun follows _ => .on follows
  | cons edge rest ih =>
    intro s l follows known
    have one := follows.tryEdge known (members edge List.mem_cons_self)
    unfold DirectedRequest.tryEdges
    dsimp only
    cases one with
    | on next =>
      rw [if_neg (by rw [next.running]; exact Bool.false_ne_true)]
      refine ih (fun other member => members other (List.mem_cons_of_mem _ member)) next ?_
      exact (order_initial (attempt_initial l _)).subset known
    | halted trials before halted =>
      rw [if_pos halted.stopped]
      exact .halted trials (before.trans (attemptAll_initial _ _)) halted

/-- The loop over the nodes of a level. -/
theorem Follows.tryNodes (nodes : List Text) :
    ∀ {s : State} {l : Log}, Follows request start goal s l →
      (∀ v ∈ nodes, v ∈ order start l.trials) →
      Progress request start goal (request.tryNodes goal nodes s)
        (request.attemptAll start l (request.stepsFrom nodes)) := by
  induction nodes with
  | nil => exact fun follows _ => .on follows
  | cons nodeId rest ih =>
    intro s l follows known
    have one := follows.tryEdges (request.incident nodeId) (fun _ member => member)
      (known nodeId List.mem_cons_self)
    have split : request.attemptAll start l (request.stepsFrom (nodeId :: rest)) =
        request.attemptAll start (request.attemptAll start l
          ((request.incident nodeId).map fun edge => (nodeId, edge))) (request.stepsFrom rest) := by
      rw [stepsFrom, List.flatMap_cons, attemptAll, List.foldl_append]
      rfl
    rw [split]
    unfold DirectedRequest.tryNodes
    dsimp only
    cases one with
    | on next =>
      rw [if_neg (by rw [next.running]; exact Bool.false_ne_true)]
      refine ih next fun v member => ?_
      exact (order_initial (attemptAll_initial _ l)).subset (known v (List.mem_cons_of_mem _ member))
    | halted trials before halted =>
      rw [if_pos halted.stopped]
      exact .halted trials (before.trans (attemptAll_initial _ _)) halted

/-- Nodes discovered in a level are among the trials. -/
theorem next_known {l : Log} (known : ∀ v ∈ l.next, v ∈ order start l.trials)
    (steps : List (Text × Edge)) :
    ∀ v ∈ (request.attemptAll start l steps).next,
      v ∈ order start (request.attemptAll start l steps).trials := by
  induction steps generalizing l with
  | nil => exact known
  | cons step rest ih =>
    refine ih ?_
    intro v member
    unfold attempt at member ⊢
    by_cases old : step.2.id ∈ triedIds l.trials
    · rw [if_pos old] at member ⊢
      exact known v member
    · rw [if_neg old] at member ⊢
      dsimp only at member ⊢
      rw [order_snoc]
      rcases List.mem_append.mp member with before | last
      · exact List.mem_append_left _ (known v before)
      · exact List.mem_append_right _ last

theorem log_next_known (n : ℕ) :
    ∀ v ∈ (request.log start n).next, v ∈ order start (request.log start n).trials := by
  cases n with
  | zero => exact fun v member => member
  | succ n => exact next_known (fun _ none => (List.not_mem_nil none).elim) _

/-! ### The whole search -/

/-- How a search ends, beside the trials of all levels. -/
inductive Concludes (request : DirectedRequest) (start goal : Text) (s : State) : Prop
  | halted (trials : List Trial) (before : trials <+: (request.log start request.hops).trials)
      (halted : Halted request start goal s trials)
  | settled (unfound : s.found = false) (goal_new : goal ∉ s.visited)
      (mirrors : Mirrors request start s.parent s.visited (request.log start request.hops).trials)

theorem concludes_searchLevels (remaining : ℕ) :
    ∀ {m : ℕ} {s : State},
      Follows request start goal s.begin ⟨(request.log start m).trials, []⟩ →
      m + remaining = request.hops →
      Concludes request start goal
        (request.searchLevels goal s (request.log start m).next m remaining).state := by
  induction remaining with
  | zero =>
    intro m s follows total
    obtain rfl : m = request.hops := total
    exact .settled (Bool.or_eq_false_iff.mp follows.running).1 follows.goal_new follows.mirrors
  | succ remaining ih =>
    intro m s follows total
    unfold searchLevels
    by_cases beyond : (request.log start m).next = []
    · rw [if_pos beyond]
      have mirrors := follows.mirrors
      dsimp only at mirrors
      rw [← (log_done (by omega : m ≤ request.hops) beyond).1] at mirrors
      exact .settled (Bool.or_eq_false_iff.mp follows.running).1 follows.goal_new mirrors
    rw [if_neg beyond]
    dsimp only
    have level : Progress request start goal
        (request.tryNodes goal (request.log start m).next s.begin) (request.log start (m + 1)) :=
      follows.tryNodes _ (log_next_known m)
    cases level with
    | on next =>
      rw [if_neg (by rw [next.running]; exact Bool.false_ne_true), next.next]
      exact ih ⟨next.running, next.mirrors, next.seen, rfl, next.goal_new⟩ (by omega)
    | halted trials before halted =>
      rw [if_pos halted.stopped]
      exact .halted trials (before.trans (log_initial (by omega))) halted

theorem mirrors_firstState (room : 1 ≤ request.nodeBudget) :
    Mirrors request start (firstState start).parent [start] [] where
  linked := linked_firstState
  traced := by
    intro v member
    rw [List.mem_singleton.mp member]
    exact ⟨0, traced_firstState⟩
  visited_eq := rfl
  links := by
    intro v u edge
    refine ⟨fun found => ?_, fun none => (List.not_mem_nil none).elim⟩
    rw [firstState, Dict.get?_set] at found
    by_cases here : v = start
    · rw [if_pos here] at found
      cases found
    · rw [if_neg here] at found
      cases found
  edges_fit := Nat.zero_le _
  nodes_fit := room

theorem concludes_search (room : 1 ≤ request.nodeBudget) (start goal : Text) :
    Concludes request start goal (request.search start goal).state := by
  unfold search
  by_cases same : start = goal
  · rw [if_pos same]
    refine .halted [] (List.nil_prefix) (.found rfl ?_ (mirrors_firstState room))
    exact List.mem_singleton.mpr same.symm
  · rw [if_neg same]
    refine concludes_searchLevels request.hops ⟨rfl, mirrors_firstState room, rfl, rfl, ?_⟩
      (Nat.zero_add _)
    exact fun member => same (List.mem_singleton.mp member).symm

/-! ### What was visited -/

section Within

variable {parent : Dict Text (Option (Text × Edge))} {visited : List Text} {trials : List Trial}

theorem Mirrors.trials_within (mirrors : Mirrors request start parent visited trials)
    (before : trials <+: (request.log start request.hops).trials) :
    trials <+: request.trialsWithin start :=
  List.prefix_take_iff.mpr ⟨before, mirrors.edges_fit⟩

theorem Mirrors.visited_within (mirrors : Mirrors request start parent visited trials)
    (before : trials <+: (request.log start request.hops).trials) :
    visited <+: request.discoveredWithin start := by
  refine List.prefix_take_iff.mpr ⟨?_, mirrors.nodes_fit⟩
  rw [mirrors.visited_eq]
  exact order_initial (mirrors.trials_within before)

/-- Where all allowed trials were made, everything allowed was visited. -/
theorem Mirrors.visited_all (mirrors : Mirrors request start parent visited trials)
    (all : trials = request.trialsWithin start) : visited = request.discoveredWithin start := by
  have fits := mirrors.nodes_fit
  rw [mirrors.visited_eq, all] at fits
  rw [mirrors.visited_eq, all, discoveredWithin, List.take_of_length_le fits]

/-- A search halted by a budget visited everything allowed. -/
theorem Mirrors.visited_full (mirrors : Mirrors request start parent visited trials)
    (before : trials <+: (request.log start request.hops).trials)
    (full : request.edgeBudget ≤ trials.length ∨ request.nodeBudget ≤ visited.length) :
    visited = request.discoveredWithin start := by
  rcases full with edges | nodes
  · refine mirrors.visited_all ((mirrors.trials_within before).eq_of_length_le ?_)
    exact (List.length_take_le _ _).trans edges
  · refine (mirrors.visited_within before).eq_of_length_le ?_
    exact (List.length_take_le _ _).trans nodes

/-- A visited node is discovered by no further trial. -/
theorem Mirrors.links_within (mirrors : Mirrors request start parent visited trials)
    (before : trials <+: (request.log start request.hops).trials) {v u : Text} {edge : Edge}
    (known : v ∈ visited) :
    ⟨u, edge, some v⟩ ∈ request.trialsWithin start ↔ ⟨u, edge, some v⟩ ∈ trials := by
  refine ⟨fun member => ?_, fun member => (mirrors.trials_within before).subset member⟩
  obtain ⟨rest, same⟩ := mirrors.trials_within before
  rw [← same] at member
  refine (List.mem_append.mp member).resolve_right fun later => ?_
  have distinct : (order start (trials ++ rest)).Nodup := by
    rw [same]
    exact (order_initial ( List.take_prefix _ _)).sublist.nodup (log_nodup request.hops)
  rw [order, List.filterMap_append, ← List.cons_append, List.nodup_append] at distinct
  rw [mirrors.visited_eq] at known
  exact distinct.2.2 v known v (List.mem_filterMap.mpr ⟨_, later, rfl⟩) rfl

/-- The nodes traced back to are those on the route. -/
theorem Traces.mem_iff (mirrors : Mirrors request start parent visited trials)
    (before : trials <+: (request.log start request.hops).trials) {v w : Text} {ids : List Text}
    {edges : List Edge} (traces : Traces parent v ids edges) :
    w ∈ ids ↔ OnRoute (request.trialsWithin start) v w := by
  have known : ∀ {v stored}, parent.get? v = some stored → v ∈ visited := by
    intro v stored found
    rw [← mirrors.linked.keys]
    exact Dict.get?_isSome.mp (Option.isSome_iff_exists.mpr ⟨stored, found⟩)
  induction traces with
  | root v ends =>
    rw [List.mem_singleton]
    constructor
    · rintro rfl
      exact .here w
    · intro route
      cases route with
      | here => rfl
      | back _ _ trial member discovers rest =>
        obtain ⟨u, edge, discovered⟩ := trial
        dsimp only at discovers
        subst discovers
        have link := (mirrors.links v u edge).mpr
          ((mirrors.links_within before (known ends)).mp member)
        cases ends.symm.trans link
  | link v u edge ids edges link _ ih =>
    constructor
    · intro member
      rcases List.mem_cons.mp member with rfl | later
      · exact .here w
      · refine .back v w ⟨u, edge, some v⟩ ?_ rfl (ih.mp later)
        exact (mirrors.links_within before (known link)).mpr ((mirrors.links v u edge).mp link)
    · intro route
      cases route with
      | here => exact List.mem_cons_self
      | back _ _ trial member discovers rest =>
        obtain ⟨u', edge', discovered⟩ := trial
        dsimp only at discovers
        subst discovers
        have link' := (mirrors.links v u' edge').mpr
          ((mirrors.links_within before (known link)).mp member)
        cases link.symm.trans link'
        exact List.mem_cons_of_mem _ (ih.mpr rest)

end Within

/-- The search finds the goal exactly when it is among the nodes it may discover. -/
theorem search_found_iff (room : 1 ≤ request.nodeBudget) :
    (request.search start goal).state.found = true ↔ goal ∈ request.discoveredWithin start := by
  cases concludes_search room start goal with
  | halted trials before halted =>
    cases halted with
    | found found reached mirrors =>
      exact iff_of_true found ((mirrors.visited_within before).subset reached)
    | spent unfound spent goal_new mirrors full =>
      rw [← mirrors.visited_full before full, unfound]
      exact iff_of_false Bool.false_ne_true goal_new
  | settled unfound goal_new mirrors =>
    have all : (request.log start request.hops).trials = request.trialsWithin start :=
      (List.take_of_length_le mirrors.edges_fit).symm
    rw [← mirrors.visited_all all, unfound]
    exact iff_of_false Bool.false_ne_true goal_new

/-- A search without success visited all the nodes it may discover. -/
theorem search_visited (room : 1 ≤ request.nodeBudget)
    (unfound : (request.search start goal).state.found = false) :
    (request.search start goal).state.visited = request.discoveredWithin start := by
  cases concludes_search room start goal with
  | halted trials before halted =>
    cases halted with
    | found found reached mirrors => cases unfound.symm.trans found
    | spent _ spent goal_new mirrors full => exact mirrors.visited_full before full
  | settled _ goal_new mirrors =>
    exact mirrors.visited_all (List.take_of_length_le mirrors.edges_fit).symm

/-- A successful search reads the route to its goal off its links. -/
theorem search_route (room : 1 ≤ request.nodeBudget)
    (found : (request.search start goal).state.found = true) :
    ∃ ids edges, backtrack (request.search start goal).state.parent
        (request.search start goal).state.parent.size goal = (ids, edges) ∧
      ∀ nodeId, nodeId ∈ ids ↔ OnRoute (request.trialsWithin start) goal nodeId := by
  cases concludes_search room start goal with
  | settled unfound _ _ => cases unfound.symm.trans found
  | halted trials before halted =>
    cases halted with
    | spent unfound _ _ _ _ => cases unfound.symm.trans found
    | found _ reached mirrors =>
      obtain ⟨k, ids, edges, traces, _, distinct, inside⟩ := mirrors.traced goal reached
      refine ⟨ids, edges, traces.backtrack ?_, fun nodeId => traces.mem_iff mirrors before⟩
      rw [← Dict.length_keys, mirrors.linked.keys]
      exact distinct.length_le_of_subset inside

end DirectedRequest

/-! ### When a path is answered -/

section Answers

variable {py : Interpreter} {scope : GraphSet} {options : QueryOptions} {request : DirectedRequest}
  {start goal : Node}

/-- Looking up a list of ids. -/
theorem mapM_node_outcome {pinned : GraphSet} (ids : List Text) :
    LooksUp pinned ids (ids.mapM pinned.node) fun nodes => ∀ node ∈ nodes, node ∈ pinned.allNodes := by
  induction ids with
  | nil =>
    exact Or.inl ⟨[], rfl, fun _ none => (List.not_mem_nil none).elim,
      fun _ none => (List.not_mem_nil none).elim⟩
  | cons nodeId rest ih =>
    rw [List.mapM_cons]
    by_cases here : pinned.Pinned nodeId
    · obtain ⟨node, found⟩ := GraphSet.exists_node_iff.mpr here
      rcases ih with ⟨nodes, done, inside, all⟩ | ⟨other, member, absent, raised⟩
      · refine Or.inl ⟨node :: nodes, ?_, ?_, ?_⟩
        · rw [found, done]
          rfl
        · intro other member
          rcases List.mem_cons.mp member with rfl | later
          · exact (GraphSet.node_ok.mp found).1
          · exact inside other later
        · intro other member
          rcases List.mem_cons.mp member with rfl | later
          · exact here
          · exact all other later
      · refine Or.inr ⟨other, List.mem_cons_of_mem _ member, absent, ?_⟩
        rw [found, raised]
        rfl
    · refine Or.inr ⟨nodeId, List.mem_cons_self, here, ?_⟩
      rw [GraphSet.node_error here]
      rfl

/-- The answer of a search returns exactly when what the search looks up is pinned. -/
theorem answerPath_returns_iff (room : 1 ≤ request.nodeBudget) :
    (∃ result, answerPath py request start goal = .ok result) ↔
      request.Passable start.id goal.id := by
  unfold answerPath DirectedRequest.Passable
  dsimp only
  cases found : (request.search start.id goal.id).state.found with
  | true =>
    rw [if_pos rfl]
    have inside := (DirectedRequest.search_found_iff room).mp found
    obtain ⟨ids, edges, read, onRoute⟩ := DirectedRequest.search_route room found
    have looks : LooksUp request.pinned ids.reverse
        (foundPath request start goal (request.search start.id goal.id)) fun _ => True := by
      unfold foundPath
      dsimp only
      rw [read]
      refine (mapM_node_outcome ids.reverse).bind fun nodes pinned => ?_
      obtain ⟨documents, shown, _⟩ := nodeDocuments_ok request.sections pinned
      exact ⟨_, bind_eq_ok.mpr ⟨documents, shown, rfl⟩, trivial⟩
    rw [looks.returns_iff]
    simp only [List.mem_reverse, onRoute, inside, true_imp_iff, not_true_eq_false, false_imp_iff,
      and_true]
  | false =>
    rw [if_neg Bool.false_ne_true]
    have outside : goal.id ∉ request.discoveredWithin start.id := fun member => by
      cases found.symm.trans ((DirectedRequest.search_found_iff room).mpr member)
    have looks : LooksUp request.pinned (request.search start.id goal.id).state.visited
        (absentPath py request start goal (request.search start.id goal.id)) fun _ => True := by
      unfold absentPath
      exact (mapM_node_outcome _).bind fun nodes _ => ⟨_, rfl, trivial⟩
    rw [looks.returns_iff, DirectedRequest.search_visited room found]
    simp only [outside, false_imp_iff, not_false_eq_true, true_imp_iff, true_and]

/-- **A path between two nodes is answered exactly when what its search looks up is pinned.** -/
theorem path_returns_iff {target targetTo : Text} (accepted : request.Accepted scope options)
    (source : request.pinned.resolve py target = .ok start)
    (sink : request.pinned.resolve py targetTo = .ok goal) :
    (∃ result, path py scope target targetTo options = .ok result) ↔
      request.Passable start.id goal.id := by
  have same : path py scope target targetTo options = answerPath py request start goal := by
    unfold path
    rw [directedRequest_ok.mpr accepted]
    change (selectTarget py request.pinned target >>= _) = _
    rw [selectTarget_one.mpr source]
    change (selectTarget py request.pinned targetTo >>= _) = _
    rw [selectTarget_one.mpr sink]
    rfl
  rw [same]
  exact answerPath_returns_iff (validNodeBudget_range accepted.nodeBudget).1

end Answers

end AxiomMcp.Query
