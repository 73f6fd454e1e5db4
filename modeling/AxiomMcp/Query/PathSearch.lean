/-
**What a level of the path search keeps.**

* `DirectedRequest.Tried` lists what trying one edge can do.
* `Traces` reads the parent links from a node back to the source, and `Traced` says in how many edges.
* `InLevel` is what holds inside the level after `L`: nodes of the front are traced in `L` edges, those of
  the next level in `L + 1`, and these are new and one hop from the front.
* `Settled` is what a part of a level leaves that no goal and no budget stopped: **its edges were tried,
  and an edge tried leads to visited nodes only**. This needs the ids of edges to be unique; without it
  an edge can be taken for another one, tried before.
-/

import AxiomMcp.Query.Path

namespace AxiomMcp.Query

open AxiomMcp.Lib

namespace DirectedRequest

variable {request : DirectedRequest} {start goal : Text}

/-- One hop along a resolved edge of an allowed kind. -/
def Hop (request : DirectedRequest) : Text → Text → Prop :=
  Query.Hop request.pinned request.heading (namedKinds request.kinds) none

/-! ### What trying one edge can do -/

section Tried

variable (request goal)

/-- What trying one edge can do. -/
inductive Tried (nodeId : Text) (s : State) (edge : Edge) : State → Prop
  /-- An edge tried before. -/
  | again (seen : edge.id ∈ s.seenEdges) : Tried nodeId s edge s
  /-- An edge over the budget. -/
  | spent (fresh : edge.id ∉ s.seenEdges) (full : s.seenEdges.length ≥ request.edgeBudget) :
      Tried nodeId s edge (s.exhaust .maxEdges)
  /-- An edge without a target. -/
  | dangling (fresh : edge.id ∉ s.seenEdges) (unresolved : edge.resolved = false)
      (room : s.seenEdges.length < request.edgeBudget) :
      Tried nodeId s edge
        { s with
          seenEdges := s.seenEdges ++ [edge.id]
          unresolved := s.unresolved.setDefault edge.id edge }
  /-- An edge that might lead to a node over the budget. -/
  | crowded (fresh : edge.id ∉ s.seenEdges) (resolved : edge.resolved = true)
      (full : s.visited.length ≥ request.nodeBudget) :
      Tried nodeId s edge
        ({ s with seenEdges := s.seenEdges ++ [edge.id] }.exhaust .maxNodes)
  /-- An edge that leads to the goal. -/
  | goal (fresh : edge.id ∉ s.seenEdges)
      (leads : otherEnd edge nodeId request.heading = some goal)
      (room : s.seenEdges.length < request.edgeBudget)
      (space : s.visited.length < request.nodeBudget) :
      Tried nodeId s edge
        { ({ s with seenEdges := s.seenEdges ++ [edge.id] } : State).reach goal nodeId edge with
          found := true }
  /-- An edge that leads nowhere new. -/
  | old (fresh : edge.id ∉ s.seenEdges) (resolved : edge.resolved = true)
      (nothing : ∀ far, otherEnd edge nodeId request.heading = some far →
        far ∈ s.parent.keys ∧ far ≠ goal)
      (room : s.seenEdges.length < request.edgeBudget) :
      Tried nodeId s edge { s with seenEdges := s.seenEdges ++ [edge.id] }
  /-- An edge that leads to a new node. -/
  | new (far : Text) (fresh : edge.id ∉ s.seenEdges)
      (leads : otherEnd edge nodeId request.heading = some far)
      (unseen : far ∉ s.parent.keys) (other : far ≠ goal)
      (room : s.seenEdges.length < request.edgeBudget)
      (space : s.visited.length < request.nodeBudget) :
      Tried nodeId s edge
        { ({ s with seenEdges := s.seenEdges ++ [edge.id] } : State).reach far nodeId edge with
          nextLevel := s.nextLevel ++ [far] }

theorem tried (nodeId : Text) (s : State) (edge : Edge) :
    Tried request goal nodeId s edge (request.tryEdge goal nodeId s edge) := by
  unfold tryEdge
  by_cases seen : edge.id ∈ s.seenEdges
  · rw [if_pos seen]
    exact .again seen
  rw [if_neg seen]
  by_cases full : s.seenEdges.length ≥ request.edgeBudget
  · rw [if_pos full]
    exact .spent seen full
  rw [if_neg full]
  have room : s.seenEdges.length < request.edgeBudget := Nat.lt_of_not_ge full
  dsimp only
  cases resolved : edge.resolved with
  | false => exact .dangling seen resolved room
  | true =>
    rw [if_neg (by simp)]
    by_cases crowded : s.visited.length ≥ request.nodeBudget
    · rw [if_pos crowded]
      exact .crowded seen resolved crowded
    rw [if_neg crowded]
    have space : s.visited.length < request.nodeBudget := Nat.lt_of_not_ge crowded
    cases leads : otherEnd edge nodeId request.heading with
    | none => exact .old seen resolved (fun far there => by cases leads.symm.trans there) room
    | some far =>
      dsimp only
      by_cases here : far = goal
      · subst here
        rw [if_pos rfl]
        exact .goal seen leads room space
      rw [if_neg here]
      by_cases known : s.parent.has far = true
      · rw [if_pos known]
        refine .old seen resolved (fun other there => ?_) room
        cases leads.symm.trans there
        exact ⟨Dict.has_iff.mp known, here⟩
      · rw [if_neg known]
        exact .new far seen leads (fun member => known (Dict.has_iff.mpr member)) here room space

end Tried

/-! ### Parent links -/

/-- Following the parent links from a node back to one without a parent. -/
inductive Traces (parent : Dict Text (Option (Text × Edge))) : Text → List Text → List Edge → Prop
  | root (v : Text) (ends : parent.get? v = some none) : Traces parent v [v] []
  | link (v u : Text) (edge : Edge) (ids : List Text) (edges : List Edge)
      (link : parent.get? v = some (some (u, edge))) (rest : Traces parent u ids edges) :
      Traces parent v (v :: ids) (edge :: edges)

theorem Traces.set {parent : Dict Text (Option (Text × Edge))} {v far : Text} {ids : List Text}
    {edges : List Edge} (traces : Traces parent v ids edges) (fresh : far ∉ parent.keys)
    (value : Option (Text × Edge)) : Traces (parent.set far value) v ids edges := by
  have keeps : ∀ {u stored}, parent.get? u = some stored →
      (parent.set far value).get? u = some stored := by
    intro u stored found
    rw [Dict.get?_set, if_neg]
    · exact found
    · rintro rfl
      exact fresh (Dict.get?_isSome.mp (Option.isSome_iff_exists.mpr ⟨stored, found⟩))
  induction traces with
  | root v ends => exact .root v (keeps ends)
  | link v u edge ids edges link _ ih => exact .link v u edge ids edges (keeps link) ih

/-- The loop over the parent links reads a trace. -/
theorem Traces.backtrack {parent : Dict Text (Option (Text × Edge))} {v : Text} {ids : List Text}
    {edges : List Edge} (traces : Traces parent v ids edges) :
    ∀ {rounds : ℕ}, ids.length ≤ rounds → Query.backtrack parent rounds v = (ids, edges) := by
  induction traces with
  | root v ends =>
    intro rounds enough
    cases rounds with
    | zero => exact absurd enough (by simp)
    | succ rounds => simp only [Query.backtrack, ends]
  | link v u edge ids edges link _ ih =>
    intro rounds enough
    cases rounds with
    | zero => exact absurd enough (by simp)
    | succ rounds => simp only [Query.backtrack, link, ih (Nat.le_of_succ_le_succ enough)]

/-- The parent links of the visited nodes. -/
structure Linked (request : DirectedRequest) (start : Text) (parent : Dict Text (Option (Text × Edge)))
    (visited : List Text) : Prop where
  keys : parent.keys = visited
  /-- Only the source has no parent. -/
  root : ∀ v, parent.get? v = some none → v = start
  /-- A link is a pinned edge of an allowed kind, walked in the direction. -/
  link : ∀ v u edge, parent.get? v = some (some (u, edge)) → edge ∈ request.pinned.allEdges ∧
    Passes (namedKinds request.kinds) none edge ∧ Joins request.heading u edge v

/-- A node traced back in a number of edges, over visited nodes, without repetition. -/
def Traced (parent : Dict Text (Option (Text × Edge))) (visited : List Text) (v : Text) (k : ℕ) :
    Prop :=
  ∃ ids edges, Traces parent v ids edges ∧ edges.length = k ∧ ids.Nodup ∧ ids ⊆ visited

section Reach

variable {parent : Dict Text (Option (Text × Edge))} {visited : List Text} {u far : Text}
  {edge : Edge}

theorem Linked.reach (linked : Linked request start parent visited) (fresh : far ∉ parent.keys)
    (inside : edge ∈ request.pinned.allEdges) (passes : Passes (namedKinds request.kinds) none edge)
    (joins : Joins request.heading u edge far) :
    Linked request start (parent.set far (some (u, edge))) (visited ++ [far]) where
  keys := by rw [Dict.keys_set_of_notMem fresh, linked.keys]
  root := by
    intro v found
    rw [Dict.get?_set] at found
    by_cases here : v = far
    · rw [if_pos here] at found
      cases found
    · rw [if_neg here] at found
      exact linked.root v found
  link := by
    intro v w other found
    rw [Dict.get?_set] at found
    by_cases here : v = far
    · rw [if_pos here] at found
      cases found
      exact here ▸ ⟨inside, passes, joins⟩
    · rw [if_neg here] at found
      exact linked.link v w other found

theorem Traced.keep {v : Text} {k : ℕ} (traced : Traced parent visited v k)
    (fresh : far ∉ parent.keys) (value : Option (Text × Edge)) :
    Traced (parent.set far value) (visited ++ [far]) v k := by
  obtain ⟨ids, edges, traces, length, distinct, inside⟩ := traced
  exact ⟨ids, edges, traces.set fresh value, length, distinct, fun w member =>
    List.mem_append_left _ (inside member)⟩

/-- A new node is traced in one edge more than the node it was reached from. -/
theorem Traced.reach {k : ℕ} (traced : Traced parent visited u k)
    (linked : Linked request start parent visited) (fresh : far ∉ parent.keys) :
    Traced (parent.set far (some (u, edge))) (visited ++ [far]) far (k + 1) := by
  obtain ⟨ids, edges, traces, length, distinct, inside⟩ := traced
  refine ⟨far :: ids, edge :: edges, ?_, ?_, ?_, ?_⟩
  · refine .link far u edge ids edges ?_ (traces.set fresh _)
    rw [Dict.get?_set, if_pos rfl]
  · rw [List.length_cons, length]
  · rw [linked.keys] at fresh
    exact List.nodup_cons.mpr ⟨fun member => fresh (inside member), distinct⟩
  · intro w member
    rcases List.mem_cons.mp member with rfl | later
    · exact List.mem_append_right _ (List.mem_singleton.mpr rfl)
    · exact List.mem_append_left _ (inside later)

end Reach

/-! ### Inside a level -/

/-- What holds inside the level after `L`, for the nodes `before` visited before it. -/
structure InLevel (request : DirectedRequest) (start goal : Text) (L : ℕ) (front before : List Text)
    (s : State) : Prop where
  linked : Linked request start s.parent s.visited
  front_traced : ∀ v ∈ front, Traced s.parent s.visited v L
  next_traced : ∀ v ∈ s.nextLevel, Traced s.parent s.visited v (L + 1)
  /-- The next level is new, and one hop from the front. -/
  next_new : ∀ v ∈ s.nextLevel, v ∉ before ∧ ∃ u ∈ front, request.Hop u v
  visited_eq : s.found = false → s.visited = before ++ s.nextLevel
  goal_new : s.found = false → goal ∉ s.visited
  /-- A found goal is new, one hop from the front, and traced. -/
  goal_found : s.found = true → goal ∉ before ∧ Traced s.parent s.visited goal (L + 1) ∧
    ∃ u ∈ front, request.Hop u goal

/-- An edge tried leads to visited nodes only; an unresolved one is kept. -/
def Accounted (request : DirectedRequest) (s : State) : Prop :=
  ∀ edge ∈ request.pinned.allEdges, edge.id ∈ s.seenEdges →
    (∀ u v, Joins request.heading u edge v → v ∈ s.visited) ∧
      (edge.resolved = false → edge.id ∈ s.unresolved.keys)

variable {L : ℕ} {front before : List Text} {s : State} {nodeId : Text} {edge : Edge}

theorem hop_of_incident (member : edge ∈ request.incident nodeId) {far : Text}
    (leads : otherEnd edge nodeId request.heading = some far) :
    edge ∈ request.pinned.allEdges ∧ Passes (namedKinds request.kinds) none edge ∧
      Joins request.heading nodeId edge far := by
  obtain ⟨inside, passes, _⟩ := of_mem_incident member
  exact ⟨inside, passes, otherEnd_eq_some.mp leads⟩

/-- Trying an edge keeps what holds inside a level. -/
theorem InLevel.tryEdge (here : InLevel request start goal L front before s)
    (running : s.stopped = false) (inFront : nodeId ∈ front)
    (member : edge ∈ request.incident nodeId) :
    InLevel request start goal L front before (request.tryEdge goal nodeId s edge) := by
  have unfound : s.found = false := (Bool.or_eq_false_iff.mp running).1
  have done := tried request goal nodeId s edge
  generalize request.tryEdge goal nodeId s edge = t at done ⊢
  cases done with
  | again seen => exact here
  | spent fresh full =>
    exact ⟨here.linked, here.front_traced, here.next_traced, here.next_new, here.visited_eq,
      here.goal_new, here.goal_found⟩
  | dangling fresh unresolved =>
    exact ⟨here.linked, here.front_traced, here.next_traced, here.next_new, here.visited_eq,
      here.goal_new, here.goal_found⟩
  | crowded fresh resolved full =>
    exact ⟨here.linked, here.front_traced, here.next_traced, here.next_new, here.visited_eq,
      here.goal_new, here.goal_found⟩
  | goal fresh leads =>
    obtain ⟨inside, passes, joins⟩ := hop_of_incident member leads
    have unseen : goal ∉ s.parent.keys := by
      rw [here.linked.keys]
      exact here.goal_new unfound
    have outside : goal ∉ before := fun old => here.goal_new unfound <| by
      rw [here.visited_eq unfound]
      exact List.mem_append_left _ old
    exact {
      linked := here.linked.reach unseen inside passes joins
      front_traced := fun v inFront => (here.front_traced v inFront).keep unseen _
      next_traced := fun v next => (here.next_traced v next).keep unseen _
      next_new := here.next_new
      visited_eq := fun none => Bool.noConfusion none
      goal_new := fun none => Bool.noConfusion none
      goal_found := fun _ => ⟨outside, (here.front_traced nodeId inFront).reach here.linked unseen,
        nodeId, inFront, edge, inside, passes, joins⟩ }
  | old fresh resolved nothing =>
    exact ⟨here.linked, here.front_traced, here.next_traced, here.next_new, here.visited_eq,
      here.goal_new, here.goal_found⟩
  | new far fresh leads unseen other =>
    obtain ⟨inside, passes, joins⟩ := hop_of_incident member leads
    have unvisited : far ∉ s.visited := here.linked.keys ▸ unseen
    have outside : far ∉ before := fun old => unvisited <| by
      rw [here.visited_eq unfound]
      exact List.mem_append_left _ old
    have found : ∀ {t : State}, t.found = s.found → t.found = true → False := fun same yes =>
      Bool.false_ne_true (unfound.symm.trans (same.symm.trans yes))
    exact {
      linked := here.linked.reach unseen inside passes joins
      front_traced := fun v inFront => (here.front_traced v inFront).keep unseen _
      next_traced := by
        intro v next
        rcases List.mem_append.mp next with old | last
        · exact (here.next_traced v old).keep unseen _
        · obtain rfl := List.mem_singleton.mp last
          exact (here.front_traced nodeId inFront).reach here.linked unseen
      next_new := by
        intro v next
        rcases List.mem_append.mp next with old | last
        · exact here.next_new v old
        · obtain rfl := List.mem_singleton.mp last
          exact ⟨outside, nodeId, inFront, edge, inside, passes, joins⟩
      visited_eq := by
        intro _
        change s.visited ++ [far] = before ++ (s.nextLevel ++ [far])
        rw [here.visited_eq unfound, List.append_assoc]
      goal_new := by
        intro _ visited
        rcases List.mem_append.mp visited with old | last
        · exact here.goal_new unfound old
        · exact other (List.mem_singleton.mp last).symm
      goal_found := fun yes => (found rfl yes).elim }

/-- The two ends of an edge, from one of its joints. -/
theorem joins_ends {direction : Direction} {u v w x : Text} (first : Joins direction u edge w)
    (second : Joins direction v edge x) : x = w ∨ x = u := by
  cases direction with
  | outgoing => exact Or.inl (Option.some.inj (second.2.symm.trans first.2))
  | incoming => exact Or.inl (second.2.symm.trans first.2)
  | both =>
    rcases first with ⟨source, target⟩ | ⟨target, source⟩
    · rcases second with ⟨_, target'⟩ | ⟨_, source'⟩
      · exact Or.inl (Option.some.inj (target'.symm.trans target))
      · exact Or.inr (source'.symm.trans source)
    · rcases second with ⟨_, target'⟩ | ⟨_, source'⟩
      · exact Or.inr (Option.some.inj (target'.symm.trans target))
      · exact Or.inl (source'.symm.trans source)

/-- A resolved incident edge leads somewhere. -/
theorem leads_of_incident (member : edge ∈ request.incident nodeId)
    (resolved : edge.resolved = true) : ∃ far, otherEnd edge nodeId request.heading = some far := by
  obtain ⟨_, _, touches⟩ := of_mem_incident member
  obtain ⟨target, ends⟩ := Option.isSome_iff_exists.mp resolved
  unfold Touches at touches
  cases heading : request.heading with
  | outgoing =>
    rw [heading] at touches
    exact ⟨target, otherEnd_eq_some.mpr ⟨touches, ends⟩⟩
  | incoming =>
    rw [heading] at touches
    exact ⟨edge.sourceId, otherEnd_eq_some.mpr ⟨touches, rfl⟩⟩
  | both =>
    rw [heading] at touches
    rcases touches with source | target'
    · exact ⟨target, otherEnd_eq_some.mpr (Or.inl ⟨source, ends⟩)⟩
    · exact ⟨edge.sourceId, otherEnd_eq_some.mpr (Or.inr ⟨target', rfl⟩)⟩

/-- Accounts of the edges tried before, and of one more. -/
theorem Accounted.extend (unique : request.pinned.UniqueEdgeIds) {t : State}
    (accounted : Accounted request s) (inside : edge ∈ request.pinned.allEdges)
    (seen : t.seenEdges = s.seenEdges ++ [edge.id]) (visited : s.visited ⊆ t.visited)
    (kept : ∀ edgeId ∈ s.unresolved.keys, edgeId ∈ t.unresolved.keys)
    (here : (∀ u v, Joins request.heading u edge v → v ∈ t.visited) ∧
      (edge.resolved = false → edge.id ∈ t.unresolved.keys)) : Accounted request t := by
  intro other member tried
  rw [seen] at tried
  rcases List.mem_append.mp tried with before | last
  · obtain ⟨joins, dangling⟩ := accounted other member before
    exact ⟨fun u v joint => visited (joins u v joint), fun open' => kept _ (dangling open')⟩
  · rw [GraphSet.edge_eq_of_id unique member inside (List.mem_singleton.mp last)]
    exact here

/-- With unique edge ids, an edge that was tried without a stop is accounted for. -/
theorem Accounted.tryEdge (unique : request.pinned.UniqueEdgeIds) (accounted : Accounted request s)
    (keys : s.parent.keys = s.visited) (visited : nodeId ∈ s.visited)
    (member : edge ∈ request.incident nodeId)
    (running : (request.tryEdge goal nodeId s edge).stopped = false) :
    Accounted request (request.tryEdge goal nodeId s edge) ∧
      edge.id ∈ (request.tryEdge goal nodeId s edge).seenEdges ∧
      s.seenEdges ⊆ (request.tryEdge goal nodeId s edge).seenEdges := by
  obtain ⟨inside, _, _⟩ := of_mem_incident member
  have done := tried request goal nodeId s edge
  generalize request.tryEdge goal nodeId s edge = t at done running ⊢
  have last : edge.id ∈ s.seenEdges ++ [edge.id] :=
    List.mem_append_right _ (List.mem_singleton.mpr rfl)
  cases done with
  | again seen => exact ⟨accounted, seen, List.Subset.refl _⟩
  | spent fresh full => simp [State.stopped, State.exhaust] at running
  | crowded fresh resolved full => simp [State.stopped, State.exhaust] at running
  | goal fresh leads => simp [State.stopped] at running
  | dangling fresh unresolved =>
    refine ⟨accounted.extend unique inside rfl (List.Subset.refl _) ?_ ⟨?_, ?_⟩, last,
      List.subset_append_left _ _⟩
    · exact fun edgeId old => Dict.mem_keys_setDefault.mpr (Or.inl old)
    · intro u v joins
      cases unresolved.symm.trans joins.resolved
    · exact fun _ => Dict.mem_keys_setDefault.mpr (Or.inr rfl)
  | old fresh resolved nothing =>
    obtain ⟨far, leads⟩ := leads_of_incident member resolved
    refine ⟨accounted.extend unique inside rfl (List.Subset.refl _) (fun _ old => old) ⟨?_, ?_⟩,
      last, List.subset_append_left _ _⟩
    · intro u v joins
      rcases joins_ends (otherEnd_eq_some.mp leads) joins with rfl | rfl
      · exact keys ▸ (nothing v leads).1
      · exact visited
    · intro dangling
      cases dangling.symm.trans resolved
  | new far fresh leads unseen other =>
    refine ⟨accounted.extend unique inside rfl (List.subset_append_left _ _) (fun _ old => old)
      ⟨?_, ?_⟩, last, List.subset_append_left _ _⟩
    · intro u v joins
      rcases joins_ends (otherEnd_eq_some.mp leads) joins with rfl | rfl
      · exact List.mem_append_right _ (List.mem_singleton.mpr rfl)
      · exact List.mem_append_left _ visited
    · intro dangling
      cases dangling.symm.trans (otherEnd_eq_some.mp leads).resolved

/-! ### A whole level -/

theorem InLevel.tryEdges (inFront : nodeId ∈ front) (edges : List Edge)
    (members : ∀ edge ∈ edges, edge ∈ request.incident nodeId) :
    ∀ {s : State}, InLevel request start goal L front before s → s.stopped = false →
      InLevel request start goal L front before (request.tryEdges goal nodeId edges s) := by
  induction edges with
  | nil => exact fun here _ => here
  | cons edge rest ih =>
    intro s here running
    have next := here.tryEdge running inFront (members edge List.mem_cons_self)
    unfold DirectedRequest.tryEdges
    dsimp only
    cases stop : (request.tryEdge goal nodeId s edge).stopped with
    | true =>
      rw [if_pos rfl]
      exact next
    | false =>
      rw [if_neg Bool.false_ne_true]
      exact ih (fun other member => members other (List.mem_cons_of_mem _ member)) next stop

theorem InLevel.tryNodes (nodes : List Text) (inFront : nodes ⊆ front) :
    ∀ {s : State}, InLevel request start goal L front before s → s.stopped = false →
      InLevel request start goal L front before (request.tryNodes goal nodes s) := by
  induction nodes with
  | nil => exact fun here _ => here
  | cons nodeId rest ih =>
    intro s here running
    have next := here.tryEdges (inFront List.mem_cons_self) (request.incident nodeId)
      (fun _ member => member) running
    unfold DirectedRequest.tryNodes
    dsimp only
    cases stop : (request.tryEdges goal nodeId (request.incident nodeId) s).stopped with
    | true =>
      rw [if_pos rfl]
      exact next
    | false =>
      rw [if_neg Bool.false_ne_true]
      exact ih (fun v member => inFront (List.mem_cons_of_mem _ member)) next stop

/-- What an unstopped part of a level leaves, for the edges it went through. -/
structure Settled (request : DirectedRequest) (edges : List Edge) (s t : State) : Prop where
  accounted : Accounted request t
  tried : ∀ edge ∈ edges, edge.id ∈ t.seenEdges
  seen : s.seenEdges ⊆ t.seenEdges
  visited : s.visited ⊆ t.visited

theorem Settled.nil (accounted : Accounted request s) : Settled request [] s s where
  accounted := accounted
  tried := fun _ none => (List.not_mem_nil none).elim
  seen := List.Subset.refl _
  visited := List.Subset.refl _

theorem Settled.append {t u : State} {first second : List Edge} (left : Settled request first s t)
    (right : Settled request second t u) : Settled request (first ++ second) s u where
  accounted := right.accounted
  tried := by
    intro edge member
    rcases List.mem_append.mp member with before | after
    · exact right.seen (left.tried edge before)
    · exact right.tried edge after
  seen := List.Subset.trans left.seen right.seen
  visited := List.Subset.trans left.visited right.visited

theorem visited_tryEdge (nodeId : Text) (s : State) (edge : Edge) :
    s.visited ⊆ (request.tryEdge goal nodeId s edge).visited := by
  have done := tried request goal nodeId s edge
  generalize request.tryEdge goal nodeId s edge = t at done ⊢
  cases done with
  | again seen => exact List.Subset.refl _
  | spent fresh full => exact List.Subset.refl _
  | dangling fresh unresolved => exact List.Subset.refl _
  | crowded fresh resolved full => exact List.Subset.refl _
  | goal fresh leads => exact List.subset_append_left _ _
  | old fresh resolved nothing => exact List.Subset.refl _
  | new far fresh leads unseen other => exact List.subset_append_left _ _

/-- An edge tried without a stop. -/
theorem InLevel.settled (unique : request.pinned.UniqueEdgeIds)
    (here : InLevel request start goal L front before s) (accounted : Accounted request s)
    (visited : nodeId ∈ s.visited) (member : edge ∈ request.incident nodeId)
    (running : (request.tryEdge goal nodeId s edge).stopped = false) :
    Settled request [edge] s (request.tryEdge goal nodeId s edge) := by
  obtain ⟨accounted', tried, seen⟩ :=
    accounted.tryEdge unique here.linked.keys visited member running
  refine ⟨accounted', ?_, seen, visited_tryEdge nodeId s edge⟩
  intro other last
  rw [List.mem_singleton.mp last]
  exact tried

theorem InLevel.settled_edges (unique : request.pinned.UniqueEdgeIds) (inFront : nodeId ∈ front)
    (edges : List Edge) (members : ∀ edge ∈ edges, edge ∈ request.incident nodeId) :
    ∀ {s : State}, InLevel request start goal L front before s → s.stopped = false →
      Accounted request s → nodeId ∈ s.visited →
      (request.tryEdges goal nodeId edges s).stopped = false →
      Settled request edges s (request.tryEdges goal nodeId edges s) := by
  induction edges with
  | nil => exact fun _ _ accounted _ _ => .nil accounted
  | cons edge rest ih =>
    intro s here running accounted visited unstopped
    have member := members edge List.mem_cons_self
    have next := here.tryEdge running inFront member
    unfold DirectedRequest.tryEdges at unstopped ⊢
    dsimp only at unstopped ⊢
    cases stop : (request.tryEdge goal nodeId s edge).stopped with
    | true =>
      rw [if_pos stop, stop] at unstopped
      cases unstopped
    | false =>
      rw [stop, if_neg Bool.false_ne_true] at unstopped
      rw [if_neg Bool.false_ne_true]
      have first := here.settled unique accounted visited member stop
      exact first.append (ih (fun other later => members other (List.mem_cons_of_mem _ later)) next
        stop first.accounted (first.visited visited) unstopped)

/-- A level that nothing stops tries every edge at its nodes. -/
theorem InLevel.settled_nodes (unique : request.pinned.UniqueEdgeIds) (nodes : List Text)
    (inFront : nodes ⊆ front) :
    ∀ {s : State}, InLevel request start goal L front before s → s.stopped = false →
      Accounted request s → nodes ⊆ s.visited →
      (request.tryNodes goal nodes s).stopped = false →
      Settled request (nodes.flatMap request.incident) s (request.tryNodes goal nodes s) := by
  induction nodes with
  | nil => exact fun _ _ accounted _ _ => .nil accounted
  | cons nodeId rest ih =>
    intro s here running accounted visited unstopped
    have inside : nodeId ∈ front := inFront List.mem_cons_self
    have all : ∀ edge ∈ request.incident nodeId, edge ∈ request.incident nodeId :=
      fun _ member => member
    have next := here.tryEdges inside (request.incident nodeId) all running
    unfold DirectedRequest.tryNodes at unstopped ⊢
    dsimp only at unstopped ⊢
    cases stop : (request.tryEdges goal nodeId (request.incident nodeId) s).stopped with
    | true =>
      rw [if_pos stop, stop] at unstopped
      cases unstopped
    | false =>
      rw [stop, if_neg Bool.false_ne_true] at unstopped
      rw [if_neg Bool.false_ne_true, List.flatMap_cons]
      have first := here.settled_edges unique inside (request.incident nodeId) all running accounted
        (visited List.mem_cons_self) stop
      exact first.append (ih (fun v member => inFront (List.mem_cons_of_mem _ member)) next stop
        first.accounted (fun v member => first.visited (visited (List.mem_cons_of_mem _ member)))
        unstopped)

end DirectedRequest

end AxiomMcp.Query
