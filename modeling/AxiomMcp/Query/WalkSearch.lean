/-
**The walk is a budgeted search.**

The loops of `boundedWalk` are followed side by side with the search `WalkSetting.search` over the net
of incident edges: an edge (`SameScan.examine`), a level (`SameState.level`), a run (`walkLevels_outcome`).

* `walkFrom_outcome` — **the walk returns exactly when every node the search sees is pinned**, and raises
  `noNode` for a seen node otherwise;
* `Walked` — what it returns: the search's nodes, its slots as edges, and its cut.
-/

import AxiomMcp.Query.Walk
import AxiomMcp.Lib.Fallible

namespace AxiomMcp.Query

open AxiomMcp.Lib

/-! ### The search behind the walk -/

/-- The budgets of a walk. -/
def WalkSetting.limits (setting : WalkSetting) : Limits :=
  ⟨some setting.nodeBudget, some setting.edgeBudget⟩

/-- What a walk follows under its options. -/
def WalkSetting.net (setting : WalkSetting) (pinned : GraphSet) : Net Text Edge Text Bool :=
  walkNet pinned setting.heading setting.kinds setting.allowedResolutions

/-- What the search behind a walk knows after a number of levels. -/
def WalkSetting.search (setting : WalkSetting) (pinned : GraphSet) (roots : List Text) (n : ℕ) :
    Stage Text Text Bool :=
  (setting.net pinned).run setting.limits roots n

/-! ### Inside a level -/

/-- The ids collected by a walk are the slots counted by a search. -/
structure SameSlots (pinned : GraphSet) (walked unresolved : Dict Text Edge)
    (known : List (Text × Bool)) : Prop where
  walked_keys : ∀ edgeId, edgeId ∈ walked.keys ↔ (edgeId, true) ∈ known
  unresolved_keys : ∀ edgeId, edgeId ∈ unresolved.keys ↔ (edgeId, false) ∈ known
  count : walked.size + unresolved.size = known.length
  walked_stored : ∀ edgeId edge, walked.get? edgeId = some edge →
    edge ∈ pinned.allEdges ∧ edge.id = edgeId ∧ edge.resolved = true
  unresolved_stored : ∀ edgeId edge, unresolved.get? edgeId = some edge →
    edge ∈ pinned.allEdges ∧ edge.id = edgeId ∧ edge.resolved = false

/-- A level of the walk stands where a scan of the search stands. -/
structure SameScan (pinned : GraphSet) (scan : LevelScan) (s : Scan Text Text Bool) : Prop where
  slots : SameSlots pinned scan.walked scan.unresolved s.known
  discovered : scan.discovered = s.found
  cut : scan.reasons = [] ↔ s.cut = false

theorem SameSlots.known_iff {pinned : GraphSet} {walked unresolved : Dict Text Edge}
    {known : List (Text × Bool)} (same : SameSlots pinned walked unresolved known)
    {edgeId : Text} :
    (walked.has edgeId || unresolved.has edgeId) = true ↔ edgeId ∈ known.map Prod.fst := by
  rw [Bool.or_eq_true, Dict.has_iff, Dict.has_iff, same.walked_keys, same.unresolved_keys,
    List.mem_map]
  constructor
  · rintro (member | member)
    · exact ⟨_, member, rfl⟩
    · exact ⟨_, member, rfl⟩
  · rintro ⟨⟨other, tag⟩, member, rfl⟩
    cases tag with
    | true => exact Or.inl member
    | false => exact Or.inr member

/-- Storing the first edge of an id, beside the other dictionary. -/
private theorem stored_setDefault {pinned : GraphSet} {collected : Dict Text Edge} {edge : Edge}
    {tag : Bool} (inside : edge ∈ pinned.allEdges) (tagged : edge.resolved = tag)
    (stored : ∀ edgeId other, collected.get? edgeId = some other →
      other ∈ pinned.allEdges ∧ other.id = edgeId ∧ other.resolved = tag) :
    ∀ edgeId other, (collected.setDefault edge.id edge).get? edgeId = some other →
      other ∈ pinned.allEdges ∧ other.id = edgeId ∧ other.resolved = tag := by
  intro edgeId other found
  rw [Dict.get?_setDefault] at found
  by_cases here : edgeId = edge.id
  · rw [if_pos here] at found
    subst here
    cases old : collected.get? edge.id with
    | none =>
      rw [old] at found
      cases found
      exact ⟨inside, rfl, tagged⟩
    | some first =>
      rw [old] at found
      cases found
      exact stored edge.id first old
  · rw [if_neg here] at found
    exact stored edgeId other found

theorem size_setDefault {collected : Dict Text Edge} {edge : Edge} :
    (collected.setDefault edge.id edge).size =
      if edge.id ∈ collected.keys then collected.size else collected.size + 1 := by
  by_cases old : edge.id ∈ collected.keys
  · rw [Dict.setDefault_of_mem old, if_pos old]
  · rw [Dict.setDefault_of_notMem old, Dict.size_set_of_notMem old, if_neg old]

/-- Collecting an edge is counting its slot. -/
theorem SameScan.collect {pinned : GraphSet} {scan : LevelScan} {s : Scan Text Text Bool}
    (same : SameScan pinned scan s) {edge : Edge} (inside : edge ∈ pinned.allEdges) :
    SameScan pinned (scan.collect edge) (s.enter (edge.id, edge.resolved)) := by
  obtain ⟨slots, discovered, cut⟩ := same
  unfold LevelScan.collect
  cases tag : edge.resolved with
  | true =>
    refine ⟨⟨?_, ?_, ?_, ?_, slots.unresolved_stored⟩, discovered, cut⟩
    · intro edgeId
      simp only [if_true]
      rw [Dict.mem_keys_setDefault, Scan.mem_enter, slots.walked_keys]
      simp
    · intro edgeId
      rw [Scan.mem_enter, ← slots.unresolved_keys]
      simp
    · simp only [if_true]
      rw [size_setDefault, Scan.enter]
      simp only [slots.walked_keys]
      by_cases old : (edge.id, true) ∈ s.known
      · rw [if_pos old, if_pos old]
        exact slots.count
      · rw [if_neg old, if_neg old, List.length_append, List.length_singleton, ← slots.count]
        omega
    · exact stored_setDefault inside tag slots.walked_stored
  | false =>
    refine ⟨⟨?_, ?_, ?_, slots.walked_stored, ?_⟩, discovered, cut⟩
    · intro edgeId
      rw [Scan.mem_enter, ← slots.walked_keys]
      simp
    · intro edgeId
      simp only [Bool.false_eq_true, if_false]
      rw [Dict.mem_keys_setDefault, Scan.mem_enter, slots.unresolved_keys]
      simp
    · simp only [Bool.false_eq_true, if_false]
      rw [size_setDefault, Scan.enter]
      simp only [slots.unresolved_keys]
      by_cases old : (edge.id, false) ∈ s.known
      · rw [if_pos old, if_pos old]
        exact slots.count
      · rw [if_neg old, if_neg old, List.length_append, List.length_singleton, ← slots.count]
        omega
    · exact stored_setDefault inside tag slots.unresolved_stored

theorem SameScan.block {pinned : GraphSet} {scan : LevelScan} {s : Scan Text Text Bool}
    (same : SameScan pinned scan s) (reason : WalkReason) (nodeId : Text) :
    SameScan pinned (scan.block reason nodeId) { s with cut := true } := by
  refine ⟨same.slots, same.discovered, ?_⟩
  have some_reason : scan.reasons.insert reason ≠ [] :=
    List.ne_nil_of_mem (List.mem_insert_self)
  constructor
  · exact fun none => (some_reason none).elim
  · exact fun uncut => Bool.noConfusion uncut

section Level

variable {pinned : GraphSet} {setting : WalkSetting} {visited : Dict Text Node} {seen : List Text}
  {scan : LevelScan} {s : Scan Text Text Bool}

/-- **Trying an edge is trying it in the search.** -/
theorem SameScan.examine (same : SameScan pinned scan s) (keys : visited.keys = seen) {edge : Edge}
    (inside : edge ∈ pinned.allEdges) (nodeId : Text) :
    SameScan pinned (examine setting visited nodeId scan edge)
      ((setting.net pinned).examine setting.limits seen s (nodeId, edge)) := by
  have known : (scan.walked.has edge.id || scan.unresolved.has edge.id) = true ↔
      edge.id ∈ s.known.map Prod.fst := same.slots.known_iff
  have size : visited.size = seen.length := by rw [← keys, Dict.length_keys]
  unfold Query.examine
  by_cases refused : edge.id ∉ s.known.map Prod.fst ∧
      full setting.limits.edges s.known.length = true
  · have beyond : (!(scan.walked.has edge.id || scan.unresolved.has edge.id) &&
        decide (scan.walked.size + scan.unresolved.size ≥ setting.edgeBudget)) = true := by
      rw [Bool.and_eq_true, Bool.not_eq_true', Bool.eq_false_iff, Ne, known, decide_eq_true_iff,
        same.slots.count]
      exact ⟨refused.1, full_some.mp refused.2⟩
    have tried : (setting.net pinned).examine setting.limits seen s (nodeId, edge) =
        { s with cut := true } := Net.examine_skipped refused.1 refused.2
    rw [if_pos beyond, tried]
    exact same.block _ _
  have within : ¬ (!(scan.walked.has edge.id || scan.unresolved.has edge.id) &&
      decide (scan.walked.size + scan.unresolved.size ≥ setting.edgeBudget)) = true := by
    rw [Bool.and_eq_true, Bool.not_eq_true', Bool.eq_false_iff, Ne, known, decide_eq_true_iff,
      same.slots.count]
    exact fun beyond => refused ⟨beyond.1, full_some.mpr beyond.2⟩
  have room : (setting.net pinned).Room setting.limits s edge := by
    rw [not_and_or, not_not, Bool.not_eq_true] at refused
    exact refused
  have collected : SameScan pinned (scan.collect edge) (s.enter (edge.id, edge.resolved)) :=
    same.collect inside
  have found : (scan.collect edge).discovered = s.found := collected.discovered
  rw [if_neg within]
  dsimp only
  cases leads : otherEnd edge nodeId setting.heading with
  | none =>
    have tried : (setting.net pinned).examine setting.limits seen s (nodeId, edge) =
        s.enter (edge.id, edge.resolved) := Net.examine_old room fun w there => by
      cases leads.symm.trans there
    rw [tried]
    exact collected
  | some other =>
    dsimp only
    have met : (visited.has other || decide (other ∈ (scan.collect edge).discovered)) = true ↔
        other ∈ seen ∨ other ∈ s.found := by
      rw [Bool.or_eq_true, Dict.has_iff, decide_eq_true_iff, keys, found]
    by_cases old : other ∈ seen ∨ other ∈ s.found
    · have tried : (setting.net pinned).examine setting.limits seen s (nodeId, edge) =
          s.enter (edge.id, edge.resolved) := Net.examine_old room fun w there => by
        cases leads.symm.trans there
        exact old
      rw [if_pos (met.mpr old), tried]
      exact collected
    rw [if_neg fun again => old (met.mp again)]
    rw [not_or] at old
    cases spent : full setting.limits.nodes (seen.length + s.found.length) with
    | true =>
      have beyond : visited.size + (scan.collect edge).discovered.length ≥ setting.nodeBudget := by
        rw [size, found]
        exact full_some.mp spent
      have tried : (setting.net pinned).examine setting.limits seen s (nodeId, edge) =
          { s.enter (edge.id, edge.resolved) with cut := true } :=
        Net.examine_blocked room leads old.1 old.2 spent
      rw [if_pos beyond, tried]
      exact collected.block _ _
    | false =>
      have below : ¬ visited.size + (scan.collect edge).discovered.length ≥ setting.nodeBudget := by
        rw [size, found]
        exact of_decide_eq_false spent
      have tried : (setting.net pinned).examine setting.limits seen s (nodeId, edge) =
          { s.enter (edge.id, edge.resolved) with found := s.found ++ [other] } :=
        Net.examine_discovered room leads old.1 old.2 spent
      rw [if_neg below, tried]
      refine ⟨collected.slots, ?_, collected.cut⟩
      dsimp only
      rw [found]

/-- The edges of one node. -/
theorem SameScan.node (keys : visited.keys = seen) (nodeId : Text) (edges : List Edge)
    (inside : ∀ edge ∈ edges, edge ∈ pinned.allEdges) :
    ∀ {scan : LevelScan} {s : Scan Text Text Bool}, SameScan pinned scan s →
      SameScan pinned (edges.foldl (Query.examine setting visited nodeId) scan)
        ((setting.net pinned).scan setting.limits seen (edges.map fun edge => (nodeId, edge)) s) := by
  induction edges with
  | nil => exact fun same => same
  | cons edge rest ih =>
    intro scan s same
    exact ih (fun other member => inside other (List.mem_cons_of_mem _ member))
      (same.examine keys (inside edge List.mem_cons_self) nodeId)

/-- The nodes of one level. -/
theorem SameScan.nodes (keys : visited.keys = seen) (front : List Text) :
    ∀ {scan : LevelScan} {s : Scan Text Text Bool}, SameScan pinned scan s →
      SameScan pinned
        (front.foldl (fun scan nodeId => (setting.incident pinned nodeId).foldl
          (Query.examine setting visited nodeId) scan) scan)
        ((setting.net pinned).scan setting.limits seen ((setting.net pinned).steps front) s) := by
  induction front with
  | nil => exact fun same => same
  | cons nodeId rest ih =>
    intro scan s same
    rw [List.foldl_cons, Net.steps_cons, Net.scan_append]
    exact ih (SameScan.node keys nodeId _ (fun edge member => (of_mem_incident member).1) same)

end Level

/-! ### Between levels -/

/-- A dictionary of nodes holds what the scope pins. -/
def HoldsNodes (pinned : GraphSet) (visited : Dict Text Node) : Prop :=
  ∀ nodeId node, visited.get? nodeId = some node → pinned.node nodeId = .ok node

/-- The walk stands between two levels where the search stands. -/
structure SameState (pinned : GraphSet) (state : WalkState) (st : Stage Text Text Bool) : Prop where
  slots : SameSlots pinned state.walked state.unresolved st.known
  visited_keys : state.visited.keys = st.seen
  visited_nodes : HoldsNodes pinned state.visited
  current : state.current = st.front
  cut : state.reasons = [] ↔ st.cut = false

/-- Looking up some ids: either all are pinned and the result has a property, or the error names one
that is not. -/
def LooksUp {α : Type} (pinned : GraphSet) (ids : List Text) (result : Except QueryModelError α)
    (property : α → Prop) : Prop :=
  (∃ a, result = .ok a ∧ property a ∧ ∀ nodeId ∈ ids, pinned.Pinned nodeId) ∨
    ∃ nodeId ∈ ids, ¬ pinned.Pinned nodeId ∧ result = .error (.noNode nodeId)

namespace LooksUp

variable {α β : Type} {pinned : GraphSet} {ids : List Text} {x : Except QueryModelError α}
  {property : α → Prop}

/-- It returns exactly when all ids are pinned. -/
theorem returns_iff (looks : LooksUp pinned ids x property) :
    (∃ a, x = .ok a) ↔ ∀ nodeId ∈ ids, pinned.Pinned nodeId := by
  rcases looks with ⟨a, done, _, all⟩ | ⟨nodeId, member, absent, raised⟩
  · exact iff_of_true ⟨a, done⟩ all
  · refine iff_of_false ?_ fun all => absent (all nodeId member)
    rintro ⟨a, done⟩
    cases raised.symm.trans done

/-- Going on with a step that returns. -/
theorem bind (looks : LooksUp pinned ids x property) {f : α → Except QueryModelError β}
    {property' : β → Prop} (next : ∀ a, property a → ∃ b, f a = .ok b ∧ property' b) :
    LooksUp pinned ids (x >>= f) property' := by
  rcases looks with ⟨a, done, holds, all⟩ | ⟨nodeId, member, absent, raised⟩
  · obtain ⟨b, done', holds'⟩ := next a holds
    exact Or.inl ⟨b, bind_eq_ok.mpr ⟨a, done, done'⟩, holds', all⟩
  · refine Or.inr ⟨nodeId, member, absent, ?_⟩
    rw [raised]
    rfl

end LooksUp

section Outcome

variable {pinned : GraphSet} {setting : WalkSetting}

theorem HoldsNodes.set {visited : Dict Text Node} (holds : HoldsNodes pinned visited) {nodeId : Text}
    {node : Node} (found : pinned.node nodeId = .ok node) :
    HoldsNodes pinned (visited.set nodeId node) := by
  intro other stored lookup
  rw [Dict.get?_set] at lookup
  by_cases here : other = nodeId
  · rw [if_pos here] at lookup
    cases lookup
    exact here ▸ found
  · rw [if_neg here] at lookup
    exact holds other stored lookup

theorem visitAll_outcome (ids : List Text) : ∀ {visited : Dict Text Node},
    HoldsNodes pinned visited → (visited.keys ++ ids).Nodup →
      LooksUp pinned ids (visitAll pinned visited ids) fun visited' =>
        visited'.keys = visited.keys ++ ids ∧ HoldsNodes pinned visited' := by
  induction ids with
  | nil =>
    intro visited holds _
    exact Or.inl ⟨visited, rfl, ⟨(List.append_nil _).symm, holds⟩,
      fun _ member => (List.not_mem_nil member).elim⟩
  | cons nodeId rest ih =>
    intro visited holds distinct
    by_cases here : pinned.Pinned nodeId
    · obtain ⟨node, found⟩ := GraphSet.exists_node_iff.mpr here
      have fresh : nodeId ∉ visited.keys := fun old =>
        (List.nodup_append.mp distinct).2.2 nodeId old nodeId List.mem_cons_self rfl
      have keys : (visited.set nodeId node).keys = visited.keys ++ [nodeId] :=
        Dict.keys_set_of_notMem fresh node
      have step : visitAll pinned visited (nodeId :: rest) =
          visitAll pinned (visited.set nodeId node) rest := by
        simp only [visitAll, found]
      rw [step]
      have apart : ((visited.set nodeId node).keys ++ rest).Nodup := by
        rw [keys, List.append_assoc]
        exact distinct
      rcases ih (holds.set found) apart with ⟨visited', done, ⟨listed, holds'⟩, all⟩ |
        ⟨other, member, absent, raised⟩
      · refine Or.inl ⟨visited', done, ⟨?_, holds'⟩, ?_⟩
        · rw [listed, keys, List.append_assoc]
          rfl
        · intro other member
          rcases List.mem_cons.mp member with rfl | later
          · exact here
          · exact all other later
      · exact Or.inr ⟨other, List.mem_cons_of_mem _ member, absent, raised⟩
    · refine Or.inr ⟨nodeId, List.mem_cons_self, here, ?_⟩
      simp only [visitAll, GraphSet.node_error here]

theorem visitRoots_outcome (roots : List Text) : ∀ {visited : Dict Text Node},
    HoldsNodes pinned visited → (visited.keys ++ roots).Nodup →
      LooksUp pinned (roots.take (setting.nodeBudget - visited.size))
        (visitRoots pinned setting visited roots) fun result =>
          result.1.keys = visited.keys ++ roots.take (setting.nodeBudget - visited.size) ∧
            HoldsNodes pinned result.1 ∧
            (result.2.isSome = true ↔ setting.nodeBudget - visited.size < roots.length) := by
  induction roots with
  | nil =>
    intro visited holds _
    refine Or.inl ⟨(visited, none), rfl, ⟨?_, holds, ?_⟩, ?_⟩
    · rw [List.take_nil, List.append_nil]
    · simp
    · rw [List.take_nil]
      exact fun _ member => (List.not_mem_nil member).elim
  | cons nodeId rest ih =>
    intro visited holds distinct
    by_cases spent : visited.size ≥ setting.nodeBudget
    · have none : setting.nodeBudget - visited.size = 0 := by omega
      rw [none, List.take_zero]
      refine Or.inl ⟨(visited, some nodeId), ?_, ⟨(List.append_nil _).symm, holds, ?_⟩, ?_⟩
      · simp only [visitRoots, if_pos spent]
      · simp
      · exact fun _ member => (List.not_mem_nil member).elim
    obtain ⟨left, room⟩ : ∃ left, setting.nodeBudget - visited.size = left + 1 :=
      ⟨setting.nodeBudget - visited.size - 1, by omega⟩
    rw [room, List.take_succ_cons]
    by_cases here : pinned.Pinned nodeId
    · obtain ⟨node, found⟩ := GraphSet.exists_node_iff.mpr here
      have fresh : nodeId ∉ visited.keys := fun old =>
        (List.nodup_append.mp distinct).2.2 nodeId old nodeId List.mem_cons_self rfl
      have keys : (visited.set nodeId node).keys = visited.keys ++ [nodeId] :=
        Dict.keys_set_of_notMem fresh node
      have less : setting.nodeBudget - (visited.set nodeId node).size = left := by
        rw [Dict.size_set_of_notMem fresh]
        omega
      have step : visitRoots pinned setting visited (nodeId :: rest) =
          visitRoots pinned setting (visited.set nodeId node) rest := by
        simp only [visitRoots, if_neg spent, found]
      rw [step]
      have apart : ((visited.set nodeId node).keys ++ rest).Nodup := by
        rw [keys, List.append_assoc]
        exact distinct
      have later := ih (holds.set found) apart
      rw [less] at later
      rcases later with ⟨result, done, ⟨listed, holds', cut⟩, all⟩ | ⟨other, member, absent, raised⟩
      · refine Or.inl ⟨result, done, ⟨?_, holds', ?_⟩, ?_⟩
        · rw [listed, keys, List.append_assoc]
          rfl
        · rw [cut, List.length_cons]
          omega
        · intro other member
          rcases List.mem_cons.mp member with rfl | later
          · exact here
          · exact all other later
      · exact Or.inr ⟨other, List.mem_cons_of_mem _ member, absent, raised⟩
    · refine Or.inr ⟨nodeId, List.mem_cons_self, here, ?_⟩
      simp only [visitRoots, if_neg spent, GraphSet.node_error here]

/-- One level of the walk is one level of the search. -/
theorem SameState.level {state : WalkState} {st : Stage Text Text Bool}
    (same : SameState pinned state st) :
    SameScan pinned (expandLevel pinned setting state)
      ((setting.net pinned).scan setting.limits st.seen ((setting.net pinned).steps st.front)
        ⟨st.known, [], st.cut⟩) := by
  unfold expandLevel
  rw [same.current]
  exact SameScan.nodes same.visited_keys st.front ⟨same.slots, rfl, same.cut⟩

theorem walkLevels_outcome {roots : List Text} (distinct : roots.Nodup) (remaining : ℕ) :
    ∀ {m : ℕ} {state : WalkState} (level : ℕ),
      SameState pinned state (setting.search pinned roots m) →
      (∀ nodeId ∈ (setting.search pinned roots m).seen, pinned.Pinned nodeId) →
      LooksUp pinned (setting.search pinned roots (m + remaining)).seen
        (walkLevels pinned setting state level remaining) fun state' =>
          SameState pinned state' (setting.search pinned roots (m + remaining)) := by
  induction remaining with
  | zero => exact fun level same all => Or.inl ⟨_, rfl, same, all⟩
  | succ remaining ih =>
    intro m state level same all
    by_cases stop : state.current = []
    · have still : setting.search pinned roots (m + (remaining + 1)) =
          setting.search pinned roots m :=
        Net.run_of_front_nil (same.current ▸ stop) _
      rw [still]
      refine Or.inl ⟨state, ?_, same, all⟩
      simp only [walkLevels, if_pos stop]
    have scanned : SameScan pinned (expandLevel pinned setting state) _ := same.level
    have next : setting.search pinned roots (m + 1) =
        (setting.net pinned).level setting.limits (setting.search pinned roots m) := rfl
    have discovered : (setting.search pinned roots (m + 1)).seen =
        state.visited.keys ++ (expandLevel pinned setting state).discovered := by
      rw [next, same.visited_keys, scanned.discovered]
      rfl
    have apart : (state.visited.keys ++ (expandLevel pinned setting state).discovered).Nodup := by
      rw [← discovered]
      exact (Net.searched_run distinct (m + 1)).seen_nodup
    have later : (setting.search pinned roots (m + 1)).seen <+:
        (setting.search pinned roots (m + (remaining + 1))).seen :=
      Net.run_seen_mono (by omega)
    rcases visitAll_outcome (expandLevel pinned setting state).discovered same.visited_nodes apart
      with ⟨visited, done, ⟨keys, holds⟩, found⟩ | ⟨nodeId, member, absent, raised⟩
    · have moved : SameState pinned
          (state.next (expandLevel pinned setting state) visited level)
          (setting.search pinned roots (m + 1)) :=
        ⟨scanned.slots, keys.trans discovered.symm, holds, scanned.discovered, scanned.cut⟩
      have all' : ∀ nodeId ∈ (setting.search pinned roots (m + 1)).seen, pinned.Pinned nodeId := by
        intro nodeId member
        rw [discovered, same.visited_keys] at member
        rcases List.mem_append.mp member with old | new
        · exact all nodeId old
        · exact found nodeId new
      have rest := ih (level + 1) moved all'
      rw [Nat.add_right_comm] at rest
      have step : walkLevels pinned setting state level (remaining + 1) =
          walkLevels pinned setting (state.next (expandLevel pinned setting state) visited level)
            (level + 1) remaining := by
        rw [walkLevels, if_neg stop]
        simp only [done]
      rw [step]
      exact rest
    · refine Or.inr ⟨nodeId, later.subset ?_, absent, ?_⟩
      · rw [discovered]
        exact List.mem_append_right _ member
      · rw [walkLevels, if_neg stop]
        simp only [raised]

/-- Keeping the members of a list that are among its first ones. -/
private theorem filter_take {roots : List Text} (distinct : roots.Nodup) (n : ℕ) (p : Text → Bool)
    (kept : ∀ nodeId, p nodeId = true ↔ nodeId ∈ roots.take n) : roots.filter p = roots.take n := by
  have split : roots.take n ++ roots.drop n = roots := List.take_append_drop n roots
  have apart := (List.nodup_append.mp (split.symm ▸ distinct)).2.2
  rw [← split, List.filter_append, split]
  have first : (roots.take n).filter p = roots.take n :=
    List.filter_eq_self.mpr fun nodeId member => (kept nodeId).mpr member
  have last : (roots.drop n).filter p = [] :=
    List.filter_eq_nil_iff.mpr fun nodeId member passes =>
      apart nodeId ((kept nodeId).mp passes) nodeId member rfl
  rw [first, last, List.append_nil]

/-- The walk before its first level. -/
theorem startWalk_outcome {roots : List Text} (distinct : roots.Nodup) :
    LooksUp pinned (setting.search pinned roots 0).seen (startWalk pinned setting roots) fun state =>
      SameState pinned state (setting.search pinned roots 0) := by
  have none : HoldsNodes pinned Dict.empty := fun _ _ found => by cases found
  have outcome : LooksUp pinned (roots.take setting.nodeBudget)
      (visitRoots pinned setting Dict.empty roots) fun result =>
        result.1.keys = roots.take setting.nodeBudget ∧ HoldsNodes pinned result.1 ∧
          (result.2.isSome = true ↔ setting.nodeBudget < roots.length) :=
    visitRoots_outcome roots none distinct
  rcases outcome with ⟨⟨visited, refused⟩, done, ⟨keys, holds, cut⟩, all⟩ |
    ⟨nodeId, member, absent, raised⟩
  · refine Or.inl ⟨firstState roots visited refused, ?_, ⟨?_, keys, holds, ?_, ?_⟩, all⟩
    · simp only [startWalk, done]
    · refine ⟨?_, ?_, rfl, ?_, ?_⟩
      · exact fun _ => iff_of_false List.not_mem_nil List.not_mem_nil
      · exact fun _ => iff_of_false List.not_mem_nil List.not_mem_nil
      · exact fun _ _ found => by cases found
      · exact fun _ _ found => by cases found
    · refine filter_take distinct setting.nodeBudget _ fun nodeId => ?_
      rw [Dict.has_iff, keys]
    · have short : (setting.search pinned roots 0).cut =
          decide ((roots.take setting.nodeBudget).length < roots.length) := rfl
      rw [short, decide_eq_false_iff_not, List.length_take]
      cases refused with
      | none =>
        have fits : ¬ setting.nodeBudget < roots.length := fun beyond =>
          Bool.false_ne_true (cut.mpr beyond)
        simp [firstState]
        omega
      | some root =>
        have beyond := cut.mp rfl
        simp [firstState]
        omega
  · refine Or.inr ⟨nodeId, member, absent, ?_⟩
    simp only [startWalk, raised]

end Outcome

/-! ### The result -/

/-- What a walk returns, in terms of the search behind it. -/
structure Walked (pinned : GraphSet) (setting : WalkSetting) (roots : List Text) (walk : Walk) :
    Prop where
  walk_roots : walk.roots = roots
  walk_depth : walk.depth = setting.hops
  /-- Every node the search sees is pinned. -/
  seen_pinned : ∀ nodeId ∈ (setting.search pinned roots setting.hops).seen, pinned.Pinned nodeId
  /-- The nodes are those seen, in the order of their ids. -/
  node_ids : walk.nodeIds = sortedBy id (setting.search pinned roots setting.hops).seen
  nodes_pinned : ∀ node ∈ walk.nodes, node ∈ pinned.allNodes
  edges_pinned : ∀ edge ∈ walk.edges, edge ∈ pinned.allEdges ∧ edge.resolved = true
  unresolved_pinned : ∀ edge ∈ walk.unresolved, edge ∈ pinned.allEdges ∧ edge.resolved = false
  /-- The edges stand for the slots counted. -/
  edge_ids : ∀ edgeId, (∃ edge ∈ walk.edges, edge.id = edgeId) ↔
    (edgeId, true) ∈ (setting.search pinned roots setting.hops).known
  unresolved_ids : ∀ edgeId, (∃ edge ∈ walk.unresolved, edge.id = edgeId) ↔
    (edgeId, false) ∈ (setting.search pinned roots setting.hops).known
  count : walk.edges.length + walk.unresolved.length =
    (setting.search pinned roots setting.hops).known.length
  truncated : walk.truncated = (setting.search pinned roots setting.hops).cut

section Result

variable {pinned : GraphSet} {setting : WalkSetting} {roots : List Text}

theorem HoldsNodes.inKeyOrder {visited : Dict Text Node} (holds : HoldsNodes pinned visited) :
    visited.inKeyOrder.map Node.id = sortedBy id visited.keys := by
  have each : ∀ nodeId ∈ sortedBy id visited.keys,
      (visited.get? nodeId).map Node.id = some nodeId := by
    intro nodeId member
    rw [mem_sortedBy, ← Dict.get?_isSome] at member
    obtain ⟨node, found⟩ := Option.isSome_iff_exists.mp member
    rw [found, Option.map_some, GraphSet.node_id (holds nodeId node found)]
  rw [Dict.inKeyOrder, List.map_filterMap]
  calc (sortedBy id visited.keys).filterMap (fun nodeId => (visited.get? nodeId).map Node.id)
      = (sortedBy id visited.keys).filterMap some := List.filterMap_congr each
    _ = sortedBy id visited.keys := List.filterMap_some

/-- The ids of what a dictionary stores under ids. -/
private theorem exists_stored {collected : Dict Text Edge} {tag : Bool}
    (stored : ∀ edgeId edge, collected.get? edgeId = some edge →
      edge ∈ pinned.allEdges ∧ edge.id = edgeId ∧ edge.resolved = tag) (edgeId : Text) :
    (∃ edge ∈ collected.inKeyOrder, edge.id = edgeId) ↔ edgeId ∈ collected.keys := by
  rw [← Dict.get?_isSome, Option.isSome_iff_exists]
  constructor
  · rintro ⟨edge, member, rfl⟩
    obtain ⟨other, found⟩ := Dict.mem_inKeyOrder.mp member
    rw [(stored other edge found).2.1]
    exact ⟨edge, found⟩
  · rintro ⟨edge, found⟩
    exact ⟨edge, Dict.mem_inKeyOrder.mpr ⟨edgeId, found⟩, (stored edgeId edge found).2.1⟩

/-- **The walk returns exactly when every node the search sees is pinned.** -/
theorem walkFrom_outcome (distinct : roots.Nodup) :
    LooksUp pinned (setting.search pinned roots setting.hops).seen (walkFrom pinned setting roots)
      (Walked pinned setting roots) := by
  have mono : (setting.search pinned roots 0).seen <+:
      (setting.search pinned roots setting.hops).seen := Net.run_seen_mono (Nat.zero_le _)
  have begun : LooksUp pinned (setting.search pinned roots 0).seen
      (startWalk pinned setting roots) fun state =>
        SameState pinned state (setting.search pinned roots 0) := startWalk_outcome distinct
  rcases begun with ⟨state, started, same, all⟩ | ⟨nodeId, member, absent, raised⟩
  · have outcome := walkLevels_outcome distinct setting.hops 1 same all
    rw [Nat.zero_add] at outcome
    rcases outcome with ⟨state', done, same', all'⟩ | ⟨nodeId, member, absent, raised⟩
    · refine Or.inl ⟨state'.result setting roots, by simp only [walkFrom, started, done], ?_, all'⟩
      exact {
        walk_roots := rfl
        walk_depth := rfl
        seen_pinned := all'
        node_ids := by
          rw [← same'.visited_keys]
          exact same'.visited_nodes.inKeyOrder
        nodes_pinned := by
          intro node member
          obtain ⟨nodeId, found⟩ := Dict.mem_inKeyOrder.mp member
          exact (GraphSet.node_ok.mp (same'.visited_nodes nodeId node found)).1
        edges_pinned := by
          intro edge member
          obtain ⟨edgeId, found⟩ := Dict.mem_inKeyOrder.mp member
          obtain ⟨inside, _, tag⟩ := same'.slots.walked_stored edgeId edge found
          exact ⟨inside, tag⟩
        unresolved_pinned := by
          intro edge member
          obtain ⟨edgeId, found⟩ := Dict.mem_inKeyOrder.mp member
          obtain ⟨inside, _, tag⟩ := same'.slots.unresolved_stored edgeId edge found
          exact ⟨inside, tag⟩
        edge_ids := by
          intro edgeId
          rw [← same'.slots.walked_keys]
          exact exists_stored same'.slots.walked_stored edgeId
        unresolved_ids := by
          intro edgeId
          rw [← same'.slots.unresolved_keys]
          exact exists_stored same'.slots.unresolved_stored edgeId
        count := by
          rw [← same'.slots.count, WalkState.result]
          rw [Dict.length_inKeyOrder, Dict.length_inKeyOrder]
        truncated := by
          unfold WalkState.result
          have cut := same'.cut
          cases uncut : (setting.search pinned roots setting.hops).cut with
          | false => simp [cut.mpr uncut]
          | true =>
            have reasons : state'.reasons ≠ [] := fun none => by
              rw [cut.mp none] at uncut
              cases uncut
            simpa using reasons }
    · exact Or.inr ⟨nodeId, member, absent, by simp only [walkFrom, started, raised]⟩
  · exact Or.inr ⟨nodeId, mono.subset member, absent, by simp only [walkFrom, raised]⟩

end Result

end AxiomMcp.Query
