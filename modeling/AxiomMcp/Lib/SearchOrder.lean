/-
**What a search under budgets sees, in terms of searches without budgets.**

An unlimited search meets nodes and slots in a fixed order. A search under budgets of `N` nodes and
`M` edges is told by that order:

* `run_nodes` — a node budget keeps the first `N` nodes of the search without it;
* `run_keys` — an edge budget knows the keys of the first `M` slots the unlimited search meets;
* `run_only` — a search under an edge budget sees what an unlimited search over the edges of those keys
  sees.

Together (`run_seen`): **the nodes seen under both budgets are the first `N` nodes of an unlimited
search over the edges whose keys are among the first `M` slots.** Each comparison runs the two searches
side by side until the budget is spent, and from there on one of them stands still.
-/

import AxiomMcp.Lib.Search

namespace AxiomMcp.Lib

variable {V E K C : Type*}

/-- No budgets. -/
def unlimited : Limits := ⟨none, none⟩

namespace Net

variable {net : Net V E K C} {limits : Limits} {roots : List V}

section Unlimited

variable [DecidableEq V] [DecidableEq K] [DecidableEq C]

theorem unlimited_uncut (distinct : roots.Nodup) (n : ℕ) :
    (net.run unlimited roots n).cut = false := by
  cases cut : (net.run unlimited roots n).cut with
  | false => rfl
  | true =>
    rcases (searched_run distinct n).witness cut with ⟨spent, _⟩ | ⟨spent, _⟩
    · cases spent
    · cases spent

/-- An unlimited search sees the ball. -/
theorem mem_unlimited_seen (distinct : roots.Nodup) {n : ℕ} {v : V} :
    v ∈ (net.run unlimited roots n).seen ↔ v ∈ net.Within roots n :=
  (searched_run distinct n).seen_iff (unlimited_uncut distinct n)

/-- An unlimited search meets the inner slots. -/
theorem mem_unlimited_known (distinct : roots.Nodup) {n : ℕ} {slot : K × C} :
    slot ∈ (net.run unlimited roots n).known ↔ slot ∈ net.Inner roots n :=
  (searched_run distinct n).known_iff (unlimited_uncut distinct n)

end Unlimited

/-! ### A node budget -/

section Nodes

variable [DecidableEq V] [DecidableEq K] [DecidableEq C] {N : ℕ} {edges : Option ℕ} {seen : List V}

/-- A scan under a node budget beside the scan without: in step, or full and standing still. -/
def BesideNodes (N : ℕ) (seen : List V) (b x : Scan V K C) : Prop :=
  (b.found = x.found ∧ b.known = x.known ∧ seen.length + b.found.length ≤ N) ∨
    (seen.length + b.found.length = N ∧ b.found <+: x.found)

theorem BesideNodes.one {b x : Scan V K C} (beside : BesideNodes N seen b x) (u : V) (e : E) :
    BesideNodes N seen (net.examine ⟨some N, edges⟩ seen b (u, e))
      (net.examine ⟨none, edges⟩ seen x (u, e)) := by
  rcases beside with ⟨found, known, fits⟩ | ⟨spent, behind⟩
  · have tried := net.examined ⟨some N, edges⟩ seen b u e
    generalize net.examine ⟨some N, edges⟩ seen b (u, e) = t at tried ⊢
    cases tried with
    | skipped fresh spent =>
      rw [known] at fresh spent
      have same : net.examine ⟨none, edges⟩ seen x (u, e) = { x with cut := true } :=
        examine_skipped fresh spent
      rw [same]
      exact Or.inl ⟨found, known, fits⟩
    | old room nothing =>
      rw [Room, known] at room
      rw [found] at nothing
      have same : net.examine ⟨none, edges⟩ seen x (u, e) = x.enter (net.slot e) :=
        examine_old room nothing
      rw [same]
      refine Or.inl ⟨found, ?_, fits⟩
      rw [Scan.enter, Scan.enter, known]
    | blocked room w leads unseen fresh spent =>
      refine Or.inr ⟨le_antisymm fits (full_some.mp spent), ?_⟩
      change b.found <+: _
      rw [found]
      exact (Scanned.one u e).found_initial
    | discovered room w leads unseen fresh space =>
      rw [Room, known] at room
      rw [found] at fresh
      have unbound : net.Room ⟨none, edges⟩ x e := room
      have same : net.examine ⟨none, edges⟩ seen x (u, e) =
          { x.enter (net.slot e) with found := x.found ++ [w] } :=
        examine_discovered unbound leads unseen fresh full_none
      rw [same]
      refine Or.inl ⟨?_, ?_, ?_⟩
      · change b.found ++ [w] = x.found ++ [w]
        rw [found]
      · change (b.enter (net.slot e)).known = (x.enter (net.slot e)).known
        rw [Scan.enter, Scan.enter, known]
      · have below : ¬ N ≤ seen.length + b.found.length := of_decide_eq_false space
        change seen.length + (b.found ++ [w]).length ≤ N
        rw [List.length_append, List.length_singleton]
        omega
  · have same : (net.examine ⟨some N, edges⟩ seen b (u, e)).found = b.found :=
      (Scanned.one u e).nodes_spent (full_some.mpr spent.ge)
    refine Or.inr ⟨?_, ?_⟩
    · rw [same]
      exact spent
    · rw [same]
      exact behind.trans (Scanned.one u e).found_initial

theorem BesideNodes.scan {b x : Scan V K C} (beside : BesideNodes N seen b x)
    (steps : List (V × E)) :
    BesideNodes N seen (net.scan ⟨some N, edges⟩ seen steps b)
      (net.scan ⟨none, edges⟩ seen steps x) := by
  induction steps generalizing b x with
  | nil => exact beside
  | cons step rest ih => exact ih (beside.one step.1 step.2)

/-- The same between levels. -/
def BesideNodesStage (N : ℕ) (b x : Stage V K C) : Prop :=
  (b.seen = x.seen ∧ b.front = x.front ∧ b.known = x.known ∧ b.seen.length ≤ N) ∨
    (b.seen.length = N ∧ b.seen <+: x.seen)

theorem BesideNodesStage.level {b x : Stage V K C} (beside : BesideNodesStage N b x) :
    BesideNodesStage N (net.level ⟨some N, edges⟩ b) (net.level ⟨none, edges⟩ x) := by
  rcases beside with ⟨seen, front, known, fits⟩ | ⟨spent, behind⟩
  · have start : BesideNodes N b.seen (⟨b.known, [], b.cut⟩ : Scan V K C) ⟨b.known, [], x.cut⟩ :=
      Or.inl ⟨rfl, rfl, fits⟩
    have moved : BesideNodes N b.seen
        (net.scan ⟨some N, edges⟩ b.seen (net.steps b.front) ⟨b.known, [], b.cut⟩)
        (net.scan ⟨none, edges⟩ b.seen (net.steps b.front) ⟨b.known, [], x.cut⟩) := start.scan _
    unfold Net.level
    rw [← seen, ← front, ← known]
    dsimp only
    generalize net.scan ⟨some N, edges⟩ b.seen (net.steps b.front) _ = s at moved ⊢
    generalize net.scan ⟨none, edges⟩ b.seen (net.steps b.front) _ = t at moved ⊢
    rcases moved with ⟨found, known', fits'⟩ | ⟨spent, behind⟩
    · refine Or.inl ⟨?_, found, known', ?_⟩
      · dsimp only
        rw [found]
      · rw [List.length_append]
        exact fits'
    · refine Or.inr ⟨?_, ?_⟩
      · rw [List.length_append]
        exact spent
      · exact (List.prefix_append_right_inj _).mpr behind
  · have done := Scanned.scan net ⟨some N, edges⟩ b.seen (net.steps b.front) ⟨b.known, [], b.cut⟩
    have nothing := done.nodes_spent (full_some.mpr spent.ge)
    refine Or.inr ?_
    unfold Net.level
    dsimp only
    rw [nothing, List.append_nil]
    exact ⟨spent, behind.trans (List.prefix_append _ _)⟩

variable (net N edges) in
theorem besideNodes_run (roots : List V) (n : ℕ) :
    BesideNodesStage N (net.run ⟨some N, edges⟩ roots n) (net.run ⟨none, edges⟩ roots n) := by
  induction n with
  | zero =>
    change BesideNodesStage N (start ⟨some N, edges⟩ roots) (start ⟨none, edges⟩ roots)
    by_cases short : roots.length ≤ N
    · have all : admitted ⟨some N, edges⟩ roots = roots := List.take_of_length_le short
      exact Or.inl ⟨all, all, rfl, by rw [start, all]; exact short⟩
    · refine Or.inr ⟨?_, List.take_prefix N roots⟩
      change (roots.take N).length = N
      rw [List.length_take]
      omega
  | succ n ih => exact ih.level

/-- A node budget keeps the first nodes of the search without it. -/
theorem run_nodes (roots : List V) (n : ℕ) :
    (net.run ⟨some N, edges⟩ roots n).seen = (net.run ⟨none, edges⟩ roots n).seen.take N := by
  rcases besideNodes_run net N edges roots n with
    ⟨seen, _, _, fits⟩ | ⟨spent, behind⟩
  · rw [← seen, List.take_of_length_le fits]
  · rw [List.prefix_iff_eq_take.mp behind, spent]

end Nodes

/-! ### An edge budget -/

section Edges

variable {M : ℕ} {seen : List V}

/-- The keys of a list of slots. -/
def keys (known : List (K × C)) : List K := known.map Prod.fst

theorem mem_keys {known : List (K × C)} {slot : K × C} (member : slot ∈ known) :
    slot.1 ∈ keys known := List.mem_map_of_mem member

theorem keys_mono {known later : List (K × C)} (le : known ⊆ later) : keys known ⊆ keys later :=
  List.map_subset _ le

/-- Cutting a longer list where the shorter one was cut. -/
theorem take_of_initial {known later : List (K × C)} (before : known <+: later)
    (spent : M ≤ known.length) : later.take M = known.take M := by
  obtain ⟨rest, rfl⟩ := before
  exact List.take_append_of_le_length spent

/-- A search under an edge budget beside the unlimited one: in step, with no key outside the first `M`
slots, or spent, knowing the keys of the first `M` slots of the other. -/
inductive BesideEdges (M : ℕ) (x q : Stage V K C) : Prop
  | step (seen : x.seen = q.seen) (front : x.front = q.front) (known : x.known = q.known)
      (inside : keys x.known ⊆ keys (x.known.take M))
  | spent (mine : M ≤ x.known.length) (theirs : M ≤ q.known.length)
      (same : ∀ key, key ∈ keys x.known ↔ key ∈ keys (q.known.take M))

/-- The same inside a level. -/
inductive BesideEdgesScan (M : ℕ) (x q : Scan V K C) : Prop
  | step (found : x.found = q.found) (known : x.known = q.known)
      (inside : keys x.known ⊆ keys (x.known.take M))
  | spent (mine : M ≤ x.known.length) (theirs : M ≤ q.known.length)
      (same : ∀ key, key ∈ keys x.known ↔ key ∈ keys (q.known.take M))

variable [DecidableEq K] [DecidableEq C]

/-- Where a key is known or there is room, counting its slot stays inside. -/
theorem keys_enter {s : Scan V K C} {e : E} (room : net.Room ⟨none, some M⟩ s e)
    (inside : keys s.known ⊆ keys (s.known.take M)) :
    keys (s.enter (net.slot e)).known ⊆ keys ((s.enter (net.slot e)).known.take M) := by
  by_cases counted : net.slot e ∈ s.known
  · rw [Scan.enter, if_pos counted]
    exact inside
  · rw [Scan.enter, if_neg counted]
    dsimp only
    by_cases below : (s.known ++ [net.slot e]).length ≤ M
    · rw [List.take_of_length_le below]
      exact List.Subset.refl _
    · rw [List.length_append, List.length_singleton] at below
      have spent : M ≤ s.known.length := by omega
      rw [List.take_append_of_le_length spent]
      intro key member
      obtain ⟨slot, here, rfl⟩ := List.mem_map.mp member
      rcases List.mem_append.mp here with old | new
      · exact inside (mem_keys old)
      · obtain rfl := List.mem_singleton.mp new
        rcases room with known | space
        · exact inside known
        · exact (Bool.false_ne_true (space.symm.trans (full_some.mpr spent))).elim

variable [DecidableEq V]

theorem BesideEdgesScan.one {x q : Scan V K C} (beside : BesideEdgesScan M x q) (u : V) (e : E) :
    BesideEdgesScan M (net.examine ⟨none, some M⟩ seen x (u, e))
      (net.examine unlimited seen q (u, e)) := by
  have theirs : net.Scanned unlimited seen [(u, e)] q (net.examine unlimited seen q (u, e)) :=
    Scanned.one u e
  cases beside with
  | step found known inside =>
    have tried := net.examined ⟨none, some M⟩ seen x u e
    generalize net.examine ⟨none, some M⟩ seen x (u, e) = t at tried ⊢
    cases tried with
    | skipped fresh spent =>
      have enough : M ≤ q.known.length := known ▸ full_some.mp spent
      refine .spent (full_some.mp spent) (enough.trans theirs.known_initial.length_le) fun key => ?_
      rw [take_of_initial theirs.known_initial enough, ← known]
      exact ⟨fun member => inside member, fun member => keys_mono (List.take_subset _ _) member⟩
    | old room nothing =>
      have free : net.Room unlimited q e := Or.inr rfl
      rw [found] at nothing
      rw [examine_old free nothing]
      refine .step found ?_ (keys_enter room inside)
      rw [Scan.enter, Scan.enter, known]
    | blocked room w leads unseen fresh spent => cases spent
    | discovered room w leads unseen fresh space =>
      have free : net.Room unlimited q e := Or.inr rfl
      rw [found] at fresh
      rw [examine_discovered free leads unseen fresh rfl]
      refine .step ?_ ?_ (keys_enter room inside)
      · dsimp only
        rw [found]
      · change (x.enter (net.slot e)).known = (q.enter (net.slot e)).known
        rw [Scan.enter, Scan.enter, known]
  | spent mine enough same =>
    have ours : net.Scanned ⟨none, some M⟩ seen [(u, e)] x
        (net.examine ⟨none, some M⟩ seen x (u, e)) := Scanned.one u e
    refine .spent (mine.trans ours.known_initial.length_le)
      (enough.trans theirs.known_initial.length_le) fun key => ?_
    rw [take_of_initial theirs.known_initial enough, ← same]
    constructor
    · intro member
      obtain ⟨slot, here, rfl⟩ := List.mem_map.mp member
      exact ours.edges_spent (full_some.mpr mine) slot here
    · exact fun member => keys_mono ours.known_initial.subset member

theorem BesideEdgesScan.scan {x q : Scan V K C} (beside : BesideEdgesScan M x q)
    (steps : List (V × E)) :
    BesideEdgesScan M (net.scan ⟨none, some M⟩ seen steps x) (net.scan unlimited seen steps q) := by
  induction steps generalizing x q with
  | nil => exact beside
  | cons step rest ih => exact ih (beside.one step.1 step.2)

theorem BesideEdges.level {x q : Stage V K C} (beside : BesideEdges M x q) :
    BesideEdges M (net.level ⟨none, some M⟩ x) (net.level unlimited q) := by
  cases beside with
  | step seen front known inside =>
    have start : BesideEdgesScan M (⟨x.known, [], x.cut⟩ : Scan V K C) ⟨x.known, [], q.cut⟩ :=
      .step rfl rfl inside
    have moved : BesideEdgesScan M
        (net.scan ⟨none, some M⟩ x.seen (net.steps x.front) ⟨x.known, [], x.cut⟩)
        (net.scan unlimited x.seen (net.steps x.front) ⟨x.known, [], q.cut⟩) := start.scan _
    unfold Net.level
    rw [← seen, ← front, ← known]
    dsimp only
    generalize net.scan ⟨none, some M⟩ x.seen (net.steps x.front) _ = s at moved ⊢
    generalize net.scan unlimited x.seen (net.steps x.front) _ = t at moved ⊢
    cases moved with
    | step found known' inside' =>
      refine .step ?_ found known' inside'
      dsimp only
      rw [found]
    | spent mine theirs same => exact .spent mine theirs same
  | spent mine enough same =>
    have ours := Scanned.scan net ⟨none, some M⟩ x.seen (net.steps x.front) ⟨x.known, [], x.cut⟩
    have theirs := Scanned.scan net unlimited q.seen (net.steps q.front) ⟨q.known, [], q.cut⟩
    refine .spent (mine.trans ours.known_initial.length_le)
      (enough.trans theirs.known_initial.length_le) fun key => ?_
    have kept : (net.level unlimited q).known.take M = q.known.take M :=
      take_of_initial theirs.known_initial enough
    rw [kept, ← same]
    constructor
    · intro member
      obtain ⟨slot, here, rfl⟩ := List.mem_map.mp member
      exact ours.edges_spent (full_some.mpr mine) slot here
    · exact fun member => keys_mono ours.known_initial.subset member

variable (net M) in
/-- An edge budget knows the keys of the first slots the unlimited search meets. -/
theorem run_keys (roots : List V) (n : ℕ) (key : K) :
    key ∈ keys (net.run ⟨none, some M⟩ roots n).known ↔
      key ∈ keys ((net.run unlimited roots n).known.take M) := by
  have beside : BesideEdges M (net.run ⟨none, some M⟩ roots n) (net.run unlimited roots n) := by
    induction n with
    | zero => exact .step rfl rfl rfl (fun _ member => (List.not_mem_nil member).elim)
    | succ n ih => exact ih.level
  cases beside with
  | step seen front known inside =>
    rw [← known]
    exact ⟨fun member => inside member, fun member => keys_mono (List.take_subset _ _) member⟩
  | spent mine theirs same => exact same key

end Edges

/-! ### Only some keys -/

section Only

variable {M : ℕ}

/-- What a search under an edge budget of `M` may still come to know. -/
structure Later (M : ℕ) (known final : List (K × C)) : Prop where
  grows : known <+: final
  /-- A spent budget admits no key. -/
  spent : M ≤ known.length → keys final ⊆ keys known

theorem Later.refl (known : List (K × C)) : Later M known known :=
  ⟨List.prefix_rfl, fun _ _ member => member⟩

theorem Later.trans {known later final : List (K × C)} (first : Later M known later)
    (second : Later M later final) : Later M known final :=
  ⟨first.grows.trans second.grows, fun spent =>
    List.Subset.trans (second.spent (spent.trans first.grows.length_le)) (first.spent spent)⟩

theorem Scanned.later {seen : List V} {steps : List (V × E)} {s t : Scan V K C}
    (done : net.Scanned ⟨none, some M⟩ seen steps s t) : Later M s.known t.known := by
  refine ⟨done.known_initial, fun spent key member => ?_⟩
  obtain ⟨slot, here, rfl⟩ := List.mem_map.mp member
  exact done.edges_spent (full_some.mpr spent) slot here

variable [DecidableEq K]

/-- The net of the edges with some keys only. -/
def only (net : Net V E K C) (kept : List K) : Net V E K C :=
  { net with incident := fun u => (net.incident u).filter fun e => decide (net.key e ∈ kept) }

theorem only_congr {kept kept' : List K} (same : ∀ key, key ∈ kept ↔ key ∈ kept') :
    net.only kept = net.only kept' := by
  unfold only
  simp only [same]

theorem steps_only (kept : List K) (front : List V) :
    (net.only kept).steps front =
      (net.steps front).filter fun step => decide (net.key step.2 ∈ kept) := by
  induction front with
  | nil => rfl
  | cons u rest ih =>
    have here : (((net.only kept).incident u).map fun e => (u, e)) =
        ((net.incident u).map fun e => (u, e)).filter
          fun step => decide (net.key step.2 ∈ kept) := by
      rw [List.filter_map]
      rfl
    unfold steps at ih ⊢
    rw [List.flatMap_cons, List.flatMap_cons, List.filter_append, ih, here]

theorem only_hop {kept : List K} {u v : V} (hop : (net.only kept).Hop u v) : net.Hop u v := by
  obtain ⟨e, member, leads⟩ := hop
  exact ⟨e, (List.mem_filter.mp member).1, leads⟩

/-- The edges of the inner keys reach the same ball. -/
theorem only_within {kept : List K} {n : ℕ}
    (inner : ∀ slot ∈ net.Inner roots n, slot.1 ∈ kept) :
    (net.only kept).Within roots n = net.Within roots n := by
  apply Set.Subset.antisymm
  · rintro v ⟨root, member, k, bound, chain⟩
    exact ⟨root, member, k, bound, chain.mono fun _ _ => only_hop⟩
  · have levels : ∀ m ≤ n, net.Within roots m ⊆ (net.only kept).Within roots m := by
      intro m
      induction m with
      | zero =>
        intro _
        rw [Within, Within, ball_zero, ball_zero]
      | succ m ih =>
        intro le v inside
        have before := ih (Nat.le_of_succ_le le)
        rcases mem_ball_succ.mp inside with old | ⟨u, within, e, member, leads⟩
        · exact within_mono (Nat.le_succ m) (before old)
        · have key : net.key e ∈ kept :=
            inner _ (inner_mono le (mem_inner_succ within member))
          exact ball_step (before within)
            ⟨e, List.mem_filter.mpr ⟨member, decide_eq_true key⟩, leads⟩
    exact levels n le_rfl

variable [DecidableEq V] [DecidableEq C]

/-- A scan under an edge budget finds what an unlimited scan of the edges it comes to know finds. -/
theorem scan_only {seen : List V} {final : List (K × C)} (steps : List (V × E)) :
    ∀ {x p : Scan V K C}, x.found = p.found →
      Later M (net.scan ⟨none, some M⟩ seen steps x).known final →
      (net.scan ⟨none, some M⟩ seen steps x).found =
        ((net.only (keys final)).scan unlimited seen
          (steps.filter fun step => decide (net.key step.2 ∈ keys final)) p).found := by
  induction steps with
  | nil => exact fun same _ => same
  | cons step rest ih =>
    intro x p same later
    obtain ⟨u, e⟩ := step
    have one : net.Scanned ⟨none, some M⟩ seen [(u, e)] x
        (net.examine ⟨none, some M⟩ seen x (u, e)) := Scanned.one u e
    have between : Later M (net.examine ⟨none, some M⟩ seen x (u, e)).known final :=
      (Scanned.scan net ⟨none, some M⟩ seen rest _).later.trans later
    have tried := net.examined ⟨none, some M⟩ seen x u e
    change (net.scan ⟨none, some M⟩ seen rest (net.examine ⟨none, some M⟩ seen x (u, e))).found = _
    change Later M (net.scan ⟨none, some M⟩ seen rest
      (net.examine ⟨none, some M⟩ seen x (u, e))).known final at later
    generalize net.examine ⟨none, some M⟩ seen x (u, e) = t at one between tried later ⊢
    -- an edge that was counted is one the filter keeps
    have keeps : net.slot e ∈ t.known → ((u, e) :: rest).filter
        (fun step => decide (net.key step.2 ∈ keys final)) = (u, e) :: rest.filter
          fun step => decide (net.key step.2 ∈ keys final) := fun counted =>
      List.filter_cons_of_pos (decide_eq_true (mem_keys (between.grows.subset counted)))
    cases tried with
    | skipped fresh spent =>
      have dropped : net.key e ∉ keys final := fun member =>
        fresh (between.spent (full_some.mp spent) member)
      rw [List.filter_cons_of_neg (by simpa using dropped)]
      exact ih same later
    | old room nothing =>
      rw [keeps (Scan.mem_enter.mpr (Or.inr rfl))]
      refine ih ?_ later
      have free : (net.only (keys final)).Room unlimited p e := Or.inr rfl
      rw [same] at nothing
      rw [examine_old free nothing]
      exact same
    | blocked room w leads unseen fresh spent => cases spent
    | discovered room w leads unseen fresh space =>
      rw [keeps (Scan.mem_enter.mpr (Or.inr rfl))]
      refine ih ?_ later
      have free : (net.only (keys final)).Room unlimited p e := Or.inr rfl
      rw [same] at fresh
      rw [examine_discovered free leads unseen fresh rfl]
      dsimp only
      rw [same]

theorem later_level (st : Stage V K C) :
    Later M st.known (net.level ⟨none, some M⟩ st).known :=
  (Scanned.scan net ⟨none, some M⟩ st.seen (net.steps st.front) ⟨st.known, [], st.cut⟩).later

variable (net M) in
theorem later_run (roots : List V) {m n : ℕ} (le : m ≤ n) :
    Later M (net.run ⟨none, some M⟩ roots m).known (net.run ⟨none, some M⟩ roots n).known := by
  induction le with
  | refl => exact Later.refl _
  | step _ ih => exact ih.trans (later_level _)

theorem level_only {final : List (K × C)} {x p : Stage V K C} (seen : x.seen = p.seen)
    (front : x.front = p.front) (later : Later M (net.level ⟨none, some M⟩ x).known final) :
    (net.level ⟨none, some M⟩ x).seen = ((net.only (keys final)).level unlimited p).seen ∧
      (net.level ⟨none, some M⟩ x).front = ((net.only (keys final)).level unlimited p).front := by
  have found : (net.level ⟨none, some M⟩ x).front =
      ((net.only (keys final)).level unlimited p).front := by
    have start : (⟨x.known, [], x.cut⟩ : Scan V K C).found =
        (⟨p.known, [], p.cut⟩ : Scan V K C).found := rfl
    have scanned := scan_only (net.steps x.front) start later
    unfold Net.level
    dsimp only
    rw [scanned, steps_only, ← seen, ← front]
  refine ⟨?_, found⟩
  change x.seen ++ (net.level ⟨none, some M⟩ x).front =
    p.seen ++ ((net.only (keys final)).level unlimited p).front
  rw [found, seen]

/-- A search under an edge budget sees what an unlimited search over the edges it comes to know
sees. -/
theorem run_only (roots : List V) (n : ℕ) :
    (net.run ⟨none, some M⟩ roots n).seen =
      ((net.only (keys (net.run ⟨none, some M⟩ roots n).known)).run unlimited roots n).seen := by
  have levels : ∀ m ≤ n,
      (net.run ⟨none, some M⟩ roots m).seen =
        ((net.only (keys (net.run ⟨none, some M⟩ roots n).known)).run unlimited roots m).seen ∧
      (net.run ⟨none, some M⟩ roots m).front =
        ((net.only (keys (net.run ⟨none, some M⟩ roots n).known)).run unlimited roots m).front := by
    intro m
    induction m with
    | zero => exact fun _ => ⟨rfl, rfl⟩
    | succ m ih =>
      intro le
      obtain ⟨seen, front⟩ := ih (Nat.le_of_succ_le le)
      exact level_only seen front (later_run net M roots le)
  exact (levels n le_rfl).1

/-- **What is seen under both budgets.** -/
theorem run_seen (net : Net V E K C) (N M : ℕ) (roots : List V) (n : ℕ) :
    (net.run ⟨some N, some M⟩ roots n).seen =
      ((net.only (keys ((net.run unlimited roots n).known.take M))).run unlimited roots n).seen.take
        N := by
  rw [run_nodes, run_only, only_congr (run_keys net M roots n)]

end Only

/-! ### When the budgets suffice -/

section Fits

variable {N M n : ℕ}

private theorem length_eq_of_mem_iff {α : Type*} {l m : List α} (left : l.Nodup) (right : m.Nodup)
    (same : ∀ a, a ∈ l ↔ a ∈ m) : l.length = m.length :=
  ((List.perm_ext_iff_of_nodup left right).mpr same).length_eq

private theorem length_lt_of_missing {α : Type*} {l m : List α} (distinct : l.Nodup) {a : α}
    (inside : l ⊆ m) (member : a ∈ m) (missing : a ∉ l) : l.length < m.length := by
  have longer : (a :: l).Nodup := List.nodup_cons.mpr ⟨missing, distinct⟩
  have sub : a :: l ⊆ m := List.cons_subset.mpr ⟨member, inside⟩
  exact longer.length_le_of_subset sub

variable [DecidableEq V] [DecidableEq K] [DecidableEq C]

/-- An uncut search sees as many nodes as the unlimited one. -/
theorem seen_length_of_uncut (distinct : roots.Nodup)
    (uncut : (net.run limits roots n).cut = false) :
    (net.run limits roots n).seen.length = (net.run unlimited roots n).seen.length :=
  length_eq_of_mem_iff (searched_run distinct n).seen_nodup (searched_run distinct n).seen_nodup
    fun v => by rw [(searched_run distinct n).seen_iff uncut, mem_unlimited_seen distinct]

/-- A search is uncut exactly when what the unlimited search meets fits the budgets, where a key has
one tag. -/
theorem cut_eq_false_iff (distinct : roots.Nodup)
    (single : ∀ a ∈ net.Inner roots n, ∀ b ∈ net.Inner roots n, a.1 = b.1 → a = b) :
    (net.run ⟨some N, some M⟩ roots n).cut = false ↔
      (net.run unlimited roots n).seen.length ≤ N ∧
        (net.run unlimited roots n).known.length ≤ M := by
  have here : net.Searched ⟨some N, some M⟩ roots n _ := searched_run distinct n
  constructor
  · intro uncut
    have nodes := seen_length_of_uncut distinct uncut
    have edges : (net.run ⟨some N, some M⟩ roots n).known.length =
        (net.run unlimited roots n).known.length :=
      length_eq_of_mem_iff here.known_nodup (searched_run distinct n).known_nodup fun slot => by
        rw [here.known_iff uncut, mem_unlimited_known distinct]
    rw [← nodes, ← edges]
    exact ⟨here.nodes_fit N rfl, here.edges_fit M rfl fun a left b right =>
      single a (here.known_inner a left) b (here.known_inner b right)⟩
  · rintro ⟨nodes, edges⟩
    by_contra cut
    rw [Bool.not_eq_false] at cut
    rcases here.witness cut with ⟨spent, w, within, unseen⟩ | ⟨spent, slot, inner, missed⟩
    · have less := length_lt_of_missing here.seen_nodup
        (fun v member => (mem_unlimited_seen distinct).mpr (here.seen_within v member))
        ((mem_unlimited_seen distinct).mpr within) unseen
      exact absurd (less.trans_le nodes) (not_lt.mpr (full_some.mp spent))
    · have less := length_lt_of_missing here.known_nodup
        (fun other member => (mem_unlimited_known distinct).mpr (here.known_inner other member))
        ((mem_unlimited_known distinct).mpr inner) fun member => missed (mem_keys member)
      exact absurd (less.trans_le edges) (not_lt.mpr (full_some.mp spent))

theorem run_known_mono {m n : ℕ} (le : m ≤ n) :
    (net.run limits roots m).known <+: (net.run limits roots n).known := by
  induction le with
  | refl => exact List.prefix_rfl
  | @step m _ ih =>
    have done := Scanned.scan net limits (net.run limits roots m).seen
      (net.steps (net.run limits roots m).front)
      ⟨(net.run limits roots m).known, [], (net.run limits roots m).cut⟩
    exact ih.trans done.known_initial

/-- **When one more level shows more.** After an uncut search, the next level discovers something
exactly when there is room for a node and one of the first `M` slots the unlimited search meets is that
of an edge leading out of the ball. -/
theorem grows_iff (distinct : roots.Nodup)
    (edges : (net.run unlimited roots n).known.length ≤ M) :
    (net.run unlimited roots n).seen.length <
        (net.run ⟨some N, some M⟩ roots (n + 1)).seen.length ↔
      (net.run unlimited roots n).seen.length < N ∧
        ∃ u ∈ net.Within roots n, ∃ e ∈ net.incident u,
          net.key e ∈ keys ((net.run unlimited roots (n + 1)).known.take M) ∧
          ∃ w, net.far u e = some w ∧ w ∉ net.Within roots n := by
  have before : (net.run unlimited roots n).known <+:
      (net.run unlimited roots (n + 1)).known.take M := by
    rw [List.prefix_take_iff]
    exact ⟨run_known_mono (Nat.le_succ n), edges⟩
  rw [run_seen]
  generalize first : keys ((net.run unlimited roots (n + 1)).known.take M) = kept
  have inner : ∀ slot ∈ net.Inner roots n, slot.1 ∈ kept := by
    intro slot inside
    rw [← first]
    exact mem_keys (before.subset ((mem_unlimited_known distinct).mpr inside))
  have same : (net.only kept).Within roots n = net.Within roots n := only_within inner
  have seen : ((net.only kept).run unlimited roots n).seen.length =
      (net.run unlimited roots n).seen.length :=
    length_eq_of_mem_iff (searched_run distinct n).seen_nodup (searched_run distinct n).seen_nodup
      fun v => by rw [mem_unlimited_seen distinct, mem_unlimited_seen distinct, same]
  have sub : ((net.only kept).run unlimited roots n).seen <+:
      ((net.only kept).run unlimited roots (n + 1)).seen := run_seen_mono (Nat.le_succ n)
  rw [List.length_take, Nat.lt_min, ← seen]
  refine and_congr_right fun _ => ?_
  constructor
  · intro longer
    by_contra none
    push Not at none
    have closed : ((net.only kept).run unlimited roots (n + 1)).seen ⊆
        ((net.only kept).run unlimited roots n).seen := by
      intro v member
      rw [mem_unlimited_seen distinct] at member ⊢
      rcases mem_ball_succ.mp member with old | ⟨u, within, e, kept', leads⟩
      · exact old
      · obtain ⟨member, key⟩ := List.mem_filter.mp kept'
        change u ∈ (net.only kept).Within roots n at within
        rw [same] at within ⊢
        exact none u within e member (of_decide_eq_true key) v leads
    have short := (searched_run distinct (n + 1)).seen_nodup.length_le_of_subset closed
    exact absurd longer (not_lt.mpr short)
  · rintro ⟨u, within, e, member, key, w, leads, outside⟩
    rw [← same] at within outside
    have next : w ∈ (net.only kept).Within roots (n + 1) :=
      ball_step within ⟨e, List.mem_filter.mpr ⟨member, decide_eq_true key⟩, leads⟩
    exact length_lt_of_missing (searched_run distinct n).seen_nodup sub.subset
      ((mem_unlimited_seen distinct).mpr next)
      fun old => outside ((mem_unlimited_seen distinct).mp old)

end Fits

end Net

end AxiomMcp.Lib
