/-
**Two searches, one of them over part of the edges.**

An edge budget lets some steps of a search pass (`passed`), and everything a search knows follows from the
steps that passed: the slots counted (`tally`) and the nodes discovered (`discover`).

* `run_known` — the slots after `n` levels are those of the steps that passed among all steps from the nodes
  expanded so far;
* `run_part` — a search over all edges sees what the search over part of them sees, as soon as the steps that
  passed and lead somewhere are the same for both;
* `passed_part` — and where no key is met twice, **only then**: if both end up with the same slots that lead
  somewhere, the same steps passed.
-/

import AxiomMcp.Lib.Search

namespace AxiomMcp.Lib

variable {V E K C : Type*}

namespace Net

/-! ### Steps that pass an edge budget -/

section Steps

variable [DecidableEq K] [DecidableEq C] (slot : E → K × C) (far : V → E → Option V) (limit : Option ℕ)

/-- Count a slot once. -/
def counted (known : List (K × C)) (one : K × C) : List (K × C) :=
  if one ∈ known then known else known ++ [one]

/-- The steps that an edge budget lets pass, where some slots are counted already. -/
def passed : List (K × C) → List (V × E) → List (V × E)
  | _, [] => []
  | known, step :: rest =>
    if (slot step.2).1 ∉ known.map Prod.fst ∧ full limit known.length = true then passed known rest
    else step :: passed (counted known (slot step.2)) rest

/-- The slots counted along some steps. -/
def tally (known : List (K × C)) (steps : List (V × E)) : List (K × C) :=
  steps.foldl (fun known step => counted known (slot step.2)) known

/-- A step discovers the node it leads to, if that is new and the node budget has room for it. -/
def discover [DecidableEq V] (seen found : List V) (step : V × E) : List V :=
  match far step.1 step.2 with
  | none => found
  | some w =>
    if w ∈ seen ∨ w ∈ found then found
    else if full limit (seen.length + found.length) = true then found
    else found ++ [w]

/-- The steps that lead somewhere. -/
def leading (steps : List (V × E)) : List (V × E) :=
  steps.filter fun step => (far step.1 step.2).isSome

variable {slot far limit} {known : List (K × C)} {step : V × E}

theorem mem_counted {one other : K × C} : other ∈ counted known one ↔ other ∈ known ∨ other = one := by
  unfold counted
  by_cases old : one ∈ known
  · rw [if_pos old]
    constructor
    · exact Or.inl
    · rintro (before | rfl)
      · exact before
      · exact old
  · rw [if_neg old, List.mem_append, List.mem_singleton]

theorem mem_tally {steps : List (V × E)} {other : K × C} : ∀ {known : List (K × C)},
    other ∈ tally slot known steps ↔ other ∈ known ∨ ∃ step ∈ steps, slot step.2 = other := by
  induction steps with
  | nil => simp [tally]
  | cons step rest ih =>
    intro known
    change other ∈ tally slot (counted known (slot step.2)) rest ↔ _
    rw [ih, mem_counted, List.exists_mem_cons_iff, or_assoc, eq_comm]

theorem tally_append (known : List (K × C)) (first second : List (V × E)) :
    tally slot known (first ++ second) = tally slot (tally slot known first) second :=
  List.foldl_append

theorem passed_sublist (steps : List (V × E)) : ∀ known : List (K × C),
    (passed slot limit known steps).Sublist steps := by
  induction steps with
  | nil => exact fun _ => List.Sublist.refl _
  | cons step rest ih =>
    intro known
    rw [passed]
    split
    · exact (ih known).cons step
    · exact (ih _).cons_cons step

theorem passed_append (first second : List (V × E)) : ∀ known : List (K × C),
    passed slot limit known (first ++ second) = passed slot limit known first ++
      passed slot limit (tally slot known (passed slot limit known first)) second := by
  induction first with
  | nil => exact fun _ => rfl
  | cons step rest ih =>
    intro known
    rw [List.cons_append, passed, passed]
    split
    · exact ih known
    · rw [ih, List.cons_append]
      rfl

theorem leading_append (first second : List (V × E)) :
    leading far (first ++ second) = leading far first ++ leading far second := List.filter_append ..

variable [DecidableEq V]

/-- Only the steps that lead somewhere discover anything. -/
theorem foldl_discover (seen : List V) (steps : List (V × E)) : ∀ found : List V,
    steps.foldl (discover far limit seen) found = (leading far steps).foldl (discover far limit seen) found := by
  induction steps with
  | nil => exact fun _ => rfl
  | cons step rest ih =>
    intro found
    unfold leading
    cases leads : far step.1 step.2 with
    | none =>
      have still : discover far limit seen found step = found := by
        unfold discover
        rw [leads]
      rw [List.filter_cons_of_neg (by rw [leads]; exact Bool.false_ne_true), List.foldl_cons, still]
      exact ih found
    | some w =>
      rw [List.filter_cons_of_pos (by rw [leads]; rfl), List.foldl_cons, List.foldl_cons]
      exact ih _

end Steps

/-! ### A search in terms of the steps that passed -/

section Search

variable {net : Net V E K C} {limits : Limits} {roots : List V}

theorem steps_append (first second : List V) :
    net.steps (first ++ second) = net.steps first ++ net.steps second := List.flatMap_append

variable [DecidableEq V] [DecidableEq K] [DecidableEq C]

variable (net limits) in
/-- A step that is not refused counts its slot and may discover a node. -/
theorem examine_room (seen : List V) {s : Scan V K C} {step : V × E}
    (room : ¬ (net.key step.2 ∉ s.known.map Prod.fst ∧ full limits.edges s.known.length = true)) :
    (net.examine limits seen s step).known = counted s.known (net.slot step.2) ∧
      (net.examine limits seen s step).found = discover net.far limits.nodes seen s.found step := by
  unfold examine discover
  rw [if_neg room]
  cases net.far step.1 step.2 with
  | none => exact ⟨rfl, rfl⟩
  | some w =>
    dsimp only
    by_cases old : w ∈ seen ∨ w ∈ s.found
    · rw [if_pos old, if_pos old]
      exact ⟨rfl, rfl⟩
    · rw [if_neg old, if_neg old]
      by_cases spent : full limits.nodes (seen.length + s.found.length) = true
      · rw [if_pos spent, if_pos spent]
        exact ⟨rfl, rfl⟩
      · rw [if_neg spent, if_neg spent]
        exact ⟨rfl, rfl⟩

variable (net limits) in
theorem scan_passed (seen : List V) (steps : List (V × E)) : ∀ s : Scan V K C,
    (net.scan limits seen steps s).known =
        tally net.slot s.known (passed net.slot limits.edges s.known steps) ∧
      (net.scan limits seen steps s).found =
        (passed net.slot limits.edges s.known steps).foldl (discover net.far limits.nodes seen) s.found := by
  induction steps with
  | nil => exact fun _ => ⟨rfl, rfl⟩
  | cons step rest ih =>
    intro s
    change (net.scan limits seen rest (net.examine limits seen s step)).known = _ ∧
      (net.scan limits seen rest (net.examine limits seen s step)).found = _
    rw [passed]
    by_cases refused : net.key step.2 ∉ s.known.map Prod.fst ∧ full limits.edges s.known.length = true
    · have still : net.examine limits seen s step = { s with cut := true } := if_pos refused
      rw [if_pos (show (net.slot step.2).1 ∉ s.known.map Prod.fst ∧ _ from refused), still]
      exact ih _
    · obtain ⟨known, found⟩ := examine_room net limits seen refused
      obtain ⟨known', found'⟩ := ih (net.examine limits seen s step)
      rw [if_neg (show ¬ ((net.slot step.2).1 ∉ s.known.map Prod.fst ∧ _) from refused), known', found',
        known, found]
      exact ⟨rfl, rfl⟩

variable (net limits roots) in
/-- The nodes expanded in the first levels, in the order they are. -/
def expanded : ℕ → List V
  | 0 => []
  | n + 1 => (net.run limits roots n).seen

theorem run_seen_eq (n : ℕ) :
    (net.run limits roots n).seen = net.expanded limits roots n ++ (net.run limits roots n).front := by
  cases n with
  | zero => rfl
  | succ n => rfl

theorem expanded_succ (n : ℕ) :
    net.expanded limits roots (n + 1) =
      net.expanded limits roots n ++ (net.run limits roots n).front := run_seen_eq n

variable (net limits roots) in
theorem expanded_mono {m n : ℕ} (le : m ≤ n) :
    net.expanded limits roots m <+: net.expanded limits roots n := by
  cases m with
  | zero => exact List.nil_prefix
  | succ m =>
    obtain ⟨k, rfl⟩ : ∃ k, n = k + 1 := ⟨n - 1, by omega⟩
    exact run_seen_mono (by omega)

variable (net limits) in
theorem expanded_nodup (distinct : roots.Nodup) (n : ℕ) : (net.expanded limits roots n).Nodup := by
  cases n with
  | zero => exact List.nodup_nil
  | succ n => exact (searched_run distinct n).seen_nodup

/-- The slots after some levels. -/
theorem run_known (n : ℕ) : (net.run limits roots n).known =
    tally net.slot [] (passed net.slot limits.edges [] (net.steps (net.expanded limits roots n))) := by
  induction n with
  | zero => rfl
  | succ n ih =>
    have level := (scan_passed net limits (net.run limits roots n).seen
      (net.steps (net.run limits roots n).front) ⟨(net.run limits roots n).known, [],
        (net.run limits roots n).cut⟩).1
    change (net.scan limits (net.run limits roots n).seen (net.steps (net.run limits roots n).front) _).known
      = _
    rw [level, expanded_succ, steps_append, passed_append, tally_append, ← ih]

/-- The nodes discovered in a level, by the steps that lead somewhere. -/
theorem run_front (n : ℕ) : (net.run limits roots (n + 1)).front =
    (leading net.far (passed net.slot limits.edges (net.run limits roots n).known
      (net.steps (net.run limits roots n).front))).foldl
        (discover net.far limits.nodes (net.run limits roots n).seen) [] := by
  have level := (scan_passed net limits (net.run limits roots n).seen
    (net.steps (net.run limits roots n).front) ⟨(net.run limits roots n).known, [],
      (net.run limits roots n).cut⟩).2
  change (net.scan limits (net.run limits roots n).seen (net.steps (net.run limits roots n).front) _).found
    = _
  rw [level, foldl_discover]

/-- Of the steps that passed, those from the nodes in the middle are the ones that passed there. -/
theorem passed_middle {slot : E → K × C} {limit : Option ℕ} {before middle after : List V}
    (distinct : (before ++ middle ++ after).Nodup) :
    (passed slot limit [] (net.steps (before ++ middle ++ after))).filter (fun step => decide (step.1 ∈ middle)) =
      passed slot limit (tally slot [] (passed slot limit [] (net.steps before))) (net.steps middle) := by
  obtain ⟨front, _, apart⟩ := List.nodup_append.mp distinct
  obtain ⟨_, _, apart'⟩ := List.nodup_append.mp front
  have inside : ∀ {nodes : List V} {known : List (K × C)} {step : V × E},
      step ∈ passed slot limit known (net.steps nodes) → step.1 ∈ nodes := fun member =>
    (mem_steps.mp ((passed_sublist _ _).subset member)).1
  rw [steps_append, steps_append, passed_append, passed_append, List.filter_append, List.filter_append]
  have first : (passed slot limit [] (net.steps before)).filter (fun step => decide (step.1 ∈ middle)) = [] :=
    List.filter_eq_nil_iff.mpr fun step member here =>
      apart' step.1 (inside member) step.1 (of_decide_eq_true here) rfl
  have last : ∀ known, (passed slot limit known (net.steps after)).filter
      (fun step => decide (step.1 ∈ middle)) = [] := fun known =>
    List.filter_eq_nil_iff.mpr fun step member here =>
      apart step.1 (List.mem_append_right _ (of_decide_eq_true here)) step.1 (inside member) rfl
  rw [first, last, List.nil_append, List.append_nil]
  exact List.filter_eq_self.mpr fun step member => decide_eq_true (inside member)

/-- The same of the steps that lead somewhere. -/
theorem leading_middle {slot : E → K × C} {limit : Option ℕ} {far : V → E → Option V}
    {before middle after : List V} (distinct : (before ++ middle ++ after).Nodup) :
    (leading far (passed slot limit [] (net.steps (before ++ middle ++ after)))).filter
        (fun step => decide (step.1 ∈ middle)) =
      leading far (passed slot limit (tally slot [] (passed slot limit [] (net.steps before)))
        (net.steps middle)) := by
  unfold leading
  rw [List.filter_comm, passed_middle distinct]

end Search

/-! ### Part of the edges -/

section Part

variable (net : Net V E K C) (p : E → Bool)

/-- The net of the edges that a test accepts. -/
def part : Net V E K C := { net with incident := fun v => (net.incident v).filter p }

theorem steps_part (nodes : List V) :
    (net.part p).steps nodes = (net.steps nodes).filter fun step => p step.2 := by
  induction nodes with
  | nil => rfl
  | cons u rest ih =>
    rw [steps_cons, steps_cons, List.filter_append, ih, List.filter_map]
    rfl

variable {net p} {limits : Limits} {roots : List V}

/-- No key is met twice. -/
structure Single (net : Net V E K C) : Prop where
  incident_nodup : ∀ u, (net.incident u).Nodup
  key_unique : ∀ u, ∀ e ∈ net.incident u, ∀ u', ∀ e' ∈ net.incident u', net.key e = net.key e' →
    u = u' ∧ e = e'

theorem Single.part (single : net.Single) : (net.part p).Single where
  incident_nodup u := (single.incident_nodup u).filter _
  key_unique u e member u' e' member' same :=
    single.key_unique u e (List.mem_filter.mp member).1 u' e' (List.mem_filter.mp member').1 same

theorem Single.steps_nodup (single : net.Single) {nodes : List V} (distinct : nodes.Nodup) :
    (net.steps nodes).Nodup := by
  induction nodes with
  | nil => exact List.nodup_nil
  | cons u rest ih =>
    obtain ⟨fresh, distinct⟩ := List.nodup_cons.mp distinct
    rw [steps_cons, List.nodup_append]
    refine ⟨(single.incident_nodup u).map fun e e' same => (Prod.mk.inj same).2, ih distinct, ?_⟩
    rintro _ left step right rfl
    obtain ⟨e, _, rfl⟩ := List.mem_map.mp left
    exact fresh (mem_steps.mp right).1

variable [DecidableEq V] [DecidableEq K] [DecidableEq C]

variable (net p limits roots) in
/-- The steps that pass and lead somewhere, from the nodes that the search over part of the edges expands,
are the same for both searches. -/
def SamePassed (n : ℕ) : Prop :=
  leading net.far (passed net.slot limits.edges [] (net.steps ((net.part p).expanded limits roots n))) =
    leading net.far (passed net.slot limits.edges []
      ((net.part p).steps ((net.part p).expanded limits roots n)))

/-- The two searches expanded the same nodes and stand at the same ones. -/
def InStep (net : Net V E K C) (p : E → Bool) (limits : Limits) (roots : List V) (m : ℕ) : Prop :=
  net.expanded limits roots m = (net.part p).expanded limits roots m ∧
    (net.run limits roots m).front = ((net.part p).run limits roots m).front

theorem InStep.seen {m : ℕ} (same : InStep net p limits roots m) :
    (net.run limits roots m).seen = ((net.part p).run limits roots m).seen := by
  rw [run_seen_eq, run_seen_eq, same.1, same.2]

/-- In step, one level keeps in step where the same steps lead on. -/
theorem InStep.level {m : ℕ} (same : InStep net p limits roots m)
    (lead : leading net.far (passed net.slot limits.edges (net.run limits roots m).known
        (net.steps (net.run limits roots m).front)) =
      leading net.far (passed net.slot limits.edges ((net.part p).run limits roots m).known
        ((net.part p).steps ((net.part p).run limits roots m).front))) :
    InStep net p limits roots (m + 1) := by
  refine ⟨same.seen, ?_⟩
  rw [run_front, run_front, lead, same.seen]
  rfl

/-- Where the same steps pass, both searches see the same nodes. -/
theorem run_part (distinct : roots.Nodup) {n : ℕ} (same : SamePassed net p limits roots n) :
    ∀ m ≤ n, InStep net p limits roots m := by
  intro m
  induction m with
  | zero => exact fun _ => ⟨rfl, rfl⟩
  | succ m ih =>
    intro le
    have here := ih (Nat.le_of_succ_le le)
    obtain ⟨rest, split⟩ := expanded_mono (net.part p) limits roots le
    rw [expanded_succ] at split
    have apart := split ▸ expanded_nodup (net.part p) limits distinct n
    unfold SamePassed at same
    rw [← split] at same
    have middle := congrArg (List.filter fun step => decide (step.1 ∈ ((net.part p).run limits roots m).front))
      same
    rw [leading_middle apart, leading_middle apart] at middle
    refine here.level ?_
    rw [run_known, run_known, here.1, here.2]
    exact middle

/-- With no key met twice, a step from a front passes exactly if its slot is known in the end. -/
theorem Single.mem_passed (single : net.Single) (distinct : roots.Nodup) {m n : ℕ} (before : m < n)
    {step : V × E} (member : step ∈ net.steps (net.run limits roots m).front) :
    step ∈ passed net.slot limits.edges (net.run limits roots m).known
        (net.steps (net.run limits roots m).front) ↔
      net.slot step.2 ∈ (net.run limits roots n).known := by
  obtain ⟨rest, split⟩ := expanded_mono net limits roots
    (Nat.succ_le_of_lt before)
  rw [expanded_succ] at split
  have apart := split ▸ expanded_nodup net limits distinct n
  rw [run_known, run_known, ← split, mem_tally, ← passed_middle apart, List.mem_filter]
  constructor
  · rintro ⟨here, _⟩
    exact Or.inr ⟨step, here, rfl⟩
  · rintro (none | ⟨other, here, equal⟩)
    · exact absurd none List.not_mem_nil
    · have inside := mem_steps.mp ((passed_sublist _ _).subset here)
      have own := mem_steps.mp member
      obtain ⟨nodes, edges⟩ := single.key_unique _ _ inside.2 _ _ own.2 (congrArg Prod.fst equal)
      rw [← show other = step from Prod.ext nodes edges]
      exact ⟨here, decide_eq_true (nodes ▸ own.1)⟩

/-- A part of a list in which nothing occurs twice is told by its members. -/
theorem sublist_eq_filter {α : Type*} {l m : List α} (distinct : m.Nodup) (inside : l.Sublist m)
    {q : α → Bool} (members : ∀ a ∈ m, a ∈ l ↔ q a = true) : l = m.filter q := by
  induction inside with
  | slnil => rfl
  | @cons l m a inside ih =>
    obtain ⟨fresh, distinct⟩ := List.nodup_cons.mp distinct
    have out : ¬ q a = true := fun yes =>
      fresh (inside.subset ((members a List.mem_cons_self).mpr yes))
    rw [List.filter_cons_of_neg out]
    exact ih distinct fun b member => members b (List.mem_cons_of_mem _ member)
  | @cons_cons l m a inside ih =>
    obtain ⟨fresh, distinct⟩ := List.nodup_cons.mp distinct
    have yes : q a = true := (members a List.mem_cons_self).mp List.mem_cons_self
    rw [List.filter_cons_of_pos yes]
    refine congrArg (a :: ·) (ih distinct fun b member => ?_)
    rw [← members b (List.mem_cons_of_mem _ member), List.mem_cons]
    constructor
    · exact Or.inr
    · rintro (rfl | later)
      · exact absurd member fresh
      · exact later

/-- **Where no key is met twice and both searches end up with the same slots that lead somewhere, the same
steps passed.** -/
theorem passed_part (single : net.Single) (distinct : roots.Nodup) {n : ℕ}
    (alike : ∀ u, ∀ e ∈ net.incident u, (net.far u e).isSome = true →
      (net.slot e ∈ (net.run limits roots n).known ↔ net.slot e ∈ ((net.part p).run limits roots n).known)) :
    ∀ m ≤ n, InStep net p limits roots m ∧ SamePassed net p limits roots m := by
  intro m
  induction m with
  | zero => exact fun _ => ⟨⟨rfl, rfl⟩, rfl⟩
  | succ m ih =>
    intro le
    obtain ⟨here, same⟩ := ih (Nat.le_of_succ_le le)
    -- the steps of this level that pass and lead somewhere, by the slots known in the end
    have told : ∀ (other : Net V E K C), other.Single →
        ∀ step ∈ other.steps (other.run limits roots m).front,
        step ∈ leading net.far (passed other.slot limits.edges (other.run limits roots m).known
            (other.steps (other.run limits roots m).front)) ↔
          (net.far step.1 step.2).isSome = true ∧
            other.slot step.2 ∈ (other.run limits roots n).known := by
      intro other single step member
      rw [leading, List.mem_filter, single.mem_passed distinct le member, and_comm]
    have all : leading net.far (passed net.slot limits.edges (net.run limits roots m).known
        (net.steps (net.run limits roots m).front)) =
        (net.steps (net.run limits roots m).front).filter fun step =>
          (net.far step.1 step.2).isSome && decide (net.slot step.2 ∈ (net.run limits roots n).known) := by
      refine sublist_eq_filter (single.steps_nodup ?_)
        (List.filter_sublist.trans (passed_sublist _ _)) fun step member => ?_
      · have seen : (net.run limits roots m).seen.Nodup := (searched_run distinct m).seen_nodup
        rw [run_seen_eq] at seen
        exact (List.nodup_append.mp seen).2.1
      · have known := told net single step member
        rw [Bool.and_eq_true, decide_eq_true_iff]
        exact known
    have some : leading net.far (passed net.slot limits.edges ((net.part p).run limits roots m).known
        ((net.part p).steps ((net.part p).run limits roots m).front)) =
        ((net.part p).steps ((net.part p).run limits roots m).front).filter fun step =>
          (net.far step.1 step.2).isSome &&
            decide (net.slot step.2 ∈ ((net.part p).run limits roots n).known) := by
      refine sublist_eq_filter (single.part.steps_nodup ?_)
        (List.filter_sublist.trans (passed_sublist _ _)) fun step member => ?_
      · have seen : ((net.part p).run limits roots m).seen.Nodup := (searched_run distinct m).seen_nodup
        rw [run_seen_eq] at seen
        exact (List.nodup_append.mp seen).2.1
      · have known := told (net.part p) single.part step member
        rw [Bool.and_eq_true, decide_eq_true_iff]
        exact known
    have lead : leading net.far (passed net.slot limits.edges (net.run limits roots m).known
        (net.steps (net.run limits roots m).front)) =
      leading net.far (passed net.slot limits.edges ((net.part p).run limits roots m).known
        ((net.part p).steps ((net.part p).run limits roots m).front)) := by
      rw [all, some, here.2, steps_part, List.filter_filter]
      refine List.filter_congr fun step member => ?_
      have own := mem_steps.mp member
      cases leads : (net.far step.1 step.2).isSome with
      | false => rfl
      | true =>
        have agree := alike step.1 step.2 own.2 leads
        rw [Bool.true_and]
        by_cases known : net.slot step.2 ∈ ((net.part p).run limits roots n).known
        · have known' := known
          rw [run_known, mem_tally] at known'
          rcases known' with none | ⟨other, passes, equal⟩
          · exact absurd none List.not_mem_nil
          · have inside := mem_steps.mp ((passed_sublist _ _).subset passes)
            obtain ⟨within, accepted⟩ := List.mem_filter.mp inside.2
            obtain ⟨_, edges⟩ := single.key_unique _ _ within _ _ own.2 (congrArg Prod.fst equal)
            rw [decide_eq_true (agree.mpr known), decide_eq_true known, ← edges, accepted]
            rfl
        · rw [decide_eq_false (mt agree.mp known), decide_eq_false known]
          rfl
    refine ⟨here.level lead, ?_⟩
    unfold SamePassed at same ⊢
    rw [expanded_succ, steps_append, steps_append, passed_append, passed_append, leading_append,
      leading_append, same]
    rw [run_known, run_known, here.1, here.2] at lead
    exact congrArg (_ ++ ·) lead

end Part

end Net

end AxiomMcp.Lib
