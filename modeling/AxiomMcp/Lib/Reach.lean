/-
**Chains of steps, balls around a set of roots, and the frontier of a level-by-level search.**

Over any relation `Step` on any type:

* `Chain Step n u v`: `v` is `n` steps away from `u`; `Ball Step roots n`: what lies within `n` steps
  of some root; `Dist Step u v n`: the shortest chain from `u` to `v` has `n` steps, so a ball around
  one node is what has a distance from it (`mem_ball_and_ne_iff`).
* `Frontier Step roots n seen front`: what a level-by-level search knows after `n` levels. It has
  seen exactly the ball of radius `n`, and every node seen outside `front` has all its successors
  seen. Initially `front` is the roots (`Frontier.init`); one level moves it by one step
  (`Frontier.step`); **an empty front means that everything reachable was seen**
  (`Frontier.stop`).
-/

import Mathlib.Data.Set.Basic
import Mathlib.Logic.Relation
import Mathlib.Data.Nat.Find
import Mathlib.Order.Basic
import Mathlib.Tactic.Common

namespace AxiomMcp.Lib

variable {V : Type*}

/-- A chain of exactly `n` steps. -/
inductive Chain (Step : V → V → Prop) : ℕ → V → V → Prop
  | nil (u : V) : Chain Step 0 u u
  | snoc {n : ℕ} {u v w : V} : Chain Step n u v → Step v w → Chain Step (n + 1) u w

/-- What lies within `n` steps of a root. -/
def Ball (Step : V → V → Prop) (roots : Set V) (n : ℕ) : Set V :=
  {v | ∃ r ∈ roots, ∃ k ≤ n, Chain Step k r v}

/-- The distance from `u` to `v` is `n`. -/
def Dist (Step : V → V → Prop) (u v : V) (n : ℕ) : Prop :=
  Chain Step n u v ∧ ∀ k < n, ¬ Chain Step k u v

variable {Step : V → V → Prop} {roots : Set V}

/-! ### Chains -/

namespace Chain

theorem cons {n : ℕ} {u v w : V} (first : Step u v) (rest : Chain Step n v w) :
    Chain Step (n + 1) u w := by
  induction rest with
  | nil => exact .snoc (.nil u) first
  | snoc _ last ih => exact .snoc (ih first) last

theorem zero_eq {u v : V} (chain : Chain Step 0 u v) : u = v := by
  cases chain
  rfl

theorem mono {Step' : V → V → Prop} (weaker : ∀ u v, Step u v → Step' u v) {n : ℕ} {u v : V}
    (chain : Chain Step n u v) : Chain Step' n u v := by
  induction chain with
  | nil => exact .nil _
  | snoc _ last ih => exact .snoc ih (weaker _ _ last)

/-- A set closed under steps keeps every chain that starts in it. -/
theorem mem_of_closed {S : Set V} (closed : ∀ u ∈ S, ∀ v, Step u v → v ∈ S) {n : ℕ} {u v : V}
    (chain : Chain Step n u v) (start : u ∈ S) : v ∈ S := by
  induction chain with
  | nil => exact start
  | snoc _ last ih => exact closed _ (ih start) _ last

end Chain

/-! ### Balls -/

theorem ball_mono {m n : ℕ} (le : m ≤ n) : Ball Step roots m ⊆ Ball Step roots n := by
  rintro v ⟨r, root, k, bound, chain⟩
  exact ⟨r, root, k, bound.trans le, chain⟩

theorem ball_zero : Ball Step roots 0 = roots := by
  ext v
  constructor
  · rintro ⟨r, root, k, bound, chain⟩
    obtain rfl : k = 0 := Nat.le_zero.mp bound
    exact chain.zero_eq ▸ root
  · intro root
    exact ⟨v, root, 0, le_rfl, .nil v⟩

theorem roots_subset_ball (n : ℕ) : roots ⊆ Ball Step roots n := by
  intro r root
  exact ⟨r, root, 0, Nat.zero_le n, .nil r⟩

theorem ball_step {n : ℕ} {u v : V} (inside : u ∈ Ball Step roots n) (step : Step u v) :
    v ∈ Ball Step roots (n + 1) := by
  obtain ⟨r, root, k, bound, chain⟩ := inside
  exact ⟨r, root, k + 1, Nat.succ_le_succ bound, .snoc chain step⟩

/-- The next ball is this one and its successors. -/
theorem mem_ball_succ {n : ℕ} {v : V} :
    v ∈ Ball Step roots (n + 1) ↔
      v ∈ Ball Step roots n ∨ ∃ u ∈ Ball Step roots n, Step u v := by
  constructor
  · rintro ⟨r, root, k, bound, chain⟩
    cases chain with
    | nil => exact Or.inl ⟨_, root, 0, Nat.zero_le n, .nil _⟩
    | snoc before last =>
      exact Or.inr ⟨_, ⟨r, root, _, Nat.le_of_succ_le_succ bound, before⟩, last⟩
  · rintro (inside | ⟨u, inside, step⟩)
    · exact ball_mono (Nat.le_succ n) inside
    · exact ball_step inside step

/-- A set that holds the roots and is closed under steps holds every ball. -/
theorem ball_subset_of_closed {S : Set V} (start : roots ⊆ S)
    (closed : ∀ u ∈ S, ∀ v, Step u v → v ∈ S) (n : ℕ) : Ball Step roots n ⊆ S := by
  rintro v ⟨r, root, k, _, chain⟩
  exact chain.mem_of_closed closed (start root)

/-- A ball that equals the next one holds everything reachable. -/
theorem mem_ball_of_chain {n : ℕ} (full : Ball Step roots (n + 1) ⊆ Ball Step roots n) {k : ℕ}
    {r v : V} (root : r ∈ roots) (chain : Chain Step k r v) : v ∈ Ball Step roots n :=
  chain.mem_of_closed (fun _ inside _ step => full (ball_step inside step))
    (roots_subset_ball n root)

theorem mem_ball_singleton {u v : V} {n : ℕ} :
    v ∈ Ball Step {u} n ↔ ∃ k ≤ n, Chain Step k u v := by
  constructor
  · rintro ⟨r, rfl, witness⟩
    exact witness
  · rintro witness
    exact ⟨u, rfl, witness⟩

/-! ### Distance -/

/-- A shortest chain is no longer than a given one. -/
theorem Chain.dist {n : ℕ} {u v : V} (chain : Chain Step n u v) : ∃ k ≤ n, Dist Step u v k := by
  classical
  have some : ∃ k, Chain Step k u v := ⟨n, chain⟩
  exact ⟨Nat.find some, Nat.find_min' some chain, Nat.find_spec some,
    fun k less shorter => Nat.find_min some less shorter⟩

theorem dist_zero_iff {u v : V} : Dist Step u v 0 ↔ u = v := by
  constructor
  · exact fun dist => dist.1.zero_eq
  · rintro rfl
    exact ⟨.nil u, fun k less => (Nat.not_lt_zero k less).elim⟩

/-- What lies in a ball around one node, and is not that node, has a distance from it. -/
theorem mem_ball_and_ne_iff {u v : V} {n : ℕ} :
    v ∈ Ball Step {u} n ∧ v ≠ u ↔ ∃ k, 1 ≤ k ∧ k ≤ n ∧ Dist Step u v k := by
  rw [mem_ball_singleton]
  constructor
  · rintro ⟨⟨m, bound, chain⟩, apart⟩
    obtain ⟨k, shorter, dist⟩ := chain.dist
    refine ⟨k, Nat.one_le_iff_ne_zero.mpr ?_, shorter.trans bound, dist⟩
    rintro rfl
    exact apart (dist_zero_iff.mp dist).symm
  · rintro ⟨k, positive, bound, dist⟩
    refine ⟨⟨k, bound, dist.1⟩, ?_⟩
    rintro rfl
    exact dist.2 0 positive (.nil _)

/-! ### The frontier of a search -/

/-- What a level-by-level search knows after `n` levels. -/
structure Frontier (Step : V → V → Prop) (roots : Set V) (n : ℕ) (seen front : Set V) : Prop where
  /-- Exactly the ball of radius `n` was seen. -/
  exact_ball : seen = Ball Step roots n
  /-- The front was seen. -/
  front_seen : front ⊆ seen
  /-- Behind the front every successor was seen. -/
  closed : ∀ u ∈ seen, u ∉ front → ∀ v, Step u v → v ∈ seen

namespace Frontier

variable {n : ℕ} {seen front : Set V}

theorem init : Frontier Step roots 0 roots roots where
  exact_ball := ball_zero.symm
  front_seen := subset_rfl
  closed := fun _ inside outside => (outside inside).elim

/-- One level: the new front is what the old one steps to and nobody has seen. -/
theorem step (here : Frontier Step roots n seen front) {next : Set V}
    (found : ∀ v, v ∈ next ↔ v ∉ seen ∧ ∃ u ∈ front, Step u v) :
    Frontier Step roots (n + 1) (seen ∪ next) next where
  exact_ball := by
    ext v
    rw [mem_ball_succ, ← here.exact_ball]
    constructor
    · rintro (old | new)
      · exact Or.inl old
      · obtain ⟨_, u, inFront, edge⟩ := (found v).mp new
        exact Or.inr ⟨u, here.front_seen inFront, edge⟩
    · rintro (old | ⟨u, inSeen, edge⟩)
      · exact Or.inl old
      · by_cases old : v ∈ seen
        · exact Or.inl old
        · by_cases inFront : u ∈ front
          · exact Or.inr ((found v).mpr ⟨old, u, inFront, edge⟩)
          · exact Or.inl (here.closed u inSeen inFront v edge)
  front_seen := Set.subset_union_right
  closed := by
    intro u inside outside v edge
    rcases inside with old | new
    · by_cases inFront : u ∈ front
      · by_cases known : v ∈ seen
        · exact Or.inl known
        · exact Or.inr ((found v).mpr ⟨known, u, inFront, edge⟩)
      · exact Or.inl (here.closed u old inFront v edge)
    · exact (outside new).elim

/-- An empty front: the search has seen every ball. -/
theorem stop (here : Frontier Step roots n seen ∅) {m : ℕ} (le : n ≤ m) :
    seen = Ball Step roots m := by
  apply Set.Subset.antisymm
  · rw [here.exact_ball]
    exact ball_mono le
  · refine ball_subset_of_closed ?_ (fun u inside v step =>
      here.closed u inside (Set.notMem_empty u) v step) m
    rw [here.exact_ball]
    exact roots_subset_ball n

end Frontier

end AxiomMcp.Lib
