/-
**Binary search for the longest prefix that passes.**

`bisect test` narrows an interval by asking a fallible test at its middle. Where the test never fails and
what it accepts is closed downwards, it finds the greatest accepted number, or 0 (`bisect_eq`).
-/

import Mathlib.Data.Nat.Find

namespace AxiomMcp.Lib

variable {ε : Type}

/-- The search between `low` and `high`; each round halves what is left, so that `high - low` rounds are
enough. -/
def bisect (test : ℕ → Except ε Bool) : ℕ → ℕ → ℕ → Except ε ℕ
  | 0, low, _ => .ok low
  | rounds + 1, low, high =>
    if low < high then
      let middle := (low + high + 1) / 2
      match test middle with
      | .error raised => .error raised
      | .ok true => bisect test rounds middle high
      | .ok false => bisect test rounds low (middle - 1)
    else .ok low

section Exact

variable {test : ℕ → Except ε Bool} {P : ℕ → Prop} [DecidablePred P] {top : ℕ}

/-- The search keeps the greatest accepted number in its interval. -/
theorem bisect_interval (decides : ∀ n ≤ top, test n = .ok (decide (P n)))
    (closed : ∀ m n, m ≤ n → n ≤ top → P n → P m) (rounds : ℕ) :
    ∀ low high, high - low ≤ rounds → low ≤ high → high ≤ top → (low ≠ 0 → P low) →
      (∀ n, high < n → n ≤ top → ¬ P n) → bisect test rounds low high = .ok (Nat.findGreatest P top) := by
  have found : ∀ {low : ℕ}, low ≤ top → (low ≠ 0 → P low) → (∀ n, low < n → n ≤ top → ¬ P n) →
      Nat.findGreatest P top = low := fun inside holds none =>
    Nat.findGreatest_eq_iff.mpr ⟨inside, holds, none⟩
  induction rounds with
  | zero =>
    intro low high short order inside holds none
    have one : low = high := by omega
    rw [bisect, found (one ▸ inside) holds (one ▸ none)]
  | succ rounds ih =>
    intro low high short order inside holds none
    rw [bisect]
    by_cases open' : low < high
    · rw [if_pos open']
      dsimp only
      rw [decides _ (by omega)]
      by_cases passes : P ((low + high + 1) / 2)
      · rw [decide_eq_true passes]
        exact ih _ _ (by omega) (by omega) inside (fun _ => passes) none
      · rw [decide_eq_false passes]
        refine ih _ _ (by omega) (by omega) (by omega) holds fun n above below accepted => ?_
        exact passes (closed _ n (by omega) below accepted)
    · have one : low = high := by omega
      rw [if_neg open', found (one ▸ inside) holds (one ▸ none)]

theorem bisect_eq (decides : ∀ n ≤ top, test n = .ok (decide (P n)))
    (closed : ∀ m n, m ≤ n → n ≤ top → P n → P m) :
    bisect test top 0 top = .ok (Nat.findGreatest P top) :=
  bisect_interval decides closed top 0 top (by omega) (Nat.zero_le top) le_rfl
    (fun none => (none rfl).elim) fun n above below => absurd below (not_le.mpr above)

end Exact

end AxiomMcp.Lib
