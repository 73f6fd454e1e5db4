/-
**Lines with their ends.**

`splitAfter ends l` cuts `l` after each member that `ends` a line; what is left over is the last line.

* `flatten_splitAfter`: the lines make up the whole, in order;
* `splitAfter_line`, `splitAfter_rest`: the first line that is ended, and a rest that is not.
-/

import Mathlib.Data.List.Basic

namespace AxiomMcp.Lib

variable {α : Type*}

/-- `l` cut after each member that ends a line. -/
def splitAfter (ends : α → Bool) : List α → List (List α)
  | [] => []
  | a :: rest =>
    if ends a then [a] :: splitAfter ends rest
    else
      match splitAfter ends rest with
      | [] => [[a]]
      | line :: lines => (a :: line) :: lines

variable {ends : α → Bool} {l rest : List α} {a : α}

/-- Nothing is lost, doubled or moved. -/
theorem flatten_splitAfter (l : List α) : (splitAfter ends l).flatten = l := by
  induction l with
  | nil => rfl
  | cons a rest ih =>
    unfold splitAfter
    split
    · rw [List.flatten_cons, ih]
      rfl
    · split
      · next none =>
        rw [none] at ih
        rw [← ih]
        rfl
      · next line lines some =>
        rw [some] at ih
        rw [← ih]
        rfl

/-- A line up to its end. -/
theorem splitAfter_line (unended : ∀ b ∈ l, ends b = false) (last : ends a = true) :
    splitAfter ends (l ++ a :: rest) = (l ++ [a]) :: splitAfter ends rest := by
  induction l with
  | nil => exact if_pos last
  | cons b l ih =>
    have goesOn : ends b = false := unended b List.mem_cons_self
    rw [List.cons_append, splitAfter, goesOn, ih fun c member => unended c (List.mem_cons_of_mem _ member)]
    rfl

/-- A rest that is not ended. -/
theorem splitAfter_rest (unended : ∀ b ∈ l, ends b = false) (some : l ≠ []) : splitAfter ends l = [l] := by
  induction l with
  | nil => exact absurd rfl some
  | cons b l ih =>
    have goesOn : ends b = false := unended b List.mem_cons_self
    rw [splitAfter, goesOn]
    by_cases last : l = []
    · rw [last]
      rfl
    · rw [ih (fun c member => unended c (List.mem_cons_of_mem _ member)) last]
      rfl

end AxiomMcp.Lib
