/-
**The best members of a list under a key.**

A member is best when no member has a smaller key (`Best`), and the list is tied when two of its members
are (`Tied`).

* `exists_best`: a list with a member has a best one;
* `Tied.of_best`: a best member of a longer list that a shorter one holds makes its best members those of the
  longer list;
* `tied_iff`, `tied_take_iff`: in a list in key order, a tie shows behind the first member, and in every cut
  of at least two members.
-/

import AxiomMcp.Lib.Sorted

namespace AxiomMcp.Lib

variable {α β κ ι : Type*} [LinearOrder κ] [LinearOrder ι] {key : α → κ} {l m : List α} {a b : α}

/-- A member with the least key. -/
def Best (key : α → κ) (l : List α) (a : α) : Prop := a ∈ l ∧ ∀ b ∈ l, key a ≤ key b

/-- Two members share the least key. -/
def Tied (key : α → κ) (l : List α) : Prop := ∃ a b, a ≠ b ∧ Best key l a ∧ Best key l b

theorem Best.key_eq (left : Best key l a) (right : Best key l b) : key a = key b :=
  le_antisymm (left.2 b right.1) (right.2 a left.1)

/-- Of an untied list the best member is one. -/
theorem Best.eq_of_not_tied (left : Best key l a) (right : Best key l b) (single : ¬ Tied key l) : a = b := by
  by_contra different
  exact single ⟨a, b, different, left, right⟩

theorem exists_best (key : α → κ) (nonempty : l ≠ []) : ∃ a, Best key l a := by
  cases order : sortedBy key l with
  | nil =>
    have length := length_sortedBy key l
    rw [order] at length
    exact (nonempty (List.length_eq_zero_iff.mp length.symm)).elim
  | cons first rest =>
    have sorted := sortedBy_pairwise key l
    rw [order] at sorted
    refine ⟨first, (mem_sortedBy key l).mp (order ▸ List.mem_cons_self), fun b member => ?_⟩
    have inside : b ∈ first :: rest := order ▸ (mem_sortedBy key l).mpr member
    rcases List.mem_cons.mp inside with rfl | later
    · exact le_rfl
    · exact (List.pairwise_cons.mp sorted).1 b later

/-- When the shorter list holds a best member of the longer one, its best members are best there. -/
theorem Best.lift (best : Best key l a) (subset : l ⊆ m) (top : Best key m b) (inside : b ∈ l) :
    Best key m a :=
  ⟨subset best.1, fun c member => (best.2 b inside).trans (top.2 c member)⟩

theorem Tied.lift (tied : Tied key l) (subset : l ⊆ m) (top : Best key m b) (inside : b ∈ l) : Tied key m := by
  obtain ⟨a, c, different, left, right⟩ := tied
  exact ⟨a, c, different, left.lift subset top inside, right.lift subset top inside⟩

/-- Ties depend on the members only. -/
theorem tied_congr (same : ∀ a, a ∈ l ↔ a ∈ m) : Tied key l ↔ Tied key m := by
  unfold Tied Best
  simp only [same]

/-- Ties of an image, under a key that orders it alike. -/
theorem tied_map {f : α → β} {key' : β → ι} (injective : ∀ a ∈ l, ∀ b ∈ l, f a = f b → a = b)
    (alike : ∀ a ∈ l, ∀ b ∈ l, key' (f a) ≤ key' (f b) ↔ key a ≤ key b) :
    Tied key' (l.map f) ↔ Tied key l := by
  have best {a : α} (inside : a ∈ l) : Best key' (l.map f) (f a) ↔ Best key l a := by
    constructor
    · rintro ⟨_, least⟩
      exact ⟨inside, fun b member => (alike a inside b member).mp (least _ (List.mem_map_of_mem member))⟩
    · rintro ⟨_, least⟩
      refine ⟨List.mem_map_of_mem inside, fun image member => ?_⟩
      obtain ⟨b, here, rfl⟩ := List.mem_map.mp member
      exact (alike a inside b here).mpr (least b here)
  constructor
  · rintro ⟨left, right, different, bestLeft, bestRight⟩
    obtain ⟨a, inside, rfl⟩ := List.mem_map.mp bestLeft.1
    obtain ⟨b, there, rfl⟩ := List.mem_map.mp bestRight.1
    exact ⟨a, b, fun same => different (same ▸ rfl), (best inside).mp bestLeft, (best there).mp bestRight⟩
  · rintro ⟨a, b, different, bestA, bestB⟩
    exact ⟨f a, f b, fun same => different (injective a bestA.1 b bestB.1 same), (best bestA.1).mpr bestA,
      (best bestB.1).mpr bestB⟩

/-! ### Lists in key order -/

section Ordered

variable {first : α} {rest : List α}

/-- The first member of an ordered list is best. -/
theorem best_first (ordered : (first :: rest).Pairwise fun a b => key a ≤ key b) :
    Best key (first :: rest) first := by
  refine ⟨List.mem_cons_self, fun b member => ?_⟩
  rcases List.mem_cons.mp member with rfl | later
  · exact le_rfl
  · exact (List.pairwise_cons.mp ordered).1 b later

/-- An ordered list is tied when its first key comes again. -/
theorem tied_iff (ordered : (first :: rest).Pairwise fun a b => key a ≤ key b)
    (distinct : (first :: rest).Nodup) :
    Tied key (first :: rest) ↔ ∃ a ∈ rest, key a = key first := by
  constructor
  · rintro ⟨a, b, different, bestA, bestB⟩
    rcases List.mem_cons.mp bestA.1 with rfl | inside
    · rcases List.mem_cons.mp bestB.1 with rfl | there
      · exact (different rfl).elim
      · exact ⟨b, there, bestB.key_eq bestA⟩
    · exact ⟨a, inside, bestA.key_eq (best_first ordered)⟩
  · rintro ⟨a, inside, same⟩
    have top := best_first ordered
    refine ⟨a, first, fun equal => (List.nodup_cons.mp distinct).1 (equal ▸ inside), ?_, top⟩
    exact ⟨List.mem_cons_of_mem _ inside, fun b member => same ▸ top.2 b member⟩

/-- The members with the first key, in a cut of an ordered list: at least two, in a cut of at least two of
a tied list. -/
theorem tied_take_iff (ordered : (first :: rest).Pairwise fun a b => key a ≤ key b)
    (distinct : (first :: rest).Nodup) (n : ℕ) :
    1 < (((first :: rest).take n).filter fun a => decide (key a = key first)).length ↔
      2 ≤ n ∧ Tied key (first :: rest) := by
  rw [tied_iff ordered distinct]
  match n with
  | 0 => simp
  | k + 1 =>
    rw [List.take_succ_cons, List.filter_cons_of_pos (by exact decide_eq_true rfl), List.length_cons,
      Nat.lt_add_left_iff_pos, List.length_pos_iff_exists_mem]
    simp only [List.mem_filter, decide_eq_true_eq]
    constructor
    · rintro ⟨a, cut, same⟩
      have room : k ≠ 0 := by
        rintro rfl
        exact List.not_mem_nil cut
      exact ⟨by omega, a, List.mem_of_mem_take cut, same⟩
    · rintro ⟨room, a, inside, same⟩
      cases rest with
      | nil => exact (List.not_mem_nil inside).elim
      | cons second others =>
        obtain ⟨j, rfl⟩ : ∃ j, k = j + 1 := ⟨k - 1, by omega⟩
        refine ⟨second, List.mem_cons_self, le_antisymm ?_ ?_⟩
        · rw [← same]
          rcases List.mem_cons.mp inside with rfl | later
          · exact le_rfl
          · exact (List.pairwise_cons.mp (List.pairwise_cons.mp ordered).2).1 a later
        · exact (List.pairwise_cons.mp ordered).1 second List.mem_cons_self

/-- The members with the first key of an ordered list are several when it is tied. -/
theorem tied_filter_iff (ordered : (first :: rest).Pairwise fun a b => key a ≤ key b)
    (distinct : (first :: rest).Nodup) :
    1 < ((first :: rest).filter fun a => decide (key a = key first)).length ↔ Tied key (first :: rest) := by
  have whole := tied_take_iff ordered distinct (first :: rest).length
  rw [List.take_length] at whole
  refine whole.trans ⟨And.right, fun tied => ⟨?_, tied⟩⟩
  obtain ⟨a, inside, _⟩ := (tied_iff ordered distinct).mp tied
  have some : 0 < rest.length := List.length_pos_of_mem inside
  rw [List.length_cons]
  omega

end Ordered

end AxiomMcp.Lib
