/-
**Python's `sorted`, with a key into a linear order.**

`sortedBy key l` is the stable sort of `l` by `key`. The facts the development uses:

* it is a permutation of `l` (`sortedBy_perm`), so it keeps members, length and distinctness;
* **two lists with the same members in another order sort to one list** when the key tells the
  members apart (`sortedBy_eq_of_perm`), which is what makes an answer independent of the order a
  scope was assembled in;
* a list already in order is left alone (`sortedBy_of_pairwise`).

`sortedSet` is `sorted(set(l))`.
-/

import Mathlib.Data.List.Sort
import Mathlib.Data.List.Dedup
import Mathlib.Data.List.Lex
import Mathlib.Data.Prod.Lex

namespace AxiomMcp.Lib

variable {α β κ : Type*} [LinearOrder κ]

/-- `sorted(l, key=key)` -/
def sortedBy (key : α → κ) (l : List α) : List α :=
  l.insertionSort fun a b => key a ≤ key b

section Basic

variable (key : α → κ) (l : List α)

theorem sortedBy_perm : (sortedBy key l).Perm l := List.perm_insertionSort _ l

@[simp] theorem mem_sortedBy {a : α} : a ∈ sortedBy key l ↔ a ∈ l := (sortedBy_perm key l).mem_iff

@[simp] theorem length_sortedBy : (sortedBy key l).length = l.length :=
  (sortedBy_perm key l).length_eq

@[simp] theorem sortedBy_nil : sortedBy key ([] : List α) = [] := rfl

theorem sortedBy_nodup (distinct : l.Nodup) : (sortedBy key l).Nodup :=
  (sortedBy_perm key l).nodup_iff.mpr distinct

theorem sortedBy_pairwise : (sortedBy key l).Pairwise fun a b => key a ≤ key b := by
  have : Std.Total fun a b : α => key a ≤ key b := ⟨fun a b => le_total (key a) (key b)⟩
  have : IsTrans α fun a b : α => key a ≤ key b := ⟨fun _ _ _ => le_trans⟩
  exact List.pairwise_insertionSort _ l

end Basic

/-- A list in key order is its own sort. -/
theorem sortedBy_of_pairwise {key : α → κ} {l : List α}
    (ordered : l.Pairwise fun a b => key a ≤ key b) : sortedBy key l = l :=
  ordered.insertionSort_eq

/-- Two orders of the same members, told apart by the key, sort to one list. -/
theorem sortedBy_eq_of_perm {key : α → κ} {l m : List α} (same : l.Perm m)
    (apart : ∀ a ∈ l, ∀ b ∈ l, key a = key b → a = b) : sortedBy key l = sortedBy key m := by
  have perm : (sortedBy key l).Perm (sortedBy key m) :=
    (sortedBy_perm key l).trans (same.trans (sortedBy_perm key m).symm)
  refine List.Perm.eq_of_pairwise (fun a b left right below above => ?_)
    (sortedBy_pairwise key l) (sortedBy_pairwise key m) perm
  rw [mem_sortedBy] at left right
  exact apart a left b (same.mem_iff.mpr right) (le_antisymm below above)

/-- Sorting commutes with a map that keeps the key. -/
theorem map_sortedBy (f : α → β) (key : α → κ) (key' : β → κ) (l : List α)
    (keeps : ∀ a ∈ l, key' (f a) = key a) :
    (sortedBy key l).map f = sortedBy key' (l.map f) :=
  List.map_insertionSort (fun a b => key a ≤ key b) (fun a b => key' a ≤ key' b) f l
    fun a left b right => by rw [keeps a left, keeps b right]

theorem filter_orderedInsert {key : α → κ} (p : α → Bool) (a : α) {l : List α}
    (ordered : l.Pairwise fun a b => key a ≤ key b) :
    (l.orderedInsert (fun a b => key a ≤ key b) a).filter p =
      if p a then (l.filter p).orderedInsert (fun a b => key a ≤ key b) a else l.filter p := by
  induction l with
  | nil => cases kept : p a <;> simp [kept]
  | cons b rest ih =>
    obtain ⟨least, ordered⟩ := List.pairwise_cons.mp ordered
    rw [List.orderedInsert_cons]
    by_cases first : key a ≤ key b
    · rw [if_pos first]
      cases kept : p a with
      | false => rw [List.filter_cons_of_neg (by rw [kept]; exact Bool.false_ne_true)]; rfl
      | true =>
        rw [List.filter_cons_of_pos kept, if_pos rfl]
        have front : ∀ c ∈ (b :: rest).filter p, key a ≤ key c := by
          intro c member
          rcases List.mem_cons.mp (List.mem_filter.mp member).1 with rfl | later
          · exact first
          · exact first.trans (least c later)
        cases inside : (b :: rest).filter p with
        | nil => rfl
        | cons c later =>
          rw [List.orderedInsert_cons, if_pos (front c (by rw [inside]; exact List.mem_cons_self))]
    · rw [if_neg first]
      cases other : p b with
      | false =>
        rw [List.filter_cons_of_neg (by rw [other]; exact Bool.false_ne_true), ih ordered,
          List.filter_cons_of_neg (by rw [other]; exact Bool.false_ne_true)]
      | true =>
        rw [List.filter_cons_of_pos other, ih ordered, List.filter_cons_of_pos other]
        cases kept : p a with
        | false => rfl
        | true => simp only [if_true, List.orderedInsert_cons, if_neg first]

/-- Sorting commutes with keeping some members. -/
theorem sortedBy_filter (key : α → κ) (p : α → Bool) (l : List α) :
    sortedBy key (l.filter p) = (sortedBy key l).filter p := by
  induction l with
  | nil => rfl
  | cons a rest ih =>
    have step : sortedBy key (a :: rest) =
        (sortedBy key rest).orderedInsert (fun a b => key a ≤ key b) a := rfl
    rw [step, filter_orderedInsert p a (sortedBy_pairwise key rest), ← ih]
    cases kept : p a with
    | false => rw [List.filter_cons_of_neg (by rw [kept]; exact Bool.false_ne_true)]; rfl
    | true => rw [List.filter_cons_of_pos kept]; rfl

/-! ### `sorted(set(l))` -/

section SortedSet

variable [DecidableEq α]

/-- `sorted(set(l))` under a key. -/
def sortedSet (key : α → κ) (l : List α) : List α := sortedBy key l.dedup

@[simp] theorem mem_sortedSet {key : α → κ} {l : List α} {a : α} :
    a ∈ sortedSet key l ↔ a ∈ l := by
  rw [sortedSet, mem_sortedBy, List.mem_dedup]

theorem sortedSet_nodup (key : α → κ) (l : List α) : (sortedSet key l).Nodup :=
  sortedBy_nodup key _ l.nodup_dedup

/-- Normalising twice is normalising once. -/
theorem sortedSet_idem (key : α → κ) (l : List α) :
    sortedSet key (sortedSet key l) = sortedSet key l := by
  unfold sortedSet
  rw [(sortedBy_nodup key _ l.nodup_dedup).dedup]
  exact sortedBy_of_pairwise (sortedBy_pairwise key _)

/-- The sorted set depends on the members only. -/
theorem sortedSet_eq_of_mem_iff {key : α → κ} (apart : Function.Injective key) {l m : List α}
    (same : ∀ a, a ∈ l ↔ a ∈ m) : sortedSet key l = sortedSet key m := by
  refine sortedBy_eq_of_perm ?_ fun a _ b _ equal => apart equal
  rw [List.perm_ext_iff_of_nodup l.nodup_dedup m.nodup_dedup]
  intro a
  rw [List.mem_dedup, List.mem_dedup, same]

@[simp] theorem sortedSet_eq_nil {key : α → κ} {l : List α} : sortedSet key l = [] ↔ l = [] := by
  constructor
  · intro empty
    refine List.eq_nil_iff_forall_not_mem.mpr fun a member => ?_
    have sorted : a ∈ sortedSet key l := mem_sortedSet.mpr member
    rw [empty] at sorted
    exact List.not_mem_nil sorted
  · rintro rfl
    rfl

end SortedSet

end AxiomMcp.Lib
