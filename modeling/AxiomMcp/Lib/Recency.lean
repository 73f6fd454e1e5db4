/-
**Dictionaries in the order of use, and what is shed of them.**

An `OrderedDict` keeps its keys in the order they were stored, and a key that is used moves to the end. What
does not fit is shed from the front.

* `Dict.erase`, `Dict.moveToEnd`, `Dict.store`: `pop(k, None)`, `move_to_end(k)` and storing a key anew;
* `shedLoop`: `popitem(last=False)` until the entries fit, with a running weight;
* `shedLoop_eq`: where the running weight is the total weight, the loop sheds the shortest front after which
  the rest fits (`Shed`), and the running weight stays the total;
* `Shed.last`: what fits alone stays when it is last.
-/

import AxiomMcp.Lib.Dict
import Mathlib.Algebra.BigOperators.Group.List.Basic
import Mathlib.Algebra.Order.BigOperators.Group.List
import Mathlib.Data.Int.Cast.Lemmas
import Mathlib.Data.List.Infix

namespace AxiomMcp.Lib

/-! ### Ordered dictionaries -/

namespace Dict

variable {κ α : Type} [DecidableEq κ]

/-- `d.pop(k, None)`, without what it returns. -/
def erase (d : Dict κ α) (k : κ) : Dict κ α :=
  ⟨d.entries.filter fun item => decide (item.1 ≠ k), d.nodup.sublist (List.filter_sublist.map _)⟩

/-- `d.pop(k, None)` and `d[k] = v`: the key is the last one. -/
def store (d : Dict κ α) (k : κ) (v : α) : Dict κ α := (d.erase k).set k v

/-- `d.move_to_end(k)` of a key that is there. -/
def moveToEnd (d : Dict κ α) (k : κ) : Dict κ α :=
  match d.get? k with
  | some v => d.store k v
  | none => d

theorem mem_entries_erase {d : Dict κ α} {k : κ} {item : κ × α} :
    item ∈ (d.erase k).entries ↔ item ∈ d.entries ∧ item.1 ≠ k := by
  rw [erase, List.mem_filter, decide_eq_true_iff]

theorem notMem_keys_erase (d : Dict κ α) (k : κ) : k ∉ (d.erase k).keys := by
  intro member
  obtain ⟨item, inside, same⟩ := List.mem_map.mp member
  exact (mem_entries_erase.mp inside).2 same

theorem entries_store (d : Dict κ α) (k : κ) (v : α) :
    (d.store k v).entries = (d.erase k).entries ++ [(k, v)] :=
  entries_set_of_notMem (d.notMem_keys_erase k) v

theorem erase_of_notMem {d : Dict κ α} {k : κ} (absent : k ∉ d.keys) : d.erase k = d := by
  refine Dict.ext (List.filter_eq_self.mpr fun item member => decide_eq_true fun same => absent ?_)
  exact same ▸ List.mem_map_of_mem member

theorem get?_erase {d : Dict κ α} {k j : κ} : (d.erase k).get? j = if j = k then none else d.get? j := by
  refine Option.ext fun v => ?_
  rw [get?_eq_some, mem_entries_erase]
  split
  · next same => simp [same]
  · next other => rw [get?_eq_some, and_iff_left other]

/-- Taking out an item takes its weight away. -/
theorem sum_erase (weight : κ × α → ℤ) {d : Dict κ α} {k : κ} {v : α} (found : d.get? k = some v) :
    ((d.erase k).entries.map weight).sum = (d.entries.map weight).sum - weight (k, v) := by
  have stored := get?_eq_some.mp found
  have distinct := d.nodup
  change ((d.entries.filter fun item => decide (item.1 ≠ k)).map weight).sum = _
  generalize d.entries = l at stored distinct ⊢
  induction l with
  | nil => cases stored
  | cons item rest ih =>
    obtain ⟨fresh, distinct⟩ := List.nodup_cons.mp distinct
    rcases List.mem_cons.mp stored with rfl | later
    · have others : rest.filter (fun item => decide (item.1 ≠ k)) = rest := by
        refine List.filter_eq_self.mpr fun other member => decide_eq_true fun same => fresh ?_
        exact List.mem_map.mpr ⟨other, member, same⟩
      rw [List.filter_cons_of_neg (by simp), others, List.map_cons, List.sum_cons]
      omega
    · have other : item.1 ≠ k := fun same => fresh (List.mem_map.mpr ⟨(k, v), later, same.symm⟩)
      have kept : (item :: rest).filter (fun item => decide (item.1 ≠ k)) =
          item :: rest.filter fun item => decide (item.1 ≠ k) := List.filter_cons_of_pos (decide_eq_true other)
      rw [kept, List.map_cons, List.sum_cons, ih later distinct, List.map_cons, List.sum_cons]
      omega

theorem length_erase {d : Dict κ α} {k : κ} {v : α} (found : d.get? k = some v) :
    (d.erase k).entries.length + 1 = d.entries.length := by
  have count := sum_erase (fun _ => (1 : ℤ)) found
  simp only [List.map_const', List.sum_replicate, nsmul_eq_mul, mul_one] at count
  omega

end Dict

/-! ### Shedding -/

section Shed

variable {α : Type*}

/-- The entries keep to a number and to a total weight. -/
def Fits (weight : α → ℤ) (maxEntries : ℕ) (maxWeight : ℤ) (l : List α) : Prop :=
  l.length ≤ maxEntries ∧ (l.map weight).sum ≤ maxWeight

/-- Fewer entries weigh no more. -/
theorem Fits.sublist {weight : α → ℤ} {maxEntries : ℕ} {maxWeight : ℤ} {l m : List α}
    (fits : Fits weight maxEntries maxWeight m) (nonneg : ∀ a, 0 ≤ weight a) (less : l.Sublist m) :
    Fits weight maxEntries maxWeight l := by
  refine ⟨less.length_le.trans fits.1, le_trans ((less.map weight).sum_le_sum fun w member => ?_) fits.2⟩
  obtain ⟨a, _, rfl⟩ := List.mem_map.mp member
  exact nonneg a

/-- Of the entries `before`, the shortest front is shed after which the rest fits. -/
structure Shed (fits : List α → Prop) (before dropped kept : List α) : Prop where
  split : before = dropped ++ kept
  fitting : fits kept
  needed : ∀ shed more, dropped = shed ++ more → more ≠ [] → ¬ fits (more ++ kept)

/-- `popitem(last=False)` while the entries do not fit; what is left, its running weight and how many were
shed. -/
def shedLoop (weight : α → ℤ) (maxEntries : ℕ) (maxWeight : ℤ) : List α → ℤ → ℕ → List α × ℤ × ℕ
  | [], running, shed => ([], running, shed)
  | a :: rest, running, shed =>
    if rest.length + 1 > maxEntries ∨ running > maxWeight then
      shedLoop weight maxEntries maxWeight rest (running - weight a) (shed + 1)
    else (a :: rest, running, shed)

variable {weight : α → ℤ} {maxEntries : ℕ} {maxWeight : ℤ}

/-- What is left is an end of what was there. -/
theorem shedLoop_suffix (l : List α) (running : ℤ) (shed : ℕ) :
    (shedLoop weight maxEntries maxWeight l running shed).1 <:+ l := by
  induction l generalizing running shed with
  | nil => exact List.suffix_refl _
  | cons a rest ih =>
    rw [shedLoop]
    split
    · exact (ih _ _).trans (List.suffix_cons a rest)
    · exact List.suffix_refl _

/-- **The loop sheds no more than is needed**, and keeps the running weight right. -/
theorem shedLoop_eq (room : 0 ≤ maxWeight) (l : List α) (shed : ℕ) :
    ∃ dropped kept, shedLoop weight maxEntries maxWeight l (l.map weight).sum shed =
        (kept, (kept.map weight).sum, shed + dropped.length) ∧
      Shed (Fits weight maxEntries maxWeight) l dropped kept := by
  induction l generalizing shed with
  | nil =>
    refine ⟨[], [], rfl, rfl, ⟨Nat.zero_le _, room⟩, ?_⟩
    rintro shed more same some_
    exact (some_ (List.append_eq_nil_iff.mp same.symm).2).elim
  | cons a rest ih =>
    rw [shedLoop]
    split
    · next beyond =>
      have remaining : ((a :: rest).map weight).sum - weight a = (rest.map weight).sum := by
        rw [List.map_cons, List.sum_cons]
        omega
      obtain ⟨dropped, kept, ran, split, fits, needed⟩ := ih (shed + 1)
      refine ⟨a :: dropped, kept, ?_, by rw [split, List.cons_append], fits, ?_⟩
      · rw [remaining, ran, List.length_cons, Nat.add_assoc, Nat.add_comm 1]
      · rintro (_ | ⟨b, shed⟩) more same some_ fitting
        · rw [List.nil_append] at same
          rw [← same, List.cons_append, ← split] at fitting
          rcases beyond with long | heavy
          · exact absurd fitting.1 (by rw [List.length_cons]; omega)
          · exact absurd fitting.2 (by omega)
        · exact needed shed more (List.cons.inj same).2 some_ fitting
    · next fitting =>
      rw [not_or, not_lt, not_lt] at fitting
      refine ⟨[], a :: rest, rfl, rfl, ⟨fitting.1, fitting.2⟩, ?_⟩
      rintro shed more same some_
      exact (some_ (List.append_eq_nil_iff.mp same.symm).2).elim

/-- What fits alone is kept when it is last. -/
theorem Shed.last {fits : List α → Prop} {before dropped kept : List α} {a : α}
    (shed : Shed fits (before ++ [a]) dropped kept) (alone : fits [a]) : ∃ rest, kept = rest ++ [a] := by
  rcases List.eq_nil_or_concat' kept with rfl | ⟨rest, b, rfl⟩
  · have all : dropped = before ++ [a] := by rw [shed.split, List.append_nil]
    exact (shed.needed before [a] all (List.cons_ne_nil _ _) (by rwa [List.append_nil])).elim
  · have split := shed.split
    rw [← List.append_assoc] at split
    obtain ⟨_, same⟩ := List.append_inj' split rfl
    obtain rfl := List.singleton_inj.mp same
    exact ⟨rest, rfl⟩

end Shed

end AxiomMcp.Lib
