/-
**Logs of programs that run side by side.**

A log has the calls of several programs in the order in which they were answered, each with the one that made it.
What a program asks next depends on its own replies alone; what it is replied may depend on all of them.

* `own`: the calls of one program, in its own order;
* `SideBySide`: every program has made a beginning of one of its traces, and perhaps all of it;
* `SideBySide.each`: what the calls of every program keep to, they keep to in the log.
-/

import AxiomMcp.Lib.Traces

namespace AxiomMcp.Lib

variable {ι Op : Type} {Reply : Op → Type} {ε α : Type} [DecidableEq ι]

/-- The call of an entry that is one program's. -/
def ownCall (i : ι) (entry : ι × Call Op Reply) : Option (Call Op Reply) :=
  if entry.1 = i then some entry.2 else none

/-- The calls of one program. -/
def own (i : ι) (log : List (ι × Call Op Reply)) : List (Call Op Reply) := log.filterMap (ownCall i)

/-- The calls of all programs. -/
def allCalls (log : List (ι × Call Op Reply)) : List (Call Op Reply) := log.map Prod.snd

theorem ownCall_eq_some {i : ι} {entry : ι × Call Op Reply} {call : Call Op Reply} :
    ownCall i entry = some call ↔ entry = (i, call) := by
  obtain ⟨j, other⟩ := entry
  unfold ownCall
  split
  · next same =>
    obtain rfl : j = i := same
    exact ⟨fun found => congrArg (Prod.mk j) (Option.some.inj found),
      fun equal => congrArg some (Prod.mk.inj equal).2⟩
  · next different => exact ⟨(fun wrong => nomatch wrong), fun equal => (different (Prod.mk.inj equal).1).elim⟩

theorem mem_own {i : ι} {log : List (ι × Call Op Reply)} {call : Call Op Reply} :
    call ∈ own i log ↔ (i, call) ∈ log := by
  unfold own
  rw [List.mem_filterMap]
  constructor
  · rintro ⟨entry, member, found⟩
    exact ownCall_eq_some.mp found ▸ member
  · exact fun member => ⟨(i, call), member, ownCall_eq_some.mpr rfl⟩

/-- The calls of one program are calls of the log. -/
theorem own_subset (i : ι) (log : List (ι × Call Op Reply)) : own i log ⊆ allCalls log :=
  fun call member => List.mem_map.mpr ⟨(i, call), mem_own.mp member, rfl⟩

/-- Every call of the log is one program's. -/
theorem mem_allCalls {log : List (ι × Call Op Reply)} {call : Call Op Reply} :
    call ∈ allCalls log ↔ ∃ i, call ∈ own i log := by
  constructor
  · intro member
    obtain ⟨⟨i, other⟩, here, rfl⟩ := List.mem_map.mp member
    exact ⟨i, mem_own.mpr here⟩
  · rintro ⟨i, member⟩
    exact own_subset i log member

/-! ### Logs of programs that take turns -/

theorem own_append (i : ι) (one other : List (ι × Call Op Reply)) :
    own i (one ++ other) = own i one ++ own i other :=
  List.filterMap_append

theorem own_tagged (i : ι) (calls : List (Call Op Reply)) : own i (calls.map (Prod.mk i)) = calls := by
  unfold own
  rw [List.filterMap_map]
  refine (List.filterMap_congr fun call _ => ?_).trans (List.filterMap_some (l := calls))
  exact ownCall_eq_some.mpr rfl

theorem own_tagged_other {i j : ι} (apart : j ≠ i) (calls : List (Call Op Reply)) :
    own i (calls.map (Prod.mk j)) = [] := by
  unfold own
  rw [List.filterMap_map]
  exact List.filterMap_eq_nil_iff.mpr fun call _ => if_neg apart

omit [DecidableEq ι] in
theorem allCalls_append (one other : List (ι × Call Op Reply)) :
    allCalls (one ++ other) = allCalls one ++ allCalls other := List.map_append

omit [DecidableEq ι] in
theorem allCalls_tagged (i : ι) (calls : List (Call Op Reply)) : allCalls (calls.map (Prod.mk i)) = calls := by
  unfold allCalls
  rw [List.map_map]
  exact List.map_id calls

/-! ### Side by side -/

/-- Every program has made a beginning of its calls, or all of them. -/
def SideBySide (p : ι → Program Op Reply ε α) (log : List (ι × Call Op Reply)) : Prop :=
  ∀ i, ∃ rest outcome, Trace (p i) (own i log ++ rest) outcome

/-- What every beginning of a program's calls keeps to is kept in the log, each program for its own calls. -/
theorem SideBySide.each {p : ι → Program Op Reply ε α} {log : List (ι × Call Op Reply)}
    {keeps : ι → List (Call Op Reply) → Prop} (side : SideBySide p log)
    (traces : ∀ i calls outcome, Trace (p i) calls outcome → keeps i calls)
    (begins : ∀ i calls rest, keeps i (calls ++ rest) → keeps i calls) (i : ι) : keeps i (own i log) := by
  obtain ⟨rest, outcome, trace⟩ := side i
  exact begins i _ rest (traces i _ outcome trace)

end AxiomMcp.Lib
