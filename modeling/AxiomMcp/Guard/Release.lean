/-
**Giving guards back.**

`Sound` is the invariant of a guard between two calls of its engine: its table is strictly increasing in
acquisition order, every entry is backed by an open handle with its lock, and every other handle is done
with.

* `Sound.spent`, `Sound.acquired`, `Sound.dropped`: it survives a failed acquisition, a successful one and
  the release of an entry;
* `release_along`, `releaseAll_along`: whatever the platform answers, what was popped from the table has
  lost its lock and its handle; `releaseAll` lets go of the topmost guard first, and if it returns the
  table is empty.
-/

import Mathlib.Data.List.Nodup
import AxiomMcp.Guard.Acquire

namespace AxiomMcp.Guard

open Lib Program Machine

/-- The table is strictly increasing in the declared order. -/
def Ranked (guard : SolutionGuard) : Prop :=
  guard.held.Pairwise fun earlier later => position earlier.name < position later.name

/-- The handle of an entry: open, with the lock of the entry. -/
def HeldLock.state (held : HeldLock) : HandleState := ⟨held.name, some held.mode, true, false, none⟩

/-- A guard between two calls of its engine. -/
structure Sound (guard : SolutionGuard) : Prop where
  ranked : Ranked guard
  declared : ∀ held ∈ guard.held, held.name ∈ lockFileNames
  backed : ∀ held ∈ guard.held, guard.handles[held.handle]? = some held.state
  others : ∀ handle state, guard.handles[handle]? = some state →
    (∃ held ∈ guard.held, held.handle = handle) ∨ state.Settled

theorem sound_initial : Sound .initial :=
  ⟨.nil, fun _ none => (nomatch none), fun _ none => (nomatch none), fun _ _ found => nomatch found⟩

/-- Two declared names in one place are one. -/
theorem position_injective {one other : Text} (declared : one ∈ lockFileNames)
    (same : position one = position other) : one = other :=
  (List.idxOf_inj declared).mp same

/-- The guard without an entry and its handle. -/
def SolutionGuard.dropped (guard : SolutionGuard) (entry : HeldLock) : SolutionGuard :=
  (guard.pop entry.name).update entry.handle .shut

theorem SolutionGuard.mem_pop {guard : SolutionGuard} {name : Text} {held : HeldLock} :
    held ∈ (guard.pop name).held ↔ held ∈ guard.held ∧ held.name ≠ name := by
  rw [SolutionGuard.pop, List.mem_filter, decide_eq_true_eq]

theorem SolutionGuard.pop_absent {guard : SolutionGuard} {name : Text} (absent : guard.get? name = none) :
    guard.pop name = guard := by
  have all : guard.held.filter (fun held => held.name ≠ name) = guard.held :=
    List.filter_eq_self.mpr fun held member => decide_eq_true (get?_eq_none.mp absent held member)
  rw [pop, all]

namespace Sound

variable {start guard : SolutionGuard} {name : Text} {mode : LockMode} {entry : HeldLock}

/-- Entries of one name are one. -/
theorem unique (sound : Sound guard) {one other : HeldLock} (here : one ∈ guard.held)
    (there : other ∈ guard.held) (same : one.name = other.name) : one = other := by
  have distinct : (guard.held.map HeldLock.name).Nodup :=
    List.pairwise_map.mpr (sound.ranked.imp fun below same => absurd (congrArg position same) below.ne)
  exact List.inj_on_of_nodup_map distinct here there same

/-- Entries of one handle are one. -/
theorem unique_handle (sound : Sound guard) {one other : HeldLock} (here : one ∈ guard.held)
    (there : other ∈ guard.held) (same : one.handle = other.handle) : one = other := by
  have backed := sound.backed one here
  rw [same, sound.backed other there] at backed
  exact sound.unique here there (congrArg HandleState.file (Option.some.inj backed)).symm

theorem get?_eq (sound : Sound guard) (member : entry ∈ guard.held) :
    guard.get? entry.name = some entry := by
  cases found : guard.get? entry.name with
  | none => exact absurd rfl (SolutionGuard.get?_eq_none.mp found entry member)
  | some other =>
    obtain ⟨there, same⟩ := SolutionGuard.get?_eq_some found
    rw [sound.unique member there same.symm]

/-- Handles that are done with change nothing. -/
theorem spent (sound : Sound start) (spent : Spent start guard) : Sound guard := by
  obtain ⟨done, handles, settled⟩ := spent.handles
  refine ⟨?_, ?_, ?_, ?_⟩
  · rw [Ranked, spent.held]
    exact sound.ranked
  · rw [spent.held]
    exact sound.declared
  · intro held member
    rw [spent.held] at member
    have backed := sound.backed held member
    rw [handles, List.getElem?_append_left (List.getElem?_eq_some_iff.mp backed).1]
    exact backed
  · intro handle state found
    rw [spent.held]
    rw [handles] at found
    by_cases old : handle < start.handles.length
    · rw [List.getElem?_append_left old] at found
      exact sound.others handle state found
    · rw [List.getElem?_append_right (not_lt.mp old)] at found
      exact Or.inr (settled state (List.mem_of_getElem? found))

/-- A new entry at the end of the table, with the handle that was opened last. -/
theorem acquired (sound : Sound start) (acquired : Acquired start name mode (.ok entry) guard) :
    Sound guard := by
  obtain ⟨admits, mid, spent, rfl, rfl⟩ := acquired
  have before := sound.spent spent
  refine ⟨?_, ?_, ?_, ?_⟩
  · refine List.pairwise_append.mpr ⟨sound.ranked, List.pairwise_singleton _ _, ?_⟩
    intro held member other new
    rw [List.mem_singleton.mp new]
    refine lt_of_le_of_ne (admits.ordered held member) fun same => ?_
    exact SolutionGuard.get?_eq_none.mp admits.absent held member
      (position_injective (sound.declared held member) same)
  · intro held member
    rcases List.mem_append.mp member with old | new
    · exact sound.declared held old
    · rw [List.mem_singleton.mp new]
      exact admits.declared
  · intro held member
    rcases List.mem_append.mp member with old | new
    · have backed := before.backed held (spent.held ▸ old)
      show (mid.handles ++ _)[held.handle]? = _
      rw [List.getElem?_append_left (List.getElem?_eq_some_iff.mp backed).1]
      exact backed
    · rw [List.mem_singleton.mp new]
      exact List.getElem?_concat_length
  · intro handle state found
    change (mid.handles ++ _)[handle]? = _ at found
    by_cases old : handle < mid.handles.length
    · rw [List.getElem?_append_left old] at found
      rcases before.others handle state found with ⟨held, member, same⟩ | settled
      · exact Or.inl ⟨held, List.mem_append_left _ (spent.held ▸ member), same⟩
      · exact Or.inr settled
    · rw [List.getElem?_append_right (not_lt.mp old)] at found
      have inside : handle - mid.handles.length < 1 := (List.getElem?_eq_some_iff.mp found).1
      have last : mid.handles.length = handle :=
        le_antisymm (not_lt.mp old) (Nat.sub_eq_zero_iff_le.mp (Nat.lt_one_iff.mp inside))
      exact Or.inl ⟨_, List.mem_append_right _ List.mem_cons_self, last⟩

/-- An entry that was popped, with its handle closed. -/
theorem dropped (sound : Sound start) (member : entry ∈ start.held) : Sound (start.dropped entry) := by
  have apart : ∀ held ∈ (start.pop entry.name).held, entry.handle ≠ held.handle := by
    intro held left same
    obtain ⟨there, different⟩ := SolutionGuard.mem_pop.mp left
    exact different (congrArg HeldLock.name (sound.unique_handle there member same.symm))
  refine ⟨?_, ?_, ?_, ?_⟩
  · exact sound.ranked.filter _
  · exact fun held left => sound.declared held (SolutionGuard.mem_pop.mp left).1
  · intro held left
    show (start.handles.modify entry.handle _)[held.handle]? = _
    rw [List.getElem?_modify_ne _ _ (apart held left)]
    exact sound.backed held (SolutionGuard.mem_pop.mp left).1
  · intro handle state found
    change (start.handles.modify entry.handle _)[handle]? = _ at found
    by_cases same : entry.handle = handle
    · rw [← same, List.getElem?_modify_eq, sound.backed entry member] at found
      obtain rfl := Option.some.inj found
      exact Or.inr (settled_shut rfl)
    · rw [List.getElem?_modify_ne _ _ same] at found
      rcases sound.others handle state found with ⟨held, there, this⟩ | settled
      · refine Or.inl ⟨held, SolutionGuard.mem_pop.mpr ⟨there, fun names => ?_⟩, this⟩
        exact same ((sound.unique there member names) ▸ this)
      · exact Or.inr settled

end Sound

/-! ### One release -/

/-- Where a release stands when it asks something; `inv` holds of the guard between releases, and `may`
says which guards are let go. -/
inductive Letting (inv : SolutionGuard → Prop) (may : SolutionGuard → Text → Prop) :
    SolutionGuard → GuardOp → Prop
  | quiet {guard : SolutionGuard} {op : GuardOp} (sound : Sound guard) (holds : inv guard)
      (quiet : op.Quiet) : Letting inv may guard op
  | pop {guard : SolutionGuard} {name : Text} (sound : Sound guard) (holds : inv guard)
      (lets : may guard name) : Letting inv may guard (.pop name)
  | unlock {guard : SolutionGuard} {entry : HeldLock} (sound : Sound guard) (holds : inv guard)
      (member : entry ∈ guard.held) (lets : may guard entry.name) :
      Letting inv may (guard.pop entry.name) (.unlock entry.handle)
  | close {guard : SolutionGuard} {entry : HeldLock} (sound : Sound guard) (holds : inv guard)
      (member : entry ∈ guard.held) (lets : may guard entry.name) (reply : Except Raised Unit) :
      Letting inv may ((guard.pop entry.name).update entry.handle (.released reply))
        (.closeHandle entry.handle)

section Releases

variable {inv : SolutionGuard → Prop} {may : SolutionGuard → Text → Prop} {guard : SolutionGuard}
  {entry : HeldLock}

/-- Whatever the platform answers, the handle of a popped entry is closed. -/
theorem releaseHeld_along (sound : Sound guard) (holds : inv guard) (member : entry ∈ guard.held)
    (lets : may guard entry.name) :
    machine.Along (Letting inv may) (fun _ after => after = guard.dropped entry) (releaseHeld entry)
      (guard.pop entry.name) := by
  refine along_call (.unlock sound holds member lets) fun reply _ => ?_
  have closed : ∀ closing, machine.after ((guard.pop entry.name).update entry.handle (.released reply))
      (.closeHandle entry.handle) closing = guard.dropped entry := by
    intro closing
    show SolutionGuard.mk _ _ _ = SolutionGuard.mk _ _ _
    congr 1
    show (guard.handles.modify entry.handle _).modify entry.handle _ = guard.handles.modify entry.handle _
    rw [List.modify_modify_eq]
    congr 1
    funext state
    cases reply with
    | error raised => rfl
    | ok _ => rfl
  cases reply with
  | error raised =>
    refine along_call (.close sound holds member lets (.error raised)) fun closing _ => ?_
    cases closing with
    | error _ => exact closed _
    | ok _ => exact closed _
  | ok _ =>
    refine along_call (.close sound holds member lets (.ok ())) fun closing _ => ?_
    cases closing with
    | error _ => exact closed _
    | ok _ => exact closed _

/-- The guard after `release(name)`. -/
def ReleasedOne (start : SolutionGuard) (name : Text) (outcome : Except Raised Unit)
    (guard : SolutionGuard) : Prop :=
  (guard = start ∧ start.get? name = none ∧ ∃ raised, outcome = .error raised ∧ endsWait raised = false) ∨
    ∃ entry ∈ start.held, entry.name = name ∧ guard = start.dropped entry

theorem release_along (sound : Sound guard) (holds : inv guard) {name : Text} (lets : may guard name) :
    machine.Along (Letting inv may) (ReleasedOne guard name) (release name) guard := by
  refine along_call (.pop sound holds lets) fun popped permitted => ?_
  obtain rfl : popped = guard.get? name := permitted
  cases found : guard.get? name with
  | none =>
    refine Or.inl ⟨?_, found, _, rfl, rfl⟩
    exact SolutionGuard.pop_absent found
  | some entry =>
    obtain ⟨member, rfl⟩ := SolutionGuard.get?_eq_some found
    exact (releaseHeld_along sound holds member lets).post fun _ after same => Or.inr ⟨entry, member, rfl, same⟩

/-! ### `release_all` -/

/-- A guard that comes last in the acquisition order of those that are held. -/
def Topmost (guard : SolutionGuard) (name : Text) : Prop :=
  ∀ held ∈ guard.held, position held.name ≤ position name

/-- The guard after `release_all`: it holds less, and nothing if the call returned. -/
structure ReleasedAll (start : SolutionGuard) (outcome : Except Raised Unit) (guard : SolutionGuard) :
    Prop where
  sound : Sound guard
  closed : guard.closed = start.closed
  fewer : ∀ held ∈ guard.held, held ∈ start.held
  returned : outcome = .ok () → guard.held = []

theorem presentNames_along (sound : Sound guard) (holds : inv guard) (names : List Text) :
    machine.Along (Letting inv may) (fun outcome after => after = guard ∧
      outcome = .ok (names.filter fun name => (guard.get? name).isSome)) (presentNames names) guard := by
  induction names with
  | nil => exact ⟨rfl, rfl⟩
  | cons name rest ih =>
    refine along_call (.quiet sound holds trivial) fun held permitted => ?_
    obtain rfl : held = guard.get? name := permitted
    refine ih.bind (fun later after same => ?_) fun raised after same => nomatch same.2
    obtain ⟨rfl, same⟩ := same
    obtain rfl := Except.ok.inj same
    refine ⟨rfl, ?_⟩
    rw [List.filter_cons]

/-- Of all declared names, in order of release, those that are held. -/
theorem releaseOrder_covers (sound : Sound guard) {held : HeldLock} (member : held ∈ guard.held) :
    held.name ∈ releaseOrder.filter fun name => (guard.get? name).isSome := by
  refine List.mem_filter.mpr ⟨List.mem_reverse.mpr (sound.declared held member), ?_⟩
  rw [sound.get?_eq member]
  rfl

/-- A list of names that holds those of all guards held, the topmost first. -/
structure Covers (guard : SolutionGuard) (names : List Text) : Prop where
  falling : names.Pairwise fun one other => position other < position one
  all : ∀ held ∈ guard.held, held.name ∈ names

theorem releaseNames_along (sound : Sound guard) (holds : inv guard) :
    machine.Along (Letting inv may) (fun outcome after => after = guard ∧
      ∃ names, outcome = .ok names ∧ Covers guard names) releaseNames guard := by
  refine (presentNames_along sound holds releaseOrder).bind (fun order after same => ?_)
    fun raised after same => nomatch same.2
  obtain ⟨rfl, same⟩ := same
  obtain rfl := Except.ok.inj same
  refine along_call (.quiet sound holds trivial) fun table permitted => ?_
  obtain rfl : table = after.held := permitted
  refine ⟨rfl, _, rfl, ?_⟩
  have others : (after.held.map HeldLock.name).reverse.filter (fun name =>
      name ∉ releaseOrder.filter fun name => (after.get? name).isSome) = [] := by
    refine List.filter_eq_nil_iff.mpr fun name member => ?_
    obtain ⟨held, there, rfl⟩ := List.mem_map.mp (List.mem_reverse.mp member)
    rw [decide_eq_true_eq, not_not]
    exact releaseOrder_covers sound there
  rw [others, List.append_nil]
  exact ⟨List.Pairwise.filter _ (by decide), fun held member => releaseOrder_covers sound member⟩

/-- The guard after one round of the loop. -/
def ReleasedNamed (start : SolutionGuard) (name : Text) (guard : SolutionGuard) : Prop :=
  (guard = start ∧ start.get? name = none) ∨
    ∃ entry ∈ start.held, entry.name = name ∧ guard = start.dropped entry

theorem releaseNamed_along (sound : Sound guard) (holds : inv guard) {name : Text} (lets : may guard name) :
    machine.Along (Letting inv may) (fun outcome after => ReleasedNamed guard name after ∧
      ∀ raised, outcome = .error raised → after.held = (guard.pop name).held) (releaseNamed name) guard := by
  refine along_call (.pop sound holds lets) fun popped permitted => ?_
  obtain rfl : popped = guard.get? name := permitted
  cases found : guard.get? name with
  | none => exact ⟨Or.inl ⟨SolutionGuard.pop_absent found, found⟩, fun _ none => nomatch none⟩
  | some entry =>
    obtain ⟨member, rfl⟩ := SolutionGuard.get?_eq_some found
    refine (releaseHeld_along sound holds member lets).resume fun outcome after same => ?_
    obtain rfl := same
    have dropped : ReleasedNamed guard entry.name (guard.dropped entry) :=
      Or.inr ⟨entry, member, rfl, rfl⟩
    cases outcome with
    | ok _ => exact ⟨dropped, fun _ _ => rfl⟩
    | error raised => cases raised <;> exact ⟨dropped, fun _ _ => rfl⟩

/-- One round leaves the other guards. -/
theorem ReleasedNamed.left {start : SolutionGuard} {name : Text}
    (released : ReleasedNamed start name guard) :
    ∀ held, held ∈ guard.held ↔ held ∈ start.held ∧ held.name ≠ name := by
  intro held
  rcases released with ⟨rfl, absent⟩ | ⟨entry, member, rfl, rfl⟩
  · exact ⟨fun there => ⟨there, SolutionGuard.get?_eq_none.mp absent held there⟩, And.left⟩
  · exact SolutionGuard.mem_pop

theorem ReleasedNamed.sound {start : SolutionGuard} {name : Text} (sound : Sound start)
    (released : ReleasedNamed start name guard) : Sound guard := by
  rcases released with ⟨rfl, absent⟩ | ⟨entry, member, rfl, rfl⟩
  · exact sound
  · exact sound.dropped member

theorem ReleasedNamed.closed {start : SolutionGuard} {name : Text}
    (released : ReleasedNamed start name guard) : guard.closed = start.closed := by
  rcases released with ⟨rfl, absent⟩ | ⟨entry, member, rfl, rfl⟩
  · rfl
  · rfl

/-- The first name of a covering list is topmost. -/
theorem Covers.top {name : Text} {rest : List Text} (covers : Covers guard (name :: rest)) :
    Topmost guard name := by
  intro held member
  rcases List.mem_cons.mp (covers.all held member) with same | later
  · rw [same]
  · exact ((List.pairwise_cons.mp covers.falling).1 _ later).le

/-- What is left is covered by the rest of the list. -/
theorem Covers.rest {start : SolutionGuard} {name : Text} {rest : List Text}
    (covers : Covers start (name :: rest)) (released : ReleasedNamed start name guard) :
    Covers guard rest := by
  refine ⟨(List.pairwise_cons.mp covers.falling).2, fun held member => ?_⟩
  obtain ⟨there, different⟩ := (released.left held).mp member
  exact (List.mem_cons.mp (covers.all held there)).resolve_left different

/-- Nothing is covered by no name. -/
theorem Covers.empty (covers : Covers guard []) : guard.held = [] :=
  List.eq_nil_iff_forall_not_mem.mpr fun held member => nomatch covers.all held member

/-- An invariant that survives the release of the topmost guard. -/
def KeptBelow (inv : SolutionGuard → Prop) : Prop :=
  ∀ guard name after, Sound guard → inv guard → Topmost guard name → ReleasedNamed guard name after →
    inv after

/-- The loop lets go of the guards of a covering list. -/
theorem releaseEach_along {start : SolutionGuard} (kept : KeptBelow inv) (names failures : List Text)
    (sound : Sound guard) (holds : inv guard) (closed : guard.closed = start.closed)
    (fewer : ∀ held ∈ guard.held, held ∈ start.held) (covers : Covers guard names) :
    machine.Along (Letting inv Topmost)
      (fun outcome after => ReleasedAll start outcome after ∧ inv after) (releaseEach names failures)
      guard := by
  induction names generalizing guard failures with
  | nil =>
    unfold releaseEach
    split
    · exact ⟨⟨sound, closed, fewer, fun _ => covers.empty⟩, holds⟩
    · exact ⟨⟨sound, closed, fewer, fun _ => covers.empty⟩, holds⟩
  | cons name rest ih =>
    refine (releaseNamed_along sound holds covers.top).bind (fun failed after released => ?_)
      fun raised after released => ?_
    · refine ih _ (released.1.sound sound) (kept _ _ _ sound holds covers.top released.1)
        (released.1.closed.trans closed) (fun held member => ?_) (covers.rest released.1)
      exact fewer held ((released.1.left held).mp member).1
    · refine ⟨⟨released.1.sound sound, released.1.closed.trans closed, fun held member => ?_,
        fun returned => nomatch returned⟩, kept _ _ _ sound holds covers.top released.1⟩
      exact fewer held ((released.1.left held).mp member).1

theorem releaseAll_along (kept : KeptBelow inv) (sound : Sound guard) (holds : inv guard) :
    machine.Along (Letting inv Topmost)
      (fun outcome after => ReleasedAll guard outcome after ∧ inv after) releaseAll guard := by
  refine (releaseNames_along sound holds).bind (fun names after same => ?_) fun raised after same => ?_
  · obtain ⟨rfl, _, same, covers⟩ := same
    obtain rfl := Except.ok.inj same
    exact releaseEach_along kept names [] sound holds rfl (fun _ member => member) covers
  · obtain ⟨_, _, same, _⟩ := same
    cases same

end Releases

end AxiomMcp.Guard
