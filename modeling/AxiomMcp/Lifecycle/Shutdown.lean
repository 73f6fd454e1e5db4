/-
**Shutdown leaves no lock behind.**

A drain that gives its queries up releases what the guard's table holds, but a query that is still waiting
for its guard goes on and takes it later (`shutdown_overtaken`). The runs without that, and without the
other ways in which a lock escapes the table, are those whose steps are `orderly`:

* a wait for queries is given up only if none of them is on its way to its guard, and only once;
* no entry of the guard's table is replaced by another one;
* the names of the guards held are read only if no guard is on its way out of the table.

`shutdown_leaves_nothing`: in such a run a shutdown that has reported no guard leaves no lock behind, and
the queries that were given up are counted once. The counters and the refusal of queries while draining
need no condition.
-/

import AxiomMcp.Guard.Processes
import AxiomMcp.Lifecycle.Counts

namespace AxiomMcp.Lifecycle

open Lib Program Machine Guard

variable {ι : Type} [DecidableEq ι]

/-- The condition on the steps of a run. -/
def orderly : Condition ι
  | s, .inr (.poll _), some remaining =>
    remaining ≠ 0 → (∀ j, (s.own j).phase ≠ .entering) ∧ s.lost = ∅
  | s, .inl (.store entry), _ => s.guard.get? entry.name = none
  | s, .inr .heldNames, _ => s.letting = []
  | _, _, _ => True

/-! ### Histories -/

section Histories

variable {own : Own}

theorem lifeStep_taking (op : LifeOp) (reply : LifeReply op) :
    (own.lifeStep op reply).taking = own.taking := by
  cases op with
  | admission => cases reply <;> rfl
  | poll deadline => cases reply <;> rfl
  | readOutcome => cases reply <;> rfl
  | _ => rfl

/-- What a step of the engine keeps of a history. -/
theorem guardStep_flags (op : GuardOp) (reply : GuardReply op) :
    (own.guardStep op reply).drained = own.drained ∧ (own.guardStep op reply).waited = own.waited ∧
      (own.guardStep op reply).sure = own.sure ∧ (own.guardStep op reply).owed = own.owed := by
  cases op with
  | tryLock handle mode => cases reply <;> exact ⟨rfl, rfl, rfl, rfl⟩
  | _ => exact ⟨rfl, rfl, rfl, rfl⟩

/-- A thread with nothing in hand that takes nothing has nothing in hand. -/
theorem guardStep_empty {op : GuardOp} {reply : GuardReply op} (empty : own.taking = [])
    (other : ¬ GuardOp.Taking op) : (own.guardStep op reply).taking = [] := by
  cases op with
  | tryLock handle mode => exact absurd trivial other
  | store entry => exact absurd trivial other
  | closeHandle handle =>
    show own.taking.filter _ = []
    rw [empty]
    rfl
  | _ => exact empty

/-- What is in hand stays there, unless it is stored or closed. -/
theorem mem_guardStep {op : GuardOp} {reply : GuardReply op} {handle : Handle}
    (member : handle ∈ own.taking) (stored : ∀ entry, op = .store entry → entry.handle ≠ handle)
    (closed : op ≠ .closeHandle handle) : handle ∈ (own.guardStep op reply).taking := by
  cases op with
  | tryLock target mode =>
    cases reply with
    | ok _ => exact List.mem_cons_of_mem _ member
    | error raised => exact member
  | store entry =>
    exact List.mem_filter.mpr ⟨member, decide_eq_true (stored entry rfl).symm⟩
  | closeHandle target =>
    refine List.mem_filter.mpr ⟨member, decide_eq_true fun same => closed ?_⟩
    rw [same]
  | _ => exact member

end Histories

/-! ### A guard that is quiet -/

/-- Nothing is held or locked, and nothing ever will be. -/
structure Quiet (s : Shared ι) : Prop where
  draining : s.draining = true
  entered : ∀ j, (s.own j).phase ≠ .entering
  held : s.guard.held = []
  letting : s.letting = []
  unlocked : ∀ state ∈ s.guard.handles, state.lock = none

/-- No thread is on its way into a query, and none is after a step while draining. -/
theorem entered_kept {s : Shared ι} {i : ι} {op : Op} {reply : Reply op} (draining : s.draining = true)
    (entered : ∀ j, (s.own j).phase ≠ .entering) (permitted : (thread i).permits s op reply) :
    ∀ j, (((thread i).after s op reply).own j).phase ≠ .entering := by
  intro j
  rw [own_after]
  refine (Function.forall_update_iff _ (fun _ (own : Own) => own.phase ≠ .entering)).mpr
    ⟨?_, fun j _ => entered j⟩ j
  cases op with
  | inl op =>
    exact fun same => entered i ((guardStep_phase _ _ _).symm.trans same)
  | inr op =>
    cases op with
    | admission =>
      have refused : reply = !s.draining := permitted
      rw [draining] at refused
      obtain rfl : reply = false := refused
      exact entered i
    | exit => exact fun same => nomatch same
    | work => exact fun same => nomatch same
    | poll deadline => cases reply <;> exact entered i
    | readOutcome => cases reply <;> exact entered i
    | _ => exact entered i

theorem quiet_kept {s : Shared ι} {i : ι} {op : Op} {reply : Reply op} (quiet : Quiet s)
    (conduct : Conduct (s.own i) op) (permitted : (thread i).permits s op reply) :
    Quiet ((thread i).after s op reply) := by
  have entered := entered_kept quiet.draining quiet.entered permitted
  have draining := (admitted_draining quiet.draining permitted).1
  cases op with
  | inl op =>
    have other : ¬ GuardOp.Taking op := fun taking => quiet.entered i (conduct taking)
    refine ⟨draining, entered, ?_, ?_, ?_⟩
    · show (machine.after s.guard op reply).held = []
      cases op with
      | store entry => exact absurd trivial other
      | pop name =>
        show s.guard.held.filter _ = []
        rw [quiet.held]
        rfl
      | openFile name => cases reply <;> exact quiet.held
      | _ => exact quiet.held
    · show lettingStep s.letting op reply = []
      cases op with
      | pop name =>
        have popped : reply = s.guard.get? name := permitted
        rw [SolutionGuard.get?, quiet.held] at popped
        obtain rfl : reply = none := popped
        exact quiet.letting
      | closeHandle handle =>
        show s.letting.filter _ = []
        rw [quiet.letting]
        rfl
      | _ => exact quiet.letting
    · intro state member
      by_contra locked
      obtain ⟨mode, lock⟩ := Option.ne_none_iff_exists'.mp locked
      obtain ⟨handle, found⟩ := List.mem_iff_getElem?.mp member
      obtain ⟨old, there, _, kept | takes⟩ := lock_source found lock
      · rw [quiet.unlocked old (List.mem_of_getElem? there)] at kept
        cases kept
      · cases op with
        | tryLock target wants => exact other trivial
        | _ => exact takes.elim
  | inr op =>
    have guard := life_guard s i op reply
    refine ⟨draining, entered, ?_, ?_, ?_⟩
    · rw [guard.1]
      exact quiet.held
    · rw [guard.2]
      exact quiet.letting
    · rw [guard.1]
      exact quiet.unlocked

/-! ### Where a lock may be -/

/-- Every lock is in the table, in the hand of a thread, or on its way out of the table. -/
structure Traced (s : Shared ι) : Prop where
  names : (s.guard.held.map HeldLock.name).Nodup
  hand : ∀ i, (s.own i).phase ≠ .entering → (s.own i).taking = []
  locked : ∀ (handle : Handle) state mode, s.guard.handles[handle]? = some state →
    state.lock = some mode →
      (∃ held ∈ s.guard.held, held.handle = handle) ∨ handle ∈ s.letting ∨ ∃ j, handle ∈ (s.own j).taking

theorem hand_kept {s : Shared ι} {i : ι} {op : Op} {reply : Reply op}
    (hand : ∀ i, (s.own i).phase ≠ .entering → (s.own i).taking = [])
    (conduct : Conduct (s.own i) op) :
    ∀ j, (((thread i).after s op reply).own j).phase ≠ .entering →
      (((thread i).after s op reply).own j).taking = [] := by
  intro j
  rw [own_after]
  refine (Function.forall_update_iff _ (fun _ (own : Own) => own.phase ≠ .entering → own.taking = [])).mpr
    ⟨fun staying => ?_, fun j _ => hand j⟩ j
  cases op with
  | inl op =>
    have phase : (s.own i).phase ≠ .entering := fun same =>
      staying ((guardStep_phase _ _ _).trans same)
    exact guardStep_empty (hand i phase) fun taking => phase (conduct taking)
  | inr op =>
    refine (lifeStep_taking op reply).trans ?_
    cases op with
    | admission => exact conduct.2
    | exit => exact conduct.2
    | work => exact conduct.2
    | poll deadline => cases reply <;> exact hand i staying
    | readOutcome => cases reply <;> exact hand i staying
    | _ => exact hand i staying

/-- The table of a guard after a step of the engine that stores no entry. -/
theorem held_after {guard : SolutionGuard} {op : GuardOp} {reply : GuardReply op}
    (stores : ∀ entry, op ≠ .store entry) {held : HeldLock} (member : held ∈ guard.held)
    (pops : ∀ name, op = .pop name → held.name ≠ name) : held ∈ (machine.after guard op reply).held := by
  cases op with
  | store entry => exact absurd rfl (stores entry)
  | pop name => exact SolutionGuard.mem_pop.mpr ⟨member, pops name rfl⟩
  | openFile name => cases reply <;> exact member
  | _ => exact member

/-- With distinct names the entry of a name is the one that is found. -/
theorem get?_of_nodup {guard : SolutionGuard} (names : (guard.held.map HeldLock.name).Nodup)
    {held : HeldLock} (member : held ∈ guard.held) : guard.get? held.name = some held := by
  cases found : guard.get? held.name with
  | none => exact absurd rfl (SolutionGuard.get?_eq_none.mp found held member)
  | some other =>
    obtain ⟨there, same⟩ := SolutionGuard.get?_eq_some found
    rw [List.inj_on_of_nodup_map names there member same]

/-- A handle that has its lock after a step was not closed by it. -/
theorem not_closed {guard : SolutionGuard} {op : GuardOp} {reply : GuardReply op} {handle : Handle}
    {state : HandleState} {mode : LockMode}
    (found : (machine.after guard op reply).handles[handle]? = some state)
    (lock : state.lock = some mode) : op ≠ .closeHandle handle := by
  rintro rfl
  change (guard.handles.modify handle _)[handle]? = _ at found
  rw [List.getElem?_modify_eq] at found
  obtain ⟨old, _, rfl⟩ := Option.map_eq_some_iff.mp found
  cases lock

/-- What is on its way out of the table stays there until it is closed. -/
theorem mem_lettingStep {letting : List Handle} {op : GuardOp} {reply : GuardReply op} {handle : Handle}
    (member : handle ∈ letting) (closed : op ≠ .closeHandle handle) :
    handle ∈ lettingStep letting op reply := by
  cases op with
  | pop name =>
    cases reply with
    | none => exact member
    | some entry => exact List.mem_cons_of_mem _ member
  | closeHandle target =>
    refine List.mem_filter.mpr ⟨member, decide_eq_true fun same => closed ?_⟩
    rw [same]
  | _ => exact member

theorem traced_kept {s : Shared ι} {i : ι} {op : Op} {reply : Reply op} (traced : Traced s)
    (conduct : Conduct (s.own i) op) (permitted : (thread i).permits s op reply)
    (meets : orderly s op reply) : Traced ((thread i).after s op reply) := by
  cases op with
  | inr op =>
    obtain ⟨guard, letting⟩ := life_guard s i op reply
    refine ⟨?_, hand_kept traced.hand conduct, fun handle state mode found lock => ?_⟩
    · rw [guard]
      exact traced.names
    · rw [guard] at found ⊢
      rw [letting]
      refine (traced.locked handle state mode found lock).imp_right (Or.imp_right ?_)
      rintro ⟨j, member⟩
      refine ⟨j, ?_⟩
      rw [own_after]
      exact (Function.forall_update_iff _ (fun k (own : Own) => handle ∈ (s.own k).taking →
        handle ∈ own.taking)).mpr
        ⟨(fun member => (lifeStep_taking op reply).symm ▸ member), fun _ _ member => member⟩ j member
  | inl op =>
    refine ⟨?_, hand_kept traced.hand conduct, fun handle state mode found lock => ?_⟩
    · show ((machine.after s.guard op reply).held.map HeldLock.name).Nodup
      cases op with
      | store entry =>
        have absent : s.guard.get? entry.name = none := meets
        show ((s.guard.store entry).held.map HeldLock.name).Nodup
        rw [SolutionGuard.store_new absent, List.map_append]
        refine List.nodup_append.mpr ⟨traced.names, List.nodup_singleton _, ?_⟩
        intro name member other new same
        obtain ⟨held, there, rfl⟩ := List.mem_map.mp member
        refine SolutionGuard.get?_eq_none.mp absent held there ?_
        rw [same, List.mem_singleton.mp new]
      | pop name => exact traced.names.sublist (List.filter_sublist.map _)
      | openFile name => cases reply <;> exact traced.names
      | _ => exact traced.names
    · have closed : op ≠ .closeHandle handle := not_closed found lock
      obtain ⟨old, there, _, kept | takes⟩ := lock_source found lock
      · rcases traced.locked handle old mode there kept with ⟨held, member, rfl⟩ | letting | ⟨j, member⟩
        · by_cases popped : op = .pop held.name
          · subst popped
            have entry : reply = s.guard.get? held.name := permitted
            rw [get?_of_nodup traced.names member] at entry
            obtain rfl : reply = some held := entry
            exact Or.inr (Or.inl List.mem_cons_self)
          · refine Or.inl ⟨held, ?_, rfl⟩
            by_cases stored : ∃ entry, op = .store entry
            · obtain ⟨entry, rfl⟩ := stored
              have absent : s.guard.get? entry.name = none := meets
              show held ∈ (s.guard.store entry).held
              rw [SolutionGuard.store_new absent]
              exact List.mem_append_left _ member
            · exact held_after (fun entry same => stored ⟨entry, same⟩) member fun name same named =>
                popped (named ▸ same)
        · exact Or.inr (Or.inl (mem_lettingStep letting closed))
        · by_cases stored : ∃ entry, op = .store entry ∧ entry.handle = handle
          · obtain ⟨entry, rfl, same⟩ := stored
            have absent : s.guard.get? entry.name = none := meets
            refine Or.inl ⟨entry, ?_, same⟩
            show entry ∈ (s.guard.store entry).held
            rw [SolutionGuard.store_new absent]
            exact List.mem_append_right _ List.mem_cons_self
          · refine Or.inr (Or.inr ⟨j, ?_⟩)
            rw [own_after]
            refine (Function.forall_update_iff _ (fun k (own : Own) => handle ∈ (s.own k).taking →
              handle ∈ own.taking)).mpr
              ⟨fun member => ?_, fun _ _ member => member⟩ j member
            exact mem_guardStep member (fun entry same named => stored ⟨entry, same, named⟩) closed
      · refine Or.inr (Or.inr ⟨i, ?_⟩)
        rw [own_after, Function.update_self]
        show handle ∈ ((s.own i).guardStep op reply).taking
        cases op with
        | tryLock target wants =>
          cases reply with
          | ok _ =>
            obtain rfl : target = handle := takes.1
            exact List.mem_cons_self
          | error raised => exact takes.elim
        | _ => exact takes.elim

/-! ### What a thread has seen -/

/-- The drain has started and no thread is on its way into a query. -/
def Passed (s : Shared ι) : Prop := s.draining = true ∧ ∀ j, (s.own j).phase ≠ .entering

theorem passed_kept {s : Shared ι} {i : ι} {op : Op} {reply : Reply op} (passed : Passed s)
    (permitted : (thread i).permits s op reply) : Passed ((thread i).after s op reply) :=
  ⟨(admitted_draining passed.1 permitted).1, entered_kept passed.1 passed.2 permitted⟩

/-- What the histories of the threads and the stored outcome tell of the guard. -/
structure Safe (s : Shared ι) : Prop where
  traced : Traced s
  drains : ∀ i, (s.own i).drained = true → s.draining = true
  waits : ∀ i, (s.own i).waited = true → Passed s
  sure : ∀ i, (s.own i).sure = true → Quiet s
  stored : ∀ outcome, s.outcome = some outcome → outcome.guardsHeld = [] → Quiet s

omit [DecidableEq ι] in
theorem safe_initial : Safe (.initial : Shared ι) where
  traced := ⟨List.nodup_nil, fun _ _ => rfl, fun _ _ _ found _ => nomatch found⟩
  drains _ none := nomatch none
  waits _ none := nomatch none
  sure _ none := nomatch none
  stored _ none := nomatch none

section Kept

variable {s : Shared ι} {i : ι} {op : Op} {reply : Reply op}

theorem drains_kept (drains : ∀ i, (s.own i).drained = true → s.draining = true)
    (permitted : (thread i).permits s op reply) (j : ι)
    (drained : (((thread i).after s op reply).own j).drained = true) :
    ((thread i).after s op reply).draining = true := by
  have before : s.draining = true → ((thread i).after s op reply).draining = true := fun draining =>
    (admitted_draining draining permitted).1
  rw [own_after] at drained
  revert drained
  refine (Function.forall_update_iff _ (fun _ (own : Own) => own.drained = true → _)).mpr
    ⟨fun drained => ?_, fun j _ drained => before (drains j drained)⟩ j
  cases op with
  | inl op => exact before (drains i ((guardStep_flags op reply).1.symm.trans drained))
  | inr op =>
    cases op with
    | startDrain => rfl
    | admission => cases reply <;> exact before (drains i drained)
    | poll deadline => cases reply <;> exact before (drains i drained)
    | readOutcome => cases reply <;> exact before (drains i drained)
    | _ => exact before (drains i drained)

omit [DecidableEq ι] in
/-- With no query in flight no thread is on its way into one. -/
theorem Counts.none_entering (counts : Counts s) (none : s.inFlight = 0) (j : ι) :
    (s.own j).phase ≠ .entering := by
  intro entering
  have flies : (j, (s.own j).queries) ∈ s.flying :=
    (counts.flying _ _).mpr ⟨fun outside => (nomatch entering.symm.trans outside), rfl⟩
  have positive : 0 < s.flying.card := Finset.card_pos.mpr ⟨_, flies⟩
  have empty := counts.inFlight.symm.trans none
  omega

/-- When a wait for queries ends, none of them is on its way to its guard. -/
theorem poll_passed {deadline : ℚ} {remaining : ℤ} (counts : Counts s) (draining : s.draining = true)
    (permitted : (thread i).permits s (.inr (.poll deadline)) (some remaining))
    (meets : orderly s (.inr (.poll deadline)) (some remaining)) : Passed s := by
  refine ⟨draining, ?_⟩
  by_cases none : remaining = 0
  · have found : remaining = s.inFlight := permitted
    exact counts.none_entering (found.symm.trans none)
  · exact (meets none).1

theorem waits_kept (safe : Safe s) (counts : Counts s) (conduct : Conduct (s.own i) op)
    (permitted : (thread i).permits s op reply) (meets : orderly s op reply) (j : ι)
    (waited : (((thread i).after s op reply).own j).waited = true) :
    Passed ((thread i).after s op reply) := by
  refine passed_kept ?_ permitted
  rw [own_after] at waited
  revert waited
  refine (Function.forall_update_iff _ (fun _ (own : Own) => own.waited = true → Passed s)).mpr
    ⟨fun waited => ?_, fun j _ => safe.waits j⟩ j
  cases op with
  | inl op => exact safe.waits i ((guardStep_flags op reply).2.1.symm.trans waited)
  | inr op =>
    cases op with
    | poll deadline =>
      cases reply with
      | none => exact safe.waits i waited
      | some remaining => exact poll_passed counts (safe.drains i conduct.1) permitted meets
    | admission => cases reply <;> exact safe.waits i waited
    | readOutcome => cases reply <;> exact safe.waits i waited
    | _ => exact safe.waits i waited

omit [DecidableEq ι] in
/-- A guard whose table is empty, while no lock can be anywhere else. -/
theorem Traced.quiet (traced : Traced s) (passed : Passed s) (held : s.guard.held = [])
    (letting : s.letting = []) : Quiet s := by
  refine ⟨passed.1, passed.2, held, letting, fun state member => ?_⟩
  by_contra locked
  obtain ⟨mode, lock⟩ := Option.ne_none_iff_exists'.mp locked
  obtain ⟨handle, found⟩ := List.mem_iff_getElem?.mp member
  rcases traced.locked handle state mode found lock with ⟨entry, there, _⟩ | leaving | ⟨j, taken⟩
  · rw [held] at there
    cases there
  · rw [letting] at leaving
    cases leaving
  · rw [traced.hand j (passed.2 j)] at taken
    cases taken

theorem sure_kept (safe : Safe s) (conduct : Conduct (s.own i) op)
    (permitted : (thread i).permits s op reply) (meets : orderly s op reply) (j : ι)
    (sure : (((thread i).after s op reply).own j).sure = true) :
    Quiet ((thread i).after s op reply) := by
  refine quiet_kept ?_ conduct permitted
  rw [own_after] at sure
  revert sure
  refine (Function.forall_update_iff _ (fun _ (own : Own) => own.sure = true → Quiet s)).mpr
    ⟨fun sure => ?_, fun j _ => safe.sure j⟩ j
  cases op with
  | inl op => exact safe.sure i ((guardStep_flags op reply).2.2.1.symm.trans sure)
  | inr op =>
    cases op with
    | heldNames =>
      have seen : ∀ names : List Text, decide (names = []) = true → names = [] := fun _ => of_decide_eq_true
      have names : reply = s.guard.held.map HeldLock.name := permitted
      have none : s.guard.held = [] := List.map_eq_nil_iff.mp (names.symm.trans (seen reply sure))
      exact safe.traced.quiet (safe.waits i conduct) none meets
    | readOutcome =>
      cases reply with
      | none => exact safe.sure i sure
      | some outcome => exact safe.stored outcome (Eq.symm permitted) (of_decide_eq_true sure)
    | admission => cases reply <;> exact safe.sure i sure
    | poll deadline => cases reply <;> exact safe.sure i sure
    | _ => exact safe.sure i sure

theorem stored_kept (safe : Safe s) (conduct : Conduct (s.own i) op)
    (permitted : (thread i).permits s op reply) (outcome : DrainOutcome)
    (stored : ((thread i).after s op reply).outcome = some outcome) (none : outcome.guardsHeld = []) :
    Quiet ((thread i).after s op reply) := by
  refine quiet_kept ?_ conduct permitted
  cases op with
  | inl op => exact safe.stored outcome stored none
  | inr op =>
    cases op with
    | remember seen =>
      obtain rfl : seen = outcome := Option.some.inj stored
      exact safe.sure i (conduct none)
    | poll deadline =>
      cases reply with
      | none => exact safe.stored outcome stored none
      | some remaining =>
        refine safe.stored outcome (Eq.trans (Eq.symm ?_) stored) none
        show (Shared.setOwn (if remaining ≠ 0 then _ else s) i _).outcome = s.outcome
        split <;> rfl
    | admission => cases reply <;> exact safe.stored outcome stored none
    | _ => exact safe.stored outcome stored none

theorem safe_kept (safe : Safe s) (counts : Counts s) (conduct : Conduct (s.own i) op)
    (permitted : (thread i).permits s op reply) (meets : orderly s op reply) :
    Safe ((thread i).after s op reply) where
  traced := traced_kept safe.traced conduct permitted meets
  drains := drains_kept safe.drains permitted
  waits := waits_kept safe counts conduct permitted meets
  sure := sure_kept safe conduct permitted meets
  stored := stored_kept safe conduct permitted

end Kept

/-! ### Queries that were given up -/

/-- The queries that were given up are counted, or one thread still has to count them. -/
def Counted (s : Shared ι) : Prop :=
  (s.cancelled = s.lost.card ∧ ∀ j, (s.own j).owed = 0) ∨
    ∃ t, s.cancelled = 0 ∧ (s.own t).owed = s.lost.card ∧ ∀ j, j ≠ t → (s.own j).owed = 0

omit [DecidableEq ι] in
/-- Steps that change nothing of it. -/
theorem Counted.same {s s' : Shared ι} (counted : Counted s) (cancelled : s'.cancelled = s.cancelled)
    (lost : s'.lost = s.lost) (owed : ∀ j, (s'.own j).owed = (s.own j).owed) : Counted s' := by
  unfold Counted
  rw [cancelled, lost]
  rcases counted with ⟨all, none⟩ | ⟨t, zero, owes, others⟩
  · exact Or.inl ⟨all, fun j => (owed j).trans (none j)⟩
  · exact Or.inr ⟨t, zero, (owed t).trans owes, fun j other => (owed j).trans (others j other)⟩

/-- A step of a thread that owes nothing more or less for it. -/
theorem Counted.staying {s s' : Shared ι} (counted : Counted s) {i : ι} {own : Own}
    (moved : s'.own = Function.update s.own i own) (cancelled : s'.cancelled = s.cancelled)
    (lost : s'.lost = s.lost) (owed : own.owed = (s.own i).owed) : Counted s' := by
  refine counted.same cancelled lost fun j => ?_
  rw [moved]
  exact (Function.forall_update_iff _ (fun j (own : Own) => own.owed = (s.own j).owed)).mpr
    ⟨owed, fun _ _ => rfl⟩ j

/-- A wait that is given up, the first one. -/
theorem Counted.give {s s' : Shared ι} (counted : Counted s) (counts : Counts s) {i : ι} {own : Own}
    (first : s.lost = ∅)
    (moved : s'.own = Function.update s.own i own) (cancelled : s'.cancelled = s.cancelled)
    (lost : s'.lost = s.lost ∪ s.flying) (owed : own.owed = s.inFlight) : Counted s' := by
  have clear : s.cancelled = 0 ∧ ∀ j, j ≠ i → (s.own j).owed = 0 := by
    rcases counted with ⟨all, none⟩ | ⟨t, zero, owes, others⟩
    · rw [first] at all
      exact ⟨all, fun j _ => none j⟩
    · rw [first] at owes
      refine ⟨zero, fun j _ => ?_⟩
      by_cases same : j = t
      · rw [same]
        exact owes
      · exact others j same
  refine Or.inr ⟨i, cancelled.trans clear.1, ?_, fun j other => ?_⟩
  · rw [moved, Function.update_self, lost, first, Finset.empty_union, owed, counts.inFlight]
  · rw [moved, Function.update_of_ne other]
    exact clear.2 j other

/-- A thread counts what it owes. -/
theorem Counted.pay {s s' : Shared ι} (counted : Counted s) {i : ι} {own : Own}
    (moved : s'.own = Function.update s.own i own)
    (cancelled : s'.cancelled = s.cancelled + (s.own i).owed) (lost : s'.lost = s.lost)
    (owed : own.owed = 0) : Counted s' := by
  have other : ∀ j, j ≠ i → s'.own j = s.own j := fun j apart => by
    rw [moved, Function.update_of_ne apart]
  have here : (s'.own i).owed = 0 := by
    rw [moved, Function.update_self]
    exact owed
  unfold Counted
  rw [cancelled, lost]
  rcases counted with ⟨all, none⟩ | ⟨t, zero, owes, others⟩
  · refine Or.inl ⟨by rw [none, add_zero, all], fun j => ?_⟩
    by_cases same : j = i
    · rw [same]
      exact here
    · rw [other j same]
      exact none j
  · by_cases same : t = i
    · subst same
      refine Or.inl ⟨by rw [zero, owes, zero_add], fun j => ?_⟩
      by_cases apart : j = t
      · rw [apart]
        exact here
      · rw [other j apart]
        exact others j apart
    · refine Or.inr ⟨t, by rw [zero, others i (Ne.symm same), add_zero], ?_, fun j apart => ?_⟩
      · rw [other t same]
        exact owes
      · by_cases mine : j = i
        · rw [mine]
          exact here
        · rw [other j mine]
          exact others j apart

theorem counted_kept {s : Shared ι} {i : ι} {op : Op} {reply : Reply op} (counted : Counted s)
    (counts : Counts s) (conduct : Conduct (s.own i) op) (permitted : (thread i).permits s op reply)
    (meets : orderly s op reply) : Counted ((thread i).after s op reply) := by
  have moved := own_after s i op reply
  cases op with
  | inl op => exact counted.staying moved rfl rfl (guardStep_flags op reply).2.2.2
  | inr op =>
    cases op with
    | admission => cases reply <;> exact counted.staying moved rfl rfl rfl
    | poll deadline =>
      cases reply with
      | none => exact counted.staying moved rfl rfl rfl
      | some remaining =>
        have found : remaining = s.inFlight := permitted
        by_cases none : remaining = 0
        · have same : s.lifeStep i (.poll deadline) (some remaining) = s := if_neg (not_not.mpr none)
          have cancelled := congrArg Shared.cancelled same
          have lost := congrArg Shared.lost same
          exact counted.staying moved cancelled lost (none.trans conduct.2.symm)
        · have gave : s.lifeStep i (.poll deadline) (some remaining) = { s with lost := s.lost ∪ s.flying } :=
            if_pos none
          have cancelled := congrArg Shared.cancelled gave
          have lost := congrArg Shared.lost gave
          exact counted.give counts (meets none).2 moved cancelled lost found
    | countCancelled remaining =>
      have owes : (s.own i).owed = remaining := conduct
      exact counted.pay moved (congrArg (s.cancelled + ·) owes.symm) rfl rfl
    | readOutcome => cases reply <;> exact counted.staying moved rfl rfl rfl
    | _ => exact counted.staying moved rfl rfl rfl

/-! ### Runs -/

variable {condition : Condition ι} {c c' : Gateway ι}

theorem Gateway.ReachedBy.reached (reached : c.ReachedBy condition) : c.Reached := by
  have weaker : ∀ c c' : Gateway ι, Config.Step (threads condition) Begins c c' →
      Config.Step (threads anyhow) Begins c c' := by
    intro c c' step
    cases step with
    | act i pending reply permitted => exact .act i pending reply ⟨permitted.1, trivial⟩
    | start i ended starts => exact .start i ended starts
  exact Relation.ReflTransGen.mono weaker _ _ reached

theorem Gateway.ReachedBy.safe (reached : c.ReachedBy orderly) : Safe c.shared ∧ Counted c.shared := by
  have counted : Counted (.initial : Shared ι) := Or.inl ⟨rfl, fun _ => rfl⟩
  have start : (Gateway.initial : Gateway ι).Reached := .refl
  have counts : Counts (.initial : Shared ι) := Gateway.ReachedBy.counts start
  have all : Counts c.shared ∧ Safe c.shared ∧ Counted c.shared := by
    refine reached.state (P := fun s => Counts s ∧ Safe s ∧ Counted s) ⟨counts, safe_initial, counted⟩
      fun s i op reply all conduct permitted meets => ?_
    obtain ⟨counts, safe, counted⟩ := all
    exact ⟨counts_kept s i op reply counts conduct, safe_kept safe counts conduct permitted meets,
      counted_kept counted counts conduct permitted meets⟩
  exact all.2

/-- A guard that is quiet stays so, whatever the threads go on to do. -/
theorem Gateway.Reached.quiet (reached : c.Reached) (quiet : Quiet c.shared)
    (later : Config.Reachable (threads anyhow) Begins c c') : Quiet c'.shared := by
  induction later with
  | refl => exact quiet
  | tail before step ih =>
    cases step with
    | act i pending reply permitted =>
      exact quiet_kept ih (Gateway.ReachedBy.conduct (reached.trans before) pending) permitted.1
    | start i ended starts => exact ih

/-- A thread that has ended owes nothing. -/
theorem Gateway.ReachedBy.owed (reached : c.ReachedBy condition) {i : ι} (ended : (c.threads i).Ended) :
    (c.shared.own i).owed = 0 := by
  have along := reached.along i
  cases left : c.threads i with
  | done a => rw [left] at along; exact along.1.settled
  | raise raised => rw [left] at along; exact along.1.settled
  | call op next => rw [left] at ended; exact ended.elim
  | stuck op => rw [left] at ended; exact ended.elim

/-- **Shutdown leaves no lock behind.** The queries in flight are those that were admitted and have not
exited, and none is admitted while draining. In an orderly run the guard of a shutdown that has reported no
guard holds no lock then or later, and every query that was given up is counted once, or is still to be
counted by one thread. -/
theorem shutdown_leaves_nothing (c : Gateway ι) (reached : c.Reached) :
    (c.shared.inFlight = c.shared.admitted - c.shared.exited ∧ 0 ≤ c.shared.inFlight) ∧
      (c.shared.draining = true → ∀ c', Config.Reachable (threads anyhow) Begins c c' →
        c'.shared.admitted = c.shared.admitted) ∧
      (c.ReachedBy orderly →
        (∀ t outcome, c.threads t = .done (.shutDown outcome) → outcome.guardsHeld = [] →
          ∀ c', Config.Reachable (threads anyhow) Begins c c' →
            c'.shared.guard.held = [] ∧ ∀ state ∈ c'.shared.guard.handles, state.lock = none) ∧
        (c.shared.cancelled = c.shared.lost.card ∨
          c.shared.cancelled = 0 ∧ ∃ t, ¬ (c.threads t).Ended ∧ (c.shared.own t).owed = c.shared.lost.card)) := by
  have counts := Gateway.ReachedBy.counts reached
  refine ⟨⟨?_, ?_⟩, fun draining c' later => (reachable_draining draining later).2, fun orderly => ?_⟩
  · have balance : (c.shared.admitted : ℤ) = c.shared.exited + c.shared.flying.card := by
      exact_mod_cast counts.balance
    rw [counts.inFlight, balance, add_sub_cancel_left]
  · rw [counts.inFlight]
    exact Int.natCast_nonneg _
  · obtain ⟨safe, counted⟩ := orderly.safe
    refine ⟨fun t outcome returned none c' later => ?_, ?_⟩
    · have along := orderly.along t
      rw [returned] at along
      have quiet := Gateway.Reached.quiet reached (safe.sure t (along.2 outcome rfl none)) later
      exact ⟨quiet.held, quiet.unlocked⟩
    · rcases counted with ⟨all, _⟩ | ⟨t, zero, owes, _⟩
      · exact Or.inl all
      · by_cases ended : (c.threads t).Ended
        · have none : (c.shared.lost.card : ℤ) = 0 := owes.symm.trans (orderly.owed ended)
          exact Or.inl (zero.trans none.symm)
        · exact Or.inr ⟨zero, t, ended, owes⟩

/-! ### A query that is overtaken -/

instance (s : Shared Bool) (op : Op) (reply : Reply op) : Decidable (orderly s op reply) := by
  cases op with
  | inl op =>
    cases op with
    | store entry => exact inferInstanceAs (Decidable (s.guard.get? entry.name = none))
    | _ => exact isTrue trivial
  | inr op =>
    cases op with
    | heldNames => exact inferInstanceAs (Decidable (s.letting = []))
    | poll deadline =>
      cases reply with
      | none => exact isTrue trivial
      | some remaining =>
        exact inferInstanceAs (Decidable (remaining ≠ 0 → (∀ j, (s.own j).phase ≠ .entering) ∧ s.lost = ∅))
    | _ => exact isTrue trivial

/-- A query that has begun. -/
def queryBegun : Gateway Bool :=
  ⟨.initial, Function.update (Gateway.initial : Gateway Bool).threads false (query defaults 1)⟩

/-- A query and a shutdown that have begun. -/
def bothBegun : Gateway Bool :=
  ⟨.initial, Function.update queryBegun.threads true
    (shutdown defaults 1 none >>= fun outcome => .done (.shutDown outcome))⟩

theorem bothBegun_reached (condition : Condition Bool) : bothBegun.ReachedBy condition := by
  have first : Config.Step (threads condition) Begins Gateway.initial queryBegun :=
    .start false trivial (.query defaults 1)
  have second : Config.Step (threads condition) Begins queryBegun bothBegun :=
    .start true trivial (.shutdown defaults 1 none)
  exact .tail (.tail .refl first) second

/-- What a shutdown has returned. -/
def shutDown? : LifeProgram Answer → Option DrainOutcome
  | .done (.shutDown outcome) => some outcome
  | _ => none

theorem shutDown?_some {p : LifeProgram Answer} {outcome : DrainOutcome}
    (returned : shutDown? p = some outcome) : p = .done (.shutDown outcome) := by
  unfold shutDown? at returned
  split at returned
  · cases returned
    rfl
  · cases returned

/-- The steps of such a schedule, as far as they meet a condition. -/
def playBegun (condition : Condition Bool) [∀ s op reply, Decidable (condition s op reply)]
    (schedule : List Bool) (c : Gateway Bool) : Gateway Bool :=
  Config.play (threads condition)
    (fun _ s op => if condition s op (hasty s op) then some (hasty s op) else none) schedule c

theorem playBegun_reachable (condition : Condition Bool) [∀ s op reply, Decidable (condition s op reply)]
    (schedule : List Bool) (c : Gateway Bool) :
    Config.Reachable (threads condition) Begins c (playBegun condition schedule c) := by
  refine Config.play_reachable (fun i s op reply answered => ?_) schedule c
  split at answered
  · rename_i meets
    cases answered
    exact ⟨hasty_permitted i s op, meets⟩
  · cases answered

instance (s : Shared Bool) (op : Op) (reply : Reply op) : Decidable (anyhow s op reply) := isTrue trivial

/-- A query is about to try its first lock when the shutdown starts, gives it up and returns. -/
def overtaken : Gateway Bool :=
  playBegun anyhow (List.replicate 9 false ++ List.replicate 20 true) bothBegun

/-- The shutdown has reported that no guard is held, and two steps later the query holds one. -/
theorem shutdown_overtaken : ∃ (c c' : Gateway Bool) (outcome : DrainOutcome),
    c.Reached ∧ c.threads true = .done (.shutDown outcome) ∧ outcome.guardsHeld = [] ∧
      Config.Reachable (threads anyhow) Begins c c' ∧
        c'.shared.guard.held = [⟨"admission.lock", .shared, 0⟩] := by
  have returned : shutDown? (overtaken.threads true) = some ⟨false, 0, 1, 1, 0, []⟩ := by decide +kernel
  have taken : (playBegun anyhow [false, false] overtaken).shared.guard.held =
      [⟨"admission.lock", .shared, 0⟩] := by decide +kernel
  refine ⟨overtaken, _, _, ?_, shutDown?_some returned, rfl, playBegun_reachable anyhow [false, false] _, taken⟩
  exact (bothBegun_reached anyhow).trans (playBegun_reachable anyhow _ _)

/-- The query has exited when the shutdown starts. -/
def undisturbed : Gateway Bool :=
  playBegun orderly (List.replicate 60 false ++ List.replicate 20 true) bothBegun

/-- A shutdown after a query: the guard that it reports free stays free. -/
theorem shutdown_leaves_nothing_undisturbed : ∃ outcome : DrainOutcome,
    undisturbed.threads true = .done (.shutDown outcome) ∧ outcome.finished = 1 ∧
      ∀ c', Config.Reachable (threads anyhow) Begins undisturbed c' →
        c'.shared.guard.held = [] ∧ ∀ state ∈ c'.shared.guard.handles, state.lock = none := by
  have returned : shutDown? (undisturbed.threads true) = some ⟨true, 1, 0, 0, 0, []⟩ := by decide +kernel
  have reached : undisturbed.ReachedBy orderly :=
    (bothBegun_reached orderly).trans (playBegun_reachable orderly _ _)
  have shut := shutDown?_some returned
  refine ⟨_, shut, rfl, fun c' later => ?_⟩
  exact ((shutdown_leaves_nothing undisturbed reached.reached).2.2 reached).1 true _ shut rfl c' later

end AxiomMcp.Lifecycle
