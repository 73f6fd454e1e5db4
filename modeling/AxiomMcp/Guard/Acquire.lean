/-
**One acquisition.**

What `acquireOne` does to a guard, whatever it is answered (`acquireOne_along`). It starts from a guard
`start` and

* if it returns, `start` admits the acquisition (`Admits`) and the guard is `start` with handles it has
  done with (`Spent`), the locked handle of the entry and the entry at the end of its table;
* if it raises, the guard is `start` with handles it has done with;
* in between it is always at one of the points of `Amid`.
-/

import AxiomMcp.Guard.Table

namespace AxiomMcp.Guard

open Lib Program Machine

variable {py : Interpreter} {settings : Settings} {rounds : ℕ}

/-! ### Handles that are done with -/

/-- A handle without a lock that is closed, or left open because its identity could not be read. -/
structure HandleState.Settled (state : HandleState) : Prop where
  lock : state.lock = none
  wanted : state.wanted = none
  isOpen : state.isOpen = state.lapsed

/-- A guard later on: with nothing but some handles more that are done with. -/
structure Spent (start guard : SolutionGuard) : Prop where
  held : guard.held = start.held
  closed : guard.closed = start.closed
  handles : ∃ spent, guard.handles = start.handles ++ spent ∧ ∀ state ∈ spent, state.Settled

namespace Spent

variable {start mid guard : SolutionGuard}

theorem refl (guard : SolutionGuard) : Spent guard guard :=
  ⟨rfl, rfl, [], (List.append_nil _).symm, fun _ none => nomatch none⟩

theorem trans (one : Spent start mid) (two : Spent mid guard) : Spent start guard := by
  obtain ⟨first, handles, settled⟩ := one.handles
  obtain ⟨second, handles', settled'⟩ := two.handles
  refine ⟨two.held.trans one.held, two.closed.trans one.closed, first ++ second, ?_, ?_⟩
  · rw [handles', handles, List.append_assoc]
  · intro state member
    rcases List.mem_append.mp member with early | late
    · exact settled state early
    · exact settled' state late

theorem opened (spent : Spent start mid) {state : HandleState} (settled : state.Settled) :
    Spent start (mid.opened state) :=
  spent.trans ⟨rfl, rfl, [state], rfl, fun other member => by
    rw [List.mem_singleton.mp member]
    exact settled⟩

theorem get? (spent : Spent start guard) (name : Text) : guard.get? name = start.get? name := by
  rw [SolutionGuard.get?, spent.held, SolutionGuard.get?]

end Spent

/-- A closed handle that did not lapse is done with. -/
theorem settled_shut {state : HandleState} (whole : state.lapsed = false) : state.shut.Settled :=
  ⟨rfl, rfl, whole.symm⟩

/-! ### Points of an acquisition -/

/-- What the checks of an acquisition let pass. -/
structure Admits (guard : SolutionGuard) (name : Text) : Prop where
  declared : name ∈ lockFileNames
  isOpen : guard.closed = false
  absent : guard.get? name = none
  ordered : ∀ held ∈ guard.held, position held.name ≤ position name

/-- An operation that touches neither the table nor a lock. -/
def GuardOp.Quiet : GuardOp → Prop
  | .store _ | .pop _ | .markClosed | .tryLock _ _ | .unlock _ => False
  | _ => True

/-- Where an acquisition of `name` from `start` stands when it asks something. -/
inductive Amid (start : SolutionGuard) (name : Text) (mode : LockMode) : SolutionGuard → GuardOp → Prop
  /-- No handle is in hand. -/
  | without {guard : SolutionGuard} {op : GuardOp} (spent : Spent start guard) (quiet : op.Quiet) :
      Amid start name mode guard op
  /-- A handle without a lock is in hand. -/
  | opened {mid : SolutionGuard} {state : HandleState} {op : GuardOp} (admits : Admits start name)
      (spent : Spent start mid) (file : state.file = name) (lock : state.lock = none)
      (isOpen : state.isOpen = true) (wanted : ∀ wants, state.wanted = some wants → wants = mode)
      (step : op.Quiet ∨ op = .tryLock mid.handles.length mode) :
      Amid start name mode (mid.opened state) op
  /-- The handle in hand has its lock. -/
  | locked {mid : SolutionGuard} (admits : Admits start name) (spent : Spent start mid) :
      Amid start name mode (mid.opened ⟨name, some mode, true, false, none⟩)
        (.store ⟨name, mode, mid.handles.length⟩)

/-- The guard after an acquisition of `name` from `start`. -/
def Acquired (start : SolutionGuard) (name : Text) (mode : LockMode) :
    Except Raised HeldLock → SolutionGuard → Prop
  | .ok entry, guard => Admits start name ∧ ∃ mid, Spent start mid ∧
      entry = ⟨name, mode, mid.handles.length⟩ ∧
      guard = ⟨start.held ++ [entry], start.closed,
        mid.handles ++ [⟨name, some mode, true, false, none⟩]⟩
  | .error _, guard => Spent start guard

section Points

variable {start mid : SolutionGuard} {name : Text} {mode : LockMode}

/-! ### The handle in hand -/

theorem after_identity (guard : SolutionGuard) (state : HandleState) (reply : Except Raised Text) :
    machine.after (guard.opened state) (.identity guard.handles.length) reply =
      guard.opened (state.read reply) :=
  SolutionGuard.update_last _ _

theorem after_tryLock (guard : SolutionGuard) (state : HandleState) (mode : LockMode)
    (reply : Except Raised Unit) :
    machine.after (guard.opened state) (.tryLock guard.handles.length mode) reply =
      guard.opened (state.tried mode reply) :=
  SolutionGuard.update_last _ _

theorem after_closeHandle (guard : SolutionGuard) (state : HandleState) (reply : Except Raised Unit) :
    machine.after (guard.opened state) (.closeHandle guard.handles.length) reply =
      guard.opened state.shut :=
  SolutionGuard.update_last _ _

/-! ### The verified open -/

/-- The guard after an open of `name` from `start`. -/
def Opened (start : SolutionGuard) (name : Text) : Except Raised Handle → SolutionGuard → Prop
  | .ok handle, guard => ∃ mid, Spent start mid ∧ handle = mid.handles.length ∧
      guard = mid.opened (.fresh name)
  | .error _, guard => Spent start guard

theorem openVerifiedFrom_along (admits : Admits start name) (attempts : ℕ) (last : Option (Text × Text))
    (spent : Spent start mid) :
    machine.Along (Amid start name mode) (Opened start name)
      (openVerifiedFrom py settings name attempts last) mid := by
  induction attempts generalizing mid last with
  | zero => exact spent
  | succ attempts ih =>
    refine along_call (.without spent trivial) fun reply permitted => ?_
    cases reply with
    | error raised => exact spent
    | ok handle =>
      obtain rfl : handle = mid.handles.length := permitted handle rfl
      have here : ∀ op, GuardOp.Quiet op → Amid start name mode (mid.opened (.fresh name)) op :=
        fun op quiet => .opened admits spent rfl rfl rfl (fun _ none => nomatch none) (.inl quiet)
      have done : Spent start (mid.opened (HandleState.fresh name).shut) :=
        spent.opened (settled_shut rfl)
      show machine.Along _ _ _ (mid.opened (.fresh name))
      refine along_call (here _ trivial) fun opened _ => ?_
      rw [after_identity]
      cases opened with
      | error raised =>
        cases raised with
        | os fault =>
          refine along_call (here _ trivial) fun closing _ => ?_
          rw [after_closeHandle]
          cases closing with
          | error raised => exact done
          | ok _ => exact done
        | _ => exact spent.opened ⟨rfl, rfl, rfl⟩
      | ok opened =>
        refine along_call (here _ trivial) fun current _ => ?_
        show machine.Along _ _ _ (mid.opened (.fresh name))
        cases current with
        | error fault =>
          refine along_call (here _ trivial) fun closing _ => ?_
          rw [after_closeHandle]
          cases closing with
          | error raised => exact done
          | ok _ => exact done
        | ok current =>
          show machine.Along _ _ (if opened = current then _ else _) _
          split
          · exact ⟨mid, spent, rfl, rfl⟩
          · refine along_call (here _ trivial) fun closing _ => ?_
            rw [after_closeHandle]
            cases closing with
            | error raised => exact done
            | ok _ =>
              refine along_call (.without done trivial) fun slept _ => ?_
              cases slept with
              | error raised => exact done
              | ok _ => exact ih _ done

/-! ### The bounded wait -/

/-- A guard while it waits: a handle without a lock is in hand. -/
structure Waiting (start mid : SolutionGuard) (name : Text) (mode : LockMode) (state : HandleState) :
    Prop where
  admits : Admits start name
  spent : Spent start mid
  file : state.file = name
  lock : state.lock = none
  isOpen : state.isOpen = true
  whole : state.lapsed = false
  wanted : ∀ wants, state.wanted = some wants → wants = mode

theorem Waiting.amid {state : HandleState} (waiting : Waiting start mid name mode state) {op : GuardOp}
    (step : op.Quiet ∨ op = .tryLock mid.handles.length mode) :
    Amid start name mode (mid.opened state) op :=
  .opened waiting.admits waiting.spent waiting.file waiting.lock waiting.isOpen waiting.wanted step

/-- An attempt that fails leaves the handle without a lock. -/
theorem Waiting.failed {state : HandleState} (waiting : Waiting start mid name mode state)
    (raised : Raised) : Waiting start mid name mode (state.tried mode (.error raised)) := by
  refine ⟨waiting.admits, waiting.spent, waiting.file, waiting.lock, waiting.isOpen, waiting.whole, ?_⟩
  intro wants same
  change (if isBusy raised then some mode else none) = some wants at same
  split at same
  · exact (Option.some.inj same).symm
  · cases same

/-- An attempt that succeeds. -/
theorem Waiting.granted {state : HandleState} (waiting : Waiting start mid name mode state) :
    state.tried mode (.ok ()) = ⟨name, some mode, true, false, none⟩ := by
  show HandleState.mk state.file (some mode) state.isOpen state.lapsed none = _
  rw [waiting.file, waiting.isOpen, waiting.whole]

/-- The end of a wait: with the lock, or still without it. -/
def Waited (start mid : SolutionGuard) (name : Text) (mode : LockMode) :
    Except Raised Unit → SolutionGuard → Prop
  | .ok _, guard => guard = mid.opened ⟨name, some mode, true, false, none⟩
  | .error _, guard => ∃ state, Waiting start mid name mode state ∧ guard = mid.opened state

theorem checkCancelled_along {state : HandleState} (waiting : Waiting start mid name mode state)
    (started : ℚ) :
    machine.Along (Amid start name mode) (fun _ guard => guard = mid.opened state)
      (checkCancelled settings name started) (mid.opened state) := by
  unfold checkCancelled
  split
  · refine along_call (waiting.amid (.inl trivial)) fun reply _ => ?_
    cases reply with
    | error raised => rfl
    | ok cancels =>
      cases cancels with
      | false => rfl
      | true => exact along_call (waiting.amid (.inl trivial)) fun _ _ => rfl
  · rfl

theorem waitFor_along {state : HandleState} (waiting : Waiting start mid name mode state)
    (started deadline : ℚ) (rounds : ℕ) (delay : ℚ) :
    machine.Along (Amid start name mode) (Waited start mid name mode)
      (waitFor settings name mode mid.handles.length started deadline rounds delay)
      (mid.opened state) := by
  induction rounds generalizing state delay with
  | zero => exact waiting.amid (.inr rfl)
  | succ rounds ih =>
    refine (checkCancelled_along waiting started).bind (fun _ guard same => ?_)
      fun raised guard same => ⟨state, waiting, same⟩
    rw [same]
    refine along_call (waiting.amid (.inr rfl)) fun attempted _ => ?_
    rw [after_tryLock]
    cases attempted with
    | ok _ =>
      rw [waiting.granted]
      exact rfl
    | error raised =>
      have failed := waiting.failed raised
      show machine.Along _ _ (if isBusy raised = true then _ else _) _
      split
      · refine along_call (failed.amid (.inl trivial)) fun now _ => ?_
        show machine.Along _ _ (if deadline - now ≤ 0 then _ else _) (mid.opened _)
        split
        · exact along_call (failed.amid (.inl trivial)) fun _ _ => ⟨_, failed, rfl⟩
        · refine along_call (failed.amid (.inl trivial)) fun slept _ => ?_
          cases slept with
          | error raised => exact ⟨_, failed, rfl⟩
          | ok _ => exact ih failed _
      · exact ⟨_, failed, rfl⟩

/-! ### The acquisition -/

theorem lockOpened_along (admits : Admits start name) (spent : Spent start mid) :
    machine.Along (Amid start name mode) (Acquired start name mode)
      (lockOpened settings rounds name mode mid.handles.length) (mid.opened (.fresh name)) := by
  have waiting : Waiting start mid name mode (.fresh name) :=
    ⟨admits, spent, rfl, rfl, rfl, rfl, fun _ none => nomatch none⟩
  refine along_call (waiting.amid (.inl trivial)) fun started _ => ?_
  show machine.Along _ _ ((waitFor settings name mode mid.handles.length started _ rounds _).resume _) _
  refine (waitFor_along waiting _ _ _ _).resume fun outcome guard waited => ?_
  cases outcome with
  | error raised =>
    obtain ⟨state, still, rfl⟩ := waited
    refine along_call (still.amid (.inl trivial)) fun closing _ => ?_
    rw [after_closeHandle]
    have done : Spent start (mid.opened state.shut) := spent.opened (settled_shut still.whole)
    cases closing with
    | error _ => exact done
    | ok _ => exact done
  | ok _ =>
    obtain rfl : guard = mid.opened ⟨name, some mode, true, false, none⟩ := waited
    refine along_call (.locked admits spent) fun _ _ => ⟨admits, mid, spent, rfl, ?_⟩
    have absent : (mid.opened ⟨name, some mode, true, false, none⟩).get? name = none :=
      (spent.get? name).trans admits.absent
    show SolutionGuard.store _ _ = _
    rw [SolutionGuard.store_new absent]
    show SolutionGuard.mk (mid.held ++ _) mid.closed _ = _
    rw [spent.held, spent.closed]
    rfl

/-- **One acquisition.** -/
theorem acquireOne_along (start : SolutionGuard) (name : Text) (mode : LockMode) :
    machine.Along (Amid start name mode) (Acquired start name mode)
      (acquireOne py settings rounds name mode) start := by
  have here : ∀ op, GuardOp.Quiet op → Amid start name mode start op :=
    fun op quiet => .without (.refl start) quiet
  have refused := Spent.refl start
  unfold acquireOne
  split
  · exact refused
  next declared =>
  refine along_call (here _ trivial) fun closed permitted => ?_
  obtain rfl : closed = start.closed := permitted
  split
  · exact refused
  next isOpen =>
  refine along_call (here _ trivial) fun held permitted => ?_
  obtain rfl : held = start.get? name := permitted
  split
  · exact refused
  next absent =>
  refine along_call (here _ trivial) fun table permitted => ?_
  obtain rfl : table = start.held := permitted
  split
  · exact refused
  next ordered =>
  have admits : Admits start name := by
    refine ⟨not_not.mp declared, Bool.not_eq_true _ ▸ isOpen, absent, fun held member => ?_⟩
    simpa using List.find?_eq_none.mp ordered held member
  refine along_call (here _ trivial) fun made _ => ?_
  cases made with
  | error raised => exact refused
  | ok _ =>
    refine (openVerifiedFrom_along admits _ _ refused).bind (fun handle guard opened => ?_)
      fun raised guard spent => spent
    obtain ⟨mid, spent, rfl, rfl⟩ := opened
    exact lockOpened_along admits spent

end Points

end AxiomMcp.Guard
