/-
**The conduct of a thread.**

What every thread keeps to by itself, whatever the others do to the guard and the counters (`Conduct`):
it takes locks only on its way into a query, leaves no handle in hand, gives up a wait only after it has
started the drain, counts what it has found, and stores an outcome without guards only if it has seen that
none was held.

* `ownMachine`: the steps of a thread on its own history, with any answers at all;
* `begins_conduct`: the three methods keep to the conduct.
-/

import AxiomMcp.Lifecycle.Model

namespace AxiomMcp.Lifecycle

open Lib Program Machine Guard

/-- The steps of a thread, on its own history. -/
def ownMachine : Machine Op Reply Own where
  permits _ _ _ := True
  after own op := match op with
    | .inl op => own.guardStep op
    | .inr op => own.lifeStep op

/-- The steps of the guard's engine, on the history of a thread. -/
def handMachine : Machine GuardOp GuardReply Own where
  permits _ _ _ := True
  after own op := own.guardStep op

/-- An operation by which a lock is taken. -/
def GuardOp.Taking : GuardOp → Prop
  | .tryLock _ _ | .store _ => True
  | _ => False

/-- Locks are taken on the way into a query only. -/
def HandConduct (own : Own) (op : GuardOp) : Prop := GuardOp.Taking op → own.phase = .entering

/-- What a thread keeps to. -/
def Conduct (own : Own) : Op → Prop
  | .inl op => HandConduct own op
  | .inr .admission => own.phase = .outside ∧ own.taking = []
  | .inr .work => own.phase = .entering ∧ own.taking = []
  | .inr .exit => own.phase ≠ .outside ∧ own.taking = []
  | .inr (.poll _) => own.drained = true ∧ own.owed = 0
  | .inr (.countCancelled remaining) => own.owed = remaining
  | .inr .heldNames => own.waited = true
  | .inr (.remember outcome) => outcome.guardsHeld = [] → own.sure = true
  | _ => True

/-- A thread between two calls. -/
structure Idle (own : Own) : Prop where
  outside : own.phase = .outside
  empty : own.taking = []
  settled : own.owed = 0

/-- A thread at the end of a call. -/
def Returned (outcome : Except Raised Answer) (own : Own) : Prop :=
  Idle own ∧ ∀ seen, outcome = .ok (.shutDown seen) → seen.guardsHeld = [] → own.sure = true

/-! ### The engine -/

section Engine

variable {py : Interpreter} {settings : Guard.Settings} {rounds : ℕ} {own : Own} {α : Type}

/-- A part of the engine that leaves no handle in hand. -/
def KeepsHand (p : GuardProgram α) (own : Own) : Prop :=
  handMachine.Along HandConduct (fun _ after => after = own) p own

theorem KeepsHand.bind {β : Type} {p : GuardProgram α} {f : α → GuardProgram β} (first : KeepsHand p own)
    (next : ∀ a, KeepsHand (f a) own) : KeepsHand (p >>= f) own :=
  Along.bind first (fun a after same => by rw [same]; exact next a) fun _ _ same => same

theorem KeepsHand.resume {β : Type} {p : GuardProgram α} {k : Except Raised α → GuardProgram β}
    (first : KeepsHand p own) (next : ∀ outcome, KeepsHand (k outcome) own) :
    KeepsHand (p.resume k) own :=
  Along.resume first fun outcome after same => by rw [same]; exact next outcome

/-- An operation that does not change the hand. -/
theorem keepsHand_call {op : GuardOp} {next : GuardReply op → GuardProgram α} (other : ¬ GuardOp.Taking op)
    (same : ∀ reply, own.guardStep op reply = own) (each : ∀ reply, KeepsHand (next reply) own) :
    KeepsHand (.call op next) own :=
  along_call (fun taking => absurd taking other) fun reply _ => by
    show handMachine.Along _ _ _ (own.guardStep op reply)
    rw [same]
    exact each reply

theorem keepsHand_ofExcept (outcome : Except Raised α) :
    KeepsHand (ofExcept outcome : GuardProgram α) own :=
  along_ofExcept rfl

theorem makeDirectory_keeps : KeepsHand makeDirectory own :=
  keepsHand_call not_false (fun _ => rfl) keepsHand_ofExcept

theorem openFile_keeps (name : Text) : KeepsHand (openFile name) own :=
  keepsHand_call not_false (fun _ => rfl) keepsHand_ofExcept

theorem identity_keeps (handle : Handle) : KeepsHand (identity handle) own :=
  keepsHand_call not_false (fun _ => rfl) keepsHand_ofExcept

theorem fileIdentity_keeps (name : Text) : KeepsHand (fileIdentity name) own :=
  keepsHand_call not_false (fun _ => rfl) fun _ => keepsHand_ofExcept _

theorem clock_keeps : KeepsHand clock own := keepsHand_call not_false (fun _ => rfl) fun _ => rfl

theorem sleep_keeps (seconds : ℚ) : KeepsHand (sleep seconds) own :=
  keepsHand_call not_false (fun _ => rfl) keepsHand_ofExcept

theorem unlock_keeps (handle : Handle) : KeepsHand (unlock handle) own :=
  keepsHand_call not_false (fun _ => rfl) keepsHand_ofExcept

/-- Closing a handle while none is in hand. -/
theorem closeHandle_keeps (empty : own.taking = []) (handle : Handle) :
    KeepsHand (closeHandle handle) own := by
  refine keepsHand_call not_false (fun reply => ?_) keepsHand_ofExcept
  show { own with taking := own.taking.filter _ } = own
  rw [empty]
  cases own
  cases empty
  rfl

theorem openVerifiedFrom_keeps (empty : own.taking = []) (name : Text) (attempts : ℕ)
    (last : Option (Text × Text)) : KeepsHand (openVerifiedFrom py settings name attempts last) own := by
  induction attempts generalizing last with
  | zero => exact rfl
  | succ attempts ih =>
    refine (openFile_keeps name).bind fun handle => ?_
    refine KeepsHand.resume ?_ fun outcome => ?_
    · exact (identity_keeps handle).bind fun opened => (fileIdentity_keeps name).bind fun _ => rfl
    · split
      · exact (closeHandle_keeps empty handle).bind fun _ => rfl
      · exact rfl
      · split
        · exact rfl
        · refine (closeHandle_keeps empty handle).bind fun _ => ?_
          exact (sleep_keeps _).bind fun _ => ih _

/-- The hand after a wait for a handle: with the handle, if it got its lock. -/
def Grasped (own : Own) (handle : Handle) (outcome : Except Raised Unit) (after : Own) : Prop :=
  match outcome with
  | .ok _ => after = { own with taking := [handle] }
  | .error _ => after = own

theorem checkCancelled_keeps (name : Text) (started : ℚ) :
    KeepsHand (checkCancelled settings name started) own := by
  unfold checkCancelled
  split
  · refine KeepsHand.bind (keepsHand_call not_false (fun _ => rfl) keepsHand_ofExcept) fun cancels => ?_
    split
    · exact (clock_keeps.bind fun _ => rfl : KeepsHand (elapsedMs started) own).bind fun _ => rfl
    · exact rfl
  · exact rfl

theorem waitFor_grasps (empty : own.taking = []) (entering : own.phase = .entering) (name : Text)
    (mode : LockMode) (handle : Handle) (started deadline : ℚ) (rounds : ℕ) (delay : ℚ) :
    handMachine.Along HandConduct (Grasped own handle)
      (waitFor settings name mode handle started deadline rounds delay) own := by
  induction rounds generalizing delay with
  | zero => exact fun _ => entering
  | succ rounds ih =>
    refine Along.bind (checkCancelled_keeps name started) (fun _ after same => ?_) fun _ _ same => same
    obtain rfl := same
    refine along_call (fun _ => entering) fun attempted _ => ?_
    cases attempted with
    | ok _ =>
      show ({ after with taking := handle :: after.taking } : Own) = _
      rw [empty]
    | error raised =>
      show handMachine.Along _ _ (if isBusy raised = true then _ else _) after
      split
      · refine Along.bind clock_keeps (fun now after' same => ?_) fun _ _ same => same
        obtain rfl := same
        show handMachine.Along _ _ (if deadline - now ≤ 0 then _ else _) after'
        split
        · have elapsed : KeepsHand (elapsedMs started) after' := clock_keeps.bind fun _ => rfl
          exact Along.bind elapsed (fun _ _ same => same) fun _ _ same => same
        · exact Along.bind (sleep_keeps _) (fun _ _ same => same ▸ ih _) fun _ _ same => same
      · exact rfl

theorem lockOpened_keeps (empty : own.taking = []) (entering : own.phase = .entering) (name : Text)
    (mode : LockMode) (handle : Handle) :
    KeepsHand (lockOpened settings rounds name mode handle) own := by
  refine clock_keeps.bind fun started => ?_
  refine Along.resume (waitFor_grasps empty entering name mode handle started _ rounds _) ?_
  intro outcome after grasped
  cases outcome with
  | error raised =>
    obtain rfl : after = own := grasped
    exact (closeHandle_keeps empty handle).bind fun _ => rfl
  | ok _ =>
    obtain rfl : after = { own with taking := [handle] } := grasped
    refine along_call (fun _ => entering) fun _ _ => ?_
    show ({ own with taking := [handle].filter (· ≠ handle) } : Own) = own
    rw [List.filter_singleton, decide_eq_false (not_not.mpr rfl), ← empty]
    rfl

theorem acquireOne_keeps (empty : own.taking = []) (entering : own.phase = .entering) (name : Text)
    (mode : LockMode) : KeepsHand (acquireOne py settings rounds name mode) own := by
  unfold acquireOne
  split
  · exact rfl
  refine keepsHand_call not_false (fun _ => rfl) fun closed => ?_
  split
  · exact rfl
  refine keepsHand_call not_false (fun _ => rfl) fun held => ?_
  split
  · exact rfl
  refine keepsHand_call not_false (fun _ => rfl) fun table => ?_
  split
  · exact rfl
  refine makeDirectory_keeps.bind fun _ => ?_
  refine (openVerifiedFrom_keeps empty name _ _).bind fun handle => ?_
  exact lockOpened_keeps empty entering name mode handle

theorem releaseHeld_keeps (empty : own.taking = []) (held : HeldLock) :
    KeepsHand (releaseHeld held) own :=
  (unlock_keeps held.handle).resume fun outcome =>
    (closeHandle_keeps empty held.handle).bind fun _ => keepsHand_ofExcept outcome

theorem release_keeps (empty : own.taking = []) (name : Text) : KeepsHand (release name) own := by
  refine keepsHand_call not_false (fun _ => rfl) fun popped => ?_
  split
  · exact rfl
  · exact releaseHeld_keeps empty _

theorem presentNames_keeps (names : List Text) : KeepsHand (presentNames names) own := by
  induction names with
  | nil => exact rfl
  | cons name rest ih => exact keepsHand_call not_false (fun _ => rfl) fun held => ih.bind fun _ => rfl

theorem releaseEach_keeps (empty : own.taking = []) (names failures : List Text) :
    KeepsHand (releaseEach names failures) own := by
  induction names generalizing failures with
  | nil =>
    unfold releaseEach
    split
    · exact rfl
    · exact rfl
  | cons name rest ih =>
    have named : KeepsHand (releaseNamed name) own := by
      refine keepsHand_call not_false (fun _ => rfl) fun popped => ?_
      split
      · exact rfl
      · refine (releaseHeld_keeps empty _).resume fun outcome => ?_
        split
        · exact rfl
        · exact rfl
        · exact rfl
    exact named.bind fun _ => ih _

theorem releaseAll_keeps (empty : own.taking = []) : KeepsHand releaseAll own := by
  have names : KeepsHand releaseNames own :=
    (presentNames_keeps releaseOrder).bind fun order =>
      keepsHand_call not_false (fun _ => rfl) fun _ => rfl
  exact names.bind fun _ => releaseEach_keeps empty _ _

theorem takeSteps_keeps (empty : own.taking = []) (entering : own.phase = .entering) (steps : List Step) :
    KeepsHand (takeSteps py settings rounds steps) own := by
  induction steps with
  | nil => exact rfl
  | cons step rest ih =>
    have first : KeepsHand (step.program py settings rounds) own := by
      cases step with
      | take name mode => exact (acquireOne_keeps empty entering name mode).bind fun _ => rfl
      | drop name => exact release_keeps empty name
    exact first.bind fun _ => ih

theorem enter_keeps (empty : own.taking = []) (entering : own.phase = .entering)
    (specs : List (Text × LockMode)) (early : List Text) (attempts : ℤ) :
    KeepsHand (enter py settings rounds specs early attempts) own := by
  have from_ : ∀ attempts failure,
      KeepsHand (enterFrom py settings rounds (stepsOf specs early) attempts failure) own := by
    intro attempts
    induction attempts with
    | zero => exact fun _ => rfl
    | succ attempts ih =>
      intro failure
      refine (takeSteps_keeps empty entering _).resume fun outcome => ?_
      cases outcome with
      | ok _ => exact rfl
      | error raised =>
        show KeepsHand (if endsWait raised = true then _ else _) own
        split
        · exact (releaseAll_keeps empty).bind fun _ => ih _
        · exact rfl
  unfold enter
  split
  · exact rfl
  · exact from_ _ _

end Engine

/-! ### The methods -/

theorem handPart : Part handMachine ownMachine id Sum.inl (fun _ reply => reply) :=
  ⟨fun _ _ _ _ => trivial, fun _ _ _ => rfl⟩

/-- A part of the engine, as a part of a method. -/
theorem inject_conduct {p : GuardProgram Unit} {own : Own} (keeps : KeepsHand p own) :
    ownMachine.Along Conduct (fun _ after => after = own) (inject p) own :=
  (Along.embed handPart (fun _ => True) (fun _ _ _ _ _ _ => trivial) (fun _ _ _ conduct => conduct) trivial
    keeps).post fun _ _ same => same.1

section Methods

variable {settings : Settings} {rounds : ℕ} {own : Own}

/-- A step of the lifecycle. -/
theorem life_conduct {op : LifeOp} {post : Except Raised (LifeReply op) → Own → Prop}
    (conduct : Conduct own (.inr op)) (ends : ∀ reply, post (.ok reply) (own.lifeStep op reply)) :
    ownMachine.Along Conduct post (life op) own :=
  along_call conduct fun reply _ => ends reply

/-- A thread inside of a query, with nothing in hand. -/
structure InQuery (own : Own) : Prop where
  inside : own.phase ≠ .outside
  empty : own.taking = []
  settled : own.owed = 0

theorem guarded_conduct (empty : own.taking = []) (entering : own.phase = .entering)
    (settled : own.owed = 0) :
    ownMachine.Along Conduct (fun _ after => InQuery after) (guarded settings rounds) own := by
  have within : InQuery own := ⟨fun outside => (nomatch entering.symm.trans outside), empty, settled⟩
  refine (inject_conduct (enter_keeps empty entering _ _ _)).bind (fun _ after same => ?_)
    fun _ _ same => same ▸ within
  obtain rfl := same
  have body : ownMachine.Along Conduct (fun _ after => InQuery after) block after :=
    along_call ⟨entering, empty⟩ fun _ _ => along_ofExcept ⟨(fun outside => nomatch outside), empty, settled⟩
  refine body.ensure fun _ later inside => ?_
  refine (inject_conduct (releaseAll_keeps inside.empty)).post fun closing _ same => ?_
  obtain rfl := same
  cases closing with
  | ok _ => exact inside
  | error _ => exact inside

theorem query_conduct (idle : Idle own) :
    ownMachine.Along Conduct Returned (query settings rounds) own := by
  refine along_call ⟨idle.outside, idle.empty⟩ fun (admitted : Bool) _ => ?_
  cases admitted with
  | false => exact ⟨idle, fun _ none => nomatch none⟩
  | true =>
    let entering : Own := { own with phase := .entering }
    show ownMachine.Along _ _ _ entering
    have empty : entering.taking = [] := idle.empty
    have exits : ownMachine.Along Conduct (fun outcome after => Idle after)
        ((guarded settings rounds).ensure (life .exit)) entering := by
      refine (guarded_conduct empty rfl idle.settled).ensure fun outcome inside within => ?_
      exact life_conduct ⟨within.inside, within.empty⟩ fun _ => ⟨rfl, within.empty, within.settled⟩
    refine exits.bind (fun _ _ idle => ⟨idle, fun _ same => ?_⟩) fun _ _ idle => ⟨idle, fun _ same => ?_⟩
    · cases same
    · cases same

/-- A thread that has given a drain its time: outside of queries, and what it found is counted. -/
structure Waited (own : Own) : Prop where
  idle : Idle own
  waited : own.waited = true

theorem waitForQueries_conduct (idle : Idle own) (drained : own.drained = true) (deadline : ℚ)
    (rounds : ℕ) :
    ownMachine.Along Conduct (fun outcome after => ∃ remaining, outcome = .ok remaining ∧
      after = { own with waited := true, owed := remaining }) (waitForQueries deadline rounds) own := by
  induction rounds with
  | zero => exact ⟨drained, idle.settled⟩
  | succ rounds ih =>
    refine along_call ⟨drained, idle.settled⟩ fun ended _ => ?_
    cases ended with
    | none => exact ih
    | some remaining => exact ⟨remaining, rfl, rfl⟩

theorem cutShort_conduct {remaining : ℤ} (outside : own.phase = .outside) (empty : own.taking = [])
    (waited : own.waited = true) (owed : own.owed = remaining) :
    ownMachine.Along Conduct (fun _ after => Waited after) (cutShort remaining) own := by
  unfold cutShort
  split
  · have counts : ownMachine.Along Conduct (fun _ after => Waited after)
        (life (.countCancelled remaining)) own :=
      life_conduct owed fun _ => ⟨⟨outside, empty, rfl⟩, waited⟩
    refine counts.bind (fun _ after counted => ?_) fun _ _ counted => counted
    exact (inject_conduct (releaseAll_keeps counted.idle.empty)).post fun _ _ same => same ▸ counted
  · rename_i none
    exact ⟨⟨outside, empty, owed.trans (not_not.mp none)⟩, waited⟩

/-- What a drain leaves behind: it has seen the guards it reports. -/
def Drained (outcome : Except Raised DrainOutcome) (own : Own) : Prop :=
  Idle own ∧ ∀ seen, outcome = .ok seen →
    own.waited = true ∧ (seen.guardsHeld = [] → own.sure = true)

theorem drain_conduct (idle : Idle own) (timeout : Option ℚ) :
    ownMachine.Along Conduct Drained (drain settings rounds timeout) own := by
  refine along_call trivial fun _ _ => ?_
  let started : Own := { own with drained := true }
  have began : Idle started := ⟨idle.outside, idle.empty, idle.settled⟩
  show ownMachine.Along _ _ (ofExcept (resolveBudget settings timeout) >>= _) started
  cases resolveBudget settings timeout with
  | error refused => exact ⟨began, fun _ none => nomatch none⟩
  | ok budget =>
    refine along_call trivial fun first _ => along_call trivial fun (now : ℚ) _ => ?_
    show ownMachine.Along _ _ (waitForQueries (now + budget) rounds >>= _) started
    refine (waitForQueries_conduct began rfl _ _).bind (fun remaining after ended => ?_)
      fun raised _ ended => nomatch ended.choose_spec.1
    obtain ⟨_, same, rfl⟩ := ended
    obtain rfl := Except.ok.inj same
    refine along_call trivial fun last _ => ?_
    have cut : ownMachine.Along Conduct (fun _ after => Waited after) (cutShort remaining)
        { started with waited := true, owed := remaining } :=
      cutShort_conduct began.outside began.empty rfl rfl
    refine cut.bind (fun _ after waited => ?_) fun _ _ waited => ⟨waited.idle, fun _ none => nomatch none⟩
    refine along_call trivial fun finished _ => along_call waited.waited fun (names : List Text) _ => ?_
    refine ⟨⟨waited.idle.outside, waited.idle.empty, waited.idle.settled⟩, fun seen same => ?_⟩
    obtain rfl := Except.ok.inj same
    exact ⟨waited.waited, fun none => decide_eq_true none⟩

theorem shutdown_conduct (idle : Idle own) (timeout : Option ℚ) :
    ownMachine.Along Conduct (fun outcome after => Idle after ∧ ∀ seen, outcome = .ok seen →
      seen.guardsHeld = [] → after.sure = true) (shutdown settings rounds timeout) own := by
  refine along_call trivial fun stored _ => ?_
  cases stored with
  | some outcome =>
    refine ⟨⟨idle.outside, idle.empty, idle.settled⟩, fun seen same none => ?_⟩
    obtain rfl := Except.ok.inj same
    exact decide_eq_true none
  | none =>
    refine (drain_conduct idle timeout).bind (fun outcome after drained => ?_)
      fun _ _ drained => ⟨drained.1, fun _ none => nomatch none⟩
    obtain ⟨idle, seen⟩ := drained
    obtain ⟨waited, _⟩ := seen outcome rfl
    refine (inject_conduct (releaseAll_keeps idle.empty)).bind (fun _ after' same => ?_)
      fun _ _ same => ⟨same ▸ idle, fun _ none => nomatch none⟩
    obtain rfl := same
    refine along_call waited fun (names : List Text) _ => ?_
    let final : DrainOutcome :=
      if names ≠ outcome.guardsHeld then { outcome with guardsHeld := names } else outcome
    have reports : final.guardsHeld = names := by
      show (if names ≠ outcome.guardsHeld then _ else outcome : DrainOutcome).guardsHeld = names
      split
      · rfl
      · rename_i same
        exact (not_not.mp same).symm
    have sure : final.guardsHeld = [] → decide (names = []) = true := fun none =>
      decide_eq_true (reports.symm.trans none)
    refine along_call sure fun _ _ => ⟨⟨idle.outside, idle.empty, idle.settled⟩, fun seen same none => ?_⟩
    obtain rfl := Except.ok.inj same
    exact sure none

/-- **The conduct of a thread**: every method keeps to it. -/
theorem begins_conduct {ι : Type} {i : ι} {p : LifeProgram Answer} (begins : Begins i p)
    (idle : Idle own) : ownMachine.Along Conduct Returned p own := by
  cases begins with
  | query settings rounds => exact query_conduct idle
  | drain settings rounds timeout =>
    refine (drain_conduct idle timeout).bind (fun _ _ drained => ⟨drained.1, fun _ same => ?_⟩)
      fun _ _ drained => ⟨drained.1, fun _ same => ?_⟩
    · cases same
    · cases same
  | shutdown settings rounds timeout =>
    refine (shutdown_conduct idle timeout).bind (fun outcome _ shut => ⟨shut.1, fun seen same => ?_⟩)
      fun _ _ shut => ⟨shut.1, fun _ same => ?_⟩
    · obtain rfl : outcome = seen := by cases same; rfl
      exact shut.2 outcome rfl
    · cases same

end Methods

end AxiomMcp.Lifecycle
