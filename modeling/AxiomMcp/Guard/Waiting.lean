/-
**The bounded wait ends on time.**

`Watch` follows the clock along a wait: what it shows at least, how long the wait has slept, how often it tried the
lock and how the last attempt went. `timer` permits every clock that advances by the time slept, every pattern of
contention and every pattern of cancellation.

* `waitFor_completes`: one round brings the deadline nearer by the first pause at least, or to its
  end; the sleeps are paid by the clock (`Awake`), and the rounds by the time that remains;
* `lockOpened_completes` — **the wait of an acquisition ends, whatever happens: it tries the lock unless it was
  cancelled first, sleeps no longer than its budget and never longer than the longest pause at once, times out only
  behind its deadline and a busy attempt, and lets no `GuardBusy` escape**.
-/

import AxiomMcp.Guard.Engine
import AxiomMcp.Lib.Completion
import Mathlib.Tactic.Linarith

namespace AxiomMcp.Guard

open Lib Program Machine

/-! ### The clock -/

/-- What is known of a wait. -/
structure Watch where
  /-- The clock shows at least this. -/
  now : ℚ
  /-- The first reading of the clock. -/
  first : Option ℚ
  slept : ℚ
  attempts : ℕ
  /-- The last attempt found the lock busy. -/
  busy : Bool
  /-- The caller has cancelled. -/
  cancels : Bool

/-- A wait that has not begun. -/
def Watch.initial (now : ℚ) : Watch := ⟨now, none, 0, 0, false, false⟩

/-- What an operation of a wait does. -/
def Watch.after (watch : Watch) : (op : GuardOp) → GuardReply op → Watch
  | .clock, reading => { watch with now := reading, first := some (watch.first.getD reading) }
  | .sleep seconds, .ok _ => { watch with now := watch.now + seconds, slept := watch.slept + seconds }
  | .sleep seconds, .error _ => { watch with slept := watch.slept + seconds }
  | .tryLock _ _, .ok _ => { watch with attempts := watch.attempts + 1, busy := false }
  | .tryLock _ _, .error raised => { watch with attempts := watch.attempts + 1, busy := isBusy raised }
  | .cancelled, .ok cancels => { watch with cancels := cancels }
  | .cancelled, .error _ => { watch with cancels := true }
  | _, _ => watch

/-- An exception of the guard itself. -/
def Raised.isGuard : Raised → Bool
  | .guard _ => true
  | _ => false

/-- The clock advances by the time slept. An attempt does not end a wait itself, and no callback and no operation
of the system raises an exception of the guard. -/
def Watch.permits (watch : Watch) : (op : GuardOp) → GuardReply op → Prop
  | .clock, reading => watch.now ≤ reading
  | .tryLock _ _, .error raised => endsWait raised = false
  | .cancelled, .error raised => Raised.isGuard raised = false
  | .sleep _, .error raised => Raised.isGuard raised = false
  | .closeHandle _, .error raised => Raised.isGuard raised = false
  | _, _ => True

/-- A clock, a lock others contend for, and a caller that may cancel. -/
def timer : Machine GuardOp GuardReply Watch := ⟨Watch.permits, Watch.after⟩

/-! ### What holds of a wait -/

/-- The budget in seconds. -/
def Settings.budget (settings : Settings) : ℚ := settings.timeoutMs / 1000

/-- At each operation: the wait has not slept longer than its budget, and if it sleeps now, then not longer than the
longest pause and still within the budget. -/
def OnTime (settings : Settings) (watch : Watch) (op : GuardOp) : Prop :=
  watch.slept ≤ settings.budget ∧ ∀ seconds, op = .sleep seconds →
    0 ≤ seconds ∧ seconds ≤ retryMaxMs / 1000 ∧ watch.slept + seconds ≤ settings.budget

/-- At its end. -/
structure Timely {α : Type} (settings : Settings) (outcome : Except Raised α) (watch : Watch) : Prop where
  slept : watch.slept ≤ settings.budget
  /-- The lock was tried, unless the caller cancelled first. -/
  attempted : watch.attempts = 0 → watch.cancels = true
  /-- No `GuardBusy` escapes. -/
  contained : ∀ raised, outcome = .error raised → isBusy raised = false
  /-- A `GuardTimeout` comes behind the deadline and a busy attempt. -/
  timeout : ∀ error, outcome = .error (.guard error) → error.kind = .timeout → watch.busy = true ∧
    ∃ started, watch.first = some started ∧ started + settings.budget ≤ watch.now

/-- The clock pays for the sleeps of a wait. -/
structure Awake (settings : Settings) (started : ℚ) (watch : Watch) : Prop where
  first : watch.first = some started
  paid : watch.slept ≤ watch.now - started
  within : watch.slept ≤ settings.budget

section Wait

variable {settings : Settings} {started : ℚ} {watch : Watch} {name : Text} {mode : LockMode} {handle : Handle}

theorem Awake.onTime (awake : Awake settings started watch) {op : GuardOp}
    (waking : ∀ seconds, op ≠ .sleep seconds) : OnTime settings watch op :=
  ⟨awake.within, fun seconds same => (waking seconds same).elim⟩

/-- A reading of the clock. -/
theorem Awake.read (awake : Awake settings started watch) {reading : ℚ} (later : watch.now ≤ reading) :
    Awake settings started (watch.after .clock reading) := by
  refine ⟨?_, ?_, awake.within⟩
  · change some (watch.first.getD reading) = some started
    rw [awake.first]
    rfl
  · change watch.slept ≤ reading - started
    linarith [awake.paid]

/-- An attempt. -/
theorem Awake.tried (awake : Awake settings started watch) (handle : Handle) (mode : LockMode)
    (reply : Except Raised Unit) :
    Awake settings started (watch.after (.tryLock handle mode) reply) := by
  cases reply with
  | ok _ => exact ⟨awake.first, awake.paid, awake.within⟩
  | error raised => exact ⟨awake.first, awake.paid, awake.within⟩

/-- A question whether the caller cancels. -/
theorem Awake.asked (awake : Awake settings started watch) (reply : Except Raised Bool) :
    Awake settings started (watch.after .cancelled reply) := by
  cases reply with
  | ok _ => exact ⟨awake.first, awake.paid, awake.within⟩
  | error raised => exact ⟨awake.first, awake.paid, awake.within⟩

/-- What is no exception of the guard is neither busy nor a timeout. -/
theorem timely_foreign {α : Type} (slept : watch.slept ≤ settings.budget)
    (attempted : watch.attempts = 0 → watch.cancels = true) {raised : Raised}
    (foreign : Raised.isGuard raised = false) : Timely settings (.error raised : Except Raised α) watch := by
  refine ⟨slept, attempted, ?_, ?_⟩
  · rintro _ ⟨rfl⟩
    cases raised <;> first | rfl | cases foreign
  · rintro error ⟨rfl⟩
    cases foreign

/-- Whether the caller cancels. -/
theorem checkCancelled_completes (awake : Awake settings started watch) :
    timer.Completes (OnTime settings) (fun outcome after =>
      (∀ _ : outcome = .ok (), Awake settings started after ∧ after.now = watch.now) ∧
        ∀ raised, outcome = .error raised → Timely settings (.error raised : Except Raised Unit) after)
      (checkCancelled settings name started) watch := by
  unfold checkCancelled
  split
  · refine completes_call (awake.onTime fun seconds wrong => by cases wrong) fun reply permitted => ?_
    have asked := awake.asked reply
    cases reply with
    | error raised =>
      refine ⟨(fun wrong => by cases wrong), ?_⟩
      rintro _ ⟨rfl⟩
      exact timely_foreign asked.within (fun _ => rfl) permitted
    | ok cancels =>
      cases cancels with
      | false => exact ⟨fun _ => ⟨asked, rfl⟩, fun raised wrong => by cases wrong⟩
      | true =>
        refine completes_call (asked.onTime fun seconds wrong => by cases wrong) fun reading later => ?_
        have read := asked.read later
        refine ⟨(fun wrong => by cases wrong), ?_⟩
        rintro _ ⟨rfl⟩
        refine ⟨read.within, fun _ => rfl, ?_, ?_⟩
        · rintro _ ⟨rfl⟩
          rfl
        · rintro error ⟨rfl⟩ wrong
          cases wrong
  · exact ⟨fun _ => ⟨awake, rfl⟩, fun raised wrong => by cases wrong⟩

/-- The pause before the next attempt but one. -/
theorem pause_doubled {delay : ℚ} (pause : retryInitialMs / 1000 ≤ delay ∧ delay ≤ retryMaxMs / 1000) :
    (retryInitialMs / 1000 : ℚ) ≤ min (delay * 2) (retryMaxMs / 1000) ∧
      min (delay * 2) (retryMaxMs / 1000) ≤ (retryMaxMs / 1000 : ℚ) := by
  obtain ⟨low, high⟩ := pause
  have positive : (0 : ℚ) ≤ retryInitialMs / 1000 := by positivity
  exact ⟨le_min (by linarith) (low.trans high), min_le_right _ _⟩

/-- One round: it ends the wait, or sleeps for the pause or to the deadline and leaves the rest to
the next round. -/
theorem waitFor_round (rounds : ℕ) {delay : ℚ} (awake : Awake settings started watch)
    (pause : retryInitialMs / 1000 ≤ delay ∧ delay ≤ retryMaxMs / 1000)
    (again : ∀ later, Awake settings started later → watch.now < started + settings.budget →
      (watch.now + retryInitialMs / 1000 ≤ later.now ∨ started + settings.budget ≤ later.now) →
      timer.Completes (OnTime settings) (Timely settings) (waitFor settings name mode handle started
        (started + settings.budget) rounds (min (delay * 2) (retryMaxMs / 1000))) later) :
    timer.Completes (OnTime settings) (Timely settings)
      (waitFor settings name mode handle started (started + settings.budget) (rounds + 1) delay) watch := by
  have positive : (0 : ℚ) ≤ retryInitialMs / 1000 := by positivity
  refine (checkCancelled_completes awake).bind (fun _ asked checked => ?_) fun raised ended checked =>
    checked.2 raised rfl
  obtain ⟨awake, now⟩ := checked.1 rfl
  refine completes_call (awake.onTime fun seconds wrong => by cases wrong) fun attempted permitted => ?_
  have tried := awake.tried handle mode attempted
  cases attempted with
  | ok _ =>
    refine ⟨tried.within, fun none => (Nat.succ_ne_zero _ none).elim, ?_, ?_⟩
    · exact fun raised wrong => by cases wrong
    · exact fun error wrong => by cases wrong
  | error raised =>
    change timer.Completes _ _ (if isBusy raised = true then _ else _) _
    split
    · next busy =>
      refine completes_call (tried.onTime fun seconds wrong => by cases wrong) fun reading later => ?_
      have read := tried.read later
      have since : watch.now ≤ reading := now ▸ later
      change timer.Completes _ _ (if started + settings.budget - reading ≤ 0 then _ else _) _
      split
      · next beyond =>
        -- Behind the deadline the wait is over.
        refine completes_call (read.onTime fun seconds wrong => by cases wrong) fun last afterwards => ?_
        have read' := read.read afterwards
        refine ⟨read'.within, fun none => (Nat.succ_ne_zero _ none).elim, ?_, ?_⟩
        · rintro _ ⟨rfl⟩
          rfl
        · rintro error _ _
          refine ⟨busy, started, read'.first, ?_⟩
          have passed : reading ≤ last := afterwards
          change started + settings.budget ≤ last
          linarith
      · next remains =>
        -- Before it the wait sleeps, for no longer than what remains.
        have remaining : 0 < started + settings.budget - reading := not_le.mp remains
        have paid : asked.slept ≤ reading - started := read.paid
        have short : min delay (started + settings.budget - reading) ≤ started + settings.budget - reading :=
          min_le_right _ _
        have small : min delay (started + settings.budget - reading) ≤ delay := min_le_left _ _
        have forward : 0 ≤ min delay (started + settings.budget - reading) :=
          le_min (positive.trans pause.1) remaining.le
        refine completes_call ⟨read.within, ?_⟩ fun slept permitted => ?_
        · rintro seconds ⟨rfl⟩
          refine ⟨forward, small.trans pause.2, ?_⟩
          change asked.slept + _ ≤ _
          linarith
        cases slept with
        | error raised =>
          refine timely_foreign ?_ (fun none => (Nat.succ_ne_zero _ none).elim) permitted
          change asked.slept + _ ≤ _
          linarith
        | ok _ =>
          refine again _ ⟨read.first, ?_, ?_⟩ (by linarith) ?_
          · change asked.slept + _ ≤ reading + _ - started
            linarith
          · change asked.slept + _ ≤ _
            linarith
          · change watch.now + _ ≤ reading + _ ∨ _ ≤ reading + _
            rcases le_total delay (started + settings.budget - reading) with whole | rest
            · rw [min_eq_left whole]
              left
              linarith [pause.1]
            · rw [min_eq_right rest]
              right
              linarith
    · next free =>
      refine ⟨tried.within, fun none => (Nat.succ_ne_zero _ none).elim, ?_, ?_⟩
      · rintro _ ⟨rfl⟩
        exact Bool.eq_false_iff.mpr free
      · rintro error ⟨rfl⟩ timeout
        have ends : endsWait (.guard error) = true := by
          rw [endsWait, timeout]
          rfl
        have honest : endsWait (.guard error) = false := permitted
        rw [ends] at honest
        cases honest

/-- **The loop ends in the rounds that the remaining time allows.** -/
theorem waitFor_completes (rounds : ℕ) {delay : ℚ} (awake : Awake settings started watch)
    (pause : retryInitialMs / 1000 ≤ delay ∧ delay ≤ retryMaxMs / 1000)
    (room : started + settings.budget - watch.now ≤ rounds * (retryInitialMs / 1000)) :
    timer.Completes (OnTime settings) (Timely settings)
      (waitFor settings name mode handle started (started + settings.budget) (rounds + 1) delay) watch := by
  induction rounds generalizing delay watch with
  | zero =>
    refine waitFor_round 0 awake pause fun later _ before _ => ?_
    rw [Nat.cast_zero, zero_mul] at room
    linarith
  | succ rounds ih =>
    refine waitFor_round (rounds + 1) awake pause fun later awake' _ progress => ?_
    refine ih awake' (pause_doubled pause) ?_
    have positive : (0 : ℚ) ≤ rounds * (retryInitialMs / 1000) := by positivity
    rw [Nat.cast_succ, add_mul, one_mul] at room
    rcases progress with nearer | beyond
    · linarith
    · linarith

/-- The rounds that are enough for a budget. -/
def waitRounds (settings : Settings) : ℕ := settings.timeoutMs / retryInitialMs + 1

theorem budget_le (settings : Settings) (more : ℕ) :
    settings.budget ≤ (waitRounds settings + more : ℕ) * (retryInitialMs / 1000) := by
  have whole : settings.timeoutMs ≤ (waitRounds settings + more) * retryInitialMs := by
    unfold waitRounds retryInitialMs
    omega
  have cast : (settings.timeoutMs : ℚ) ≤ (waitRounds settings + more : ℕ) * retryInitialMs := by
    exact_mod_cast whole
  rw [Settings.budget, mul_div_assoc']
  exact div_le_div_of_nonneg_right cast (by norm_num)

end Wait

/-- **The wait of an acquisition ends on time.** -/
theorem lockOpened_completes (settings : Settings) (name : Text) (mode : LockMode) (handle : Handle) (now : ℚ)
    (more : ℕ) :
    timer.Completes (OnTime settings) (Timely settings)
      (lockOpened settings (waitRounds settings + more + 1) name mode handle) (Watch.initial now) := by
  have nonneg : 0 ≤ settings.budget := by
    unfold Settings.budget
    positivity
  refine completes_call ⟨nonneg, fun seconds wrong => by cases wrong⟩ fun started later => ?_
  have awake : Awake settings started (Watch.after (Watch.initial now) .clock started) :=
    ⟨rfl, by change (0 : ℚ) ≤ started - started; linarith, nonneg⟩
  have room : started + settings.budget - started ≤
      (waitRounds settings + more : ℕ) * (retryInitialMs / 1000) := by
    linarith [budget_le settings more]
  have pause : (retryInitialMs / 1000 : ℚ) ≤ retryInitialMs / 1000 ∧
      (retryInitialMs / 1000 : ℚ) ≤ retryMaxMs / 1000 := by
    norm_num [retryInitialMs, retryMaxMs]
  refine (waitFor_completes _ awake pause room).resume fun outcome watch timely => ?_
  cases outcome with
  | error raised =>
    refine completes_call ⟨timely.slept, fun seconds wrong => by cases wrong⟩ fun closing permitted => ?_
    cases closing with
    | error other => exact timely_foreign timely.slept timely.attempted permitted
    | ok _ =>
      refine ⟨timely.slept, timely.attempted, ?_, ?_⟩
      · rintro _ ⟨rfl⟩
        exact timely.contained raised rfl
      · rintro error ⟨rfl⟩
        exact timely.timeout error rfl
  | ok _ =>
    refine completes_call ⟨timely.slept, fun seconds wrong => by cases wrong⟩ fun _ _ => ?_
    exact ⟨timely.slept, timely.attempted, (fun raised wrong => by cases wrong), fun error wrong => by cases wrong⟩

end AxiomMcp.Guard
