/-
**A drain that raises.**

`drain` stops the admission before it looks at its timeout, and counts the queries it gives up before it releases
their guards. `drainFor` and `shutdownFor` are the two methods with everything a timeout can be, and
with or without a guard; `drain_eq` and `shutdown_eq` connect them to the methods of the model.

* `Midway` says of a state what a drain has done so far; `drainFor_along` where it stands when it ends;
* `methods_faultless_iff` — **a drain or shutdown that raises leaves everything as it was exactly if the drain had
  started before and it had nothing to count; one that returns has counted each query in flight once**.
-/

import AxiomMcp.Lifecycle.Model

namespace AxiomMcp.Lifecycle

open Lib Program Machine Guard

variable {ι : Type} [DecidableEq ι]

/-! ### The methods with every timeout -/

/-- What can be given as a timeout. -/
inductive Timeout
  | none
  | number (seconds : ℚ)
  /-- A float that is infinite or not a number. -/
  | notFinite
  /-- A `bool`, or what is neither `int` nor `float`. -/
  | illTyped
  deriving DecidableEq

/-- `self._resolve_budget(timeout_s)` -/
def resolveTimeout (settings : Settings) : Timeout → Except Raised ℚ
  | .none => .ok settings.drainTimeoutS
  | .number seconds => resolveBudget settings (some seconds)
  | .notFinite => .error (.gateway "LIMIT_EXCEEDED" "drain timeout must be in (0, 60.0]")
  | .illTyped => .error (.gateway "LIMIT_EXCEEDED" "drain timeout must be a number of seconds")

section Methods

variable (settings : Settings) (guarded : Bool) (rounds : ℕ)

/-- `self._guard.release_all()`, where there is a guard. -/
def releaseGuard : LifeProgram Unit := if guarded then inject releaseAll else .done ()

/-- `self._guard.held_names`, and no names without a guard. -/
def guardNames : LifeProgram (List Text) := if guarded then life .heldNames else .done []

/-- What a drain does about the queries that remain. -/
def cutShortFor (remaining : ℤ) : LifeProgram Unit :=
  if remaining ≠ 0 then do
    life (.countCancelled remaining)
    releaseGuard guarded
  else .done ()

/-- `self.drain(timeout_s)`, with what the timeout resolves to. -/
def drainWith (budget : Except Raised ℚ) : LifeProgram DrainOutcome := do
  life .startDrain
  let budget ← ofExcept budget
  let started ← life .clock
  let now ← life .clock
  let remaining ← waitForQueries (now + budget) rounds
  let ended ← life .clock
  cutShortFor guarded remaining
  let finished ← life .readFinished
  let names ← guardNames guarded
  .done ⟨remaining = 0, finished, remaining, remaining, ended - started, names⟩

/-- `self.shutdown(timeout_s)`, with what the timeout resolves to. -/
def shutdownWith (budget : Except Raised ℚ) : LifeProgram DrainOutcome :=
  .call (.inr .readOutcome) fun stored =>
    match stored with
    | some outcome => .done outcome
    | none => do
      let outcome ← drainWith guarded rounds budget
      releaseGuard guarded
      let names ← guardNames guarded
      let outcome := if names ≠ outcome.guardsHeld then { outcome with guardsHeld := names } else outcome
      life (.remember outcome)
      .done outcome

/-- `self.drain(timeout_s)` -/
def drainFor (timeout : Timeout) : LifeProgram DrainOutcome :=
  drainWith guarded rounds (resolveTimeout settings timeout)

/-- `self.shutdown(timeout_s)` -/
def shutdownFor (timeout : Timeout) : LifeProgram DrainOutcome :=
  shutdownWith guarded rounds (resolveTimeout settings timeout)

end Methods

/-! ### What a drain has done -/

/-- Admission, the counters and the stored outcome are as they were. -/
structure Kept (s s' : Shared ι) : Prop where
  draining : s'.draining = s.draining
  inFlight : s'.inFlight = s.inFlight
  finished : s'.finished = s.finished
  cancelled : s'.cancelled = s.cancelled
  outcome : s'.outcome = s.outcome

/-- A drain has stopped the admission and counted some queries as cancelled. -/
structure Midway (s : Shared ι) (counted : ℤ) (s' : Shared ι) : Prop where
  draining : s'.draining = true
  inFlight : s'.inFlight = s.inFlight
  finished : s'.finished = s.finished
  cancelled : s'.cancelled = s.cancelled + counted
  outcome : s'.outcome = s.outcome

section Steps

variable {i : ι} {s s' : Shared ι} {counted : ℤ}

omit [DecidableEq ι] in
theorem Kept.refl (s : Shared ι) : Kept s s := ⟨rfl, rfl, rfl, rfl, rfl⟩

omit [DecidableEq ι] in
/-- What a drain has done leaves a state as it was only if the drain had started, and nothing was counted. -/
theorem Midway.kept_iff (midway : Midway s counted s') : Kept s s' ↔ s.draining = true ∧ counted = 0 := by
  constructor
  · intro kept
    refine ⟨kept.draining.symm.trans midway.draining, ?_⟩
    have same := kept.cancelled.symm.trans midway.cancelled
    omega
  · rintro ⟨draining, rfl⟩
    refine ⟨midway.draining.trans draining.symm, midway.inFlight, midway.finished, ?_, midway.outcome⟩
    rw [midway.cancelled, add_zero]

omit [DecidableEq ι] in
/-- A step that leaves these fields alone. -/
theorem Midway.after (midway : Midway s counted s') {s'' : Shared ι} (kept : Kept s' s'') :
    Midway s counted s'' :=
  ⟨kept.draining.trans midway.draining, kept.inFlight.trans midway.inFlight,
    kept.finished.trans midway.finished, kept.cancelled.trans midway.cancelled,
    kept.outcome.trans midway.outcome⟩

theorem kept_guard (op : GuardOp) (reply : GuardReply op) : Kept s ((thread i).after s (.inl op) reply) :=
  ⟨rfl, rfl, rfl, rfl, rfl⟩

/-- Readings and rounds of a wait. -/
def LifeOp.Reads : LifeOp → Prop
  | .poll _ | .clock | .readFinished | .heldNames | .readOutcome => True
  | _ => False

theorem kept_reads {op : LifeOp} (reads : op.Reads) (reply : LifeReply op) :
    Kept s ((thread i).after s (.inr op) reply) := by
  cases op with
  | poll deadline =>
    cases reply with
    | none => exact ⟨rfl, rfl, rfl, rfl, rfl⟩
    | some remaining =>
      change Kept s (Shared.setOwn (if remaining ≠ 0 then _ else _) i _)
      split
      · exact ⟨rfl, rfl, rfl, rfl, rfl⟩
      · exact ⟨rfl, rfl, rfl, rfl, rfl⟩
  | clock => exact ⟨rfl, rfl, rfl, rfl, rfl⟩
  | readFinished => exact ⟨rfl, rfl, rfl, rfl, rfl⟩
  | heldNames => exact ⟨rfl, rfl, rfl, rfl, rfl⟩
  | readOutcome => exact ⟨rfl, rfl, rfl, rfl, rfl⟩
  | _ => exact reads.elim

theorem Midway.read (midway : Midway s counted s') (i : ι) (op : LifeOp) (reads : op.Reads) (reply : LifeReply op) :
    Midway s counted ((thread i).after s' (.inr op) reply) := midway.after (kept_reads reads reply)

theorem midway_startDrain (i : ι) (kept : Kept s s') : Midway s 0 ((thread i).after s' (.inr .startDrain) ()) :=
  ⟨rfl, kept.inFlight, kept.finished, by rw [add_zero]; exact kept.cancelled, kept.outcome⟩

theorem midway_counted (midway : Midway s 0 s') (remaining : ℤ) :
    Midway s remaining ((thread i).after s' (.inr (.countCancelled remaining)) ()) := by
  refine ⟨midway.draining, midway.inFlight, midway.finished, ?_, midway.outcome⟩
  change s'.cancelled + remaining = s.cancelled + remaining
  rw [midway.cancelled, add_zero]

end Steps

/-! ### A drain from any state -/

section Drain

variable {i : ι} {s s' : Shared ι} {counted : ℤ} {guarded : Bool} {rounds : ℕ} {budget : Except Raised ℚ}

/-- Releasing guards. -/
theorem releaseGuard_along (midway : Midway s counted s') :
    (thread i).Along (fun _ _ => True) (fun _ => Midway s counted) (releaseGuard guarded) s' := by
  unfold releaseGuard
  split
  · have only : (inject releaseAll).Only fun op : Op => ∃ inner : GuardOp, op = .inl inner :=
      only_embed _ fun op => ⟨op, rfl⟩
    refine (along_of_only (Midway s counted) only midway ?_).mono (fun _ _ _ => trivial) fun _ _ ends => ends
    rintro s'' _ reply holds ⟨inner, rfl⟩ _
    exact holds.after (kept_guard inner reply)
  · exact midway

theorem guardNames_along (midway : Midway s counted s') :
    (thread i).Along (fun _ _ => True) (fun outcome after => Midway s counted after ∧ ∃ names, outcome = .ok names)
      (guardNames guarded) s' := by
  unfold guardNames
  split
  · exact along_call trivial fun names _ => ⟨midway.read i .heldNames trivial names, names, rfl⟩
  · exact ⟨midway, [], rfl⟩

/-- A wait finds the queries that are in flight. -/
theorem waitForQueries_along (midway : Midway s counted s') (deadline : ℚ) (rounds : ℕ) :
    (thread i).Along (fun _ _ => True)
      (fun outcome after => Midway s counted after ∧ outcome = .ok s.inFlight)
      (waitForQueries deadline rounds) s' := by
  induction rounds generalizing s' with
  | zero => exact trivial
  | succ rounds ih =>
    refine along_call trivial fun remaining permitted => ?_
    have after := midway.read i (.poll deadline) trivial remaining
    cases remaining with
    | none => exact ih after
    | some remaining =>
      have found : remaining = s'.inFlight := permitted
      rw [midway.inFlight] at found
      exact ⟨after, congrArg Except.ok found⟩

/-- What a drain does about the queries that remain. -/
theorem cutShortFor_along (midway : Midway s 0 s') :
    (thread i).Along (fun _ _ => True)
      (fun outcome after => Midway s s.inFlight after ∧
        ∀ raised, outcome = .error raised → s.inFlight ≠ 0)
      (cutShortFor guarded s.inFlight) s' := by
  unfold cutShortFor
  split
  · next some =>
    refine along_call trivial fun _ _ => ?_
    refine (releaseGuard_along (midway_counted midway s.inFlight)).post fun outcome after ends => ?_
    exact ⟨ends, fun _ _ => some⟩
  · next none =>
    refine ⟨?_, fun raised wrong => by cases wrong⟩
    rw [not_not.mp none]
    exact midway

/-- Where a drain ends. -/
def DrainEnd (s : Shared ι) (budget : Except Raised ℚ) : Except Raised DrainOutcome → Shared ι → Prop
  | .ok _, s' => Midway s s.inFlight s' ∧ ∃ seconds, budget = .ok seconds
  | .error _, s' =>
    (∃ refusal, budget = .error refusal) ∧ Midway s 0 s' ∨
      (∃ seconds, budget = .ok seconds) ∧ Midway s s.inFlight s' ∧ s.inFlight ≠ 0

theorem drainWith_along (kept : Kept s s') :
    (thread i).Along (fun _ _ => True) (DrainEnd s budget) (drainWith guarded rounds budget) s' := by
  refine along_call trivial fun _ _ => ?_
  have midway := midway_startDrain i kept
  refine along_ofExcept_bind (fun seconds accepted => ?_) fun refusal refused =>
    Or.inl ⟨⟨refusal, refused⟩, midway⟩
  refine along_call trivial fun started _ => ?_
  have midway := midway.read i .clock trivial started
  refine along_call trivial fun now _ => ?_
  have midway := midway.read i .clock trivial now
  refine (waitForQueries_along midway _ rounds).bind ?_ fun raised after ends => by cases ends.2
  rintro remaining after ⟨midway, found⟩
  obtain rfl := Except.ok.inj found
  refine along_call trivial fun ended _ => ?_
  have midway := midway.read i .clock trivial ended
  refine (cutShortFor_along midway).bind ?_ fun raised after ends =>
    Or.inr ⟨⟨seconds, accepted⟩, ends.1, ends.2 raised rfl⟩
  rintro _ after ⟨midway, _⟩
  refine along_call trivial fun finished _ => ?_
  have midway := midway.read i .readFinished trivial finished
  refine (guardNames_along midway).bind ?_ fun raised after ends => by
    obtain ⟨_, names, wrong⟩ := ends
    cases wrong
  rintro names after ⟨midway, _⟩
  exact ⟨midway, seconds, accepted⟩

end Drain

/-! ### What a caller sees -/

/-- A call that raises has changed nothing. A call that returns has counted each query in flight as
cancelled once; or it answers the stored outcome of an earlier call, which has counted them, and
counts nothing. -/
def Faultless (s : Shared ι) : Except Raised DrainOutcome → Shared ι → Prop
  | .error _, s' => Kept s s'
  | .ok outcome, s' => s'.cancelled = s.cancelled + s'.inFlight ∨ s.outcome = some outcome ∧ Kept s s'

/-- A call that raises found the drain started, and its timeout was refused or no query was in flight. -/
def Harmless (s : Shared ι) (budget : Except Raised ℚ) (outcome : Except Raised DrainOutcome) : Prop :=
  ∀ raised, outcome = .error raised →
    s.draining = true ∧ ((∃ refusal, budget = .error refusal) ∨ s.inFlight = 0)

section Callers

variable {i : ι} {s s' : Shared ι} {guarded : Bool} {rounds : ℕ} {budget : Except Raised ℚ}
  {outcome : Except Raised DrainOutcome}

omit [DecidableEq ι] in
/-- A drain that ended is faultless exactly if it is harmless. -/
theorem faultless_of_drainEnd (ends : DrainEnd s budget outcome s') :
    Faultless s outcome s' ↔ Harmless s budget outcome := by
  cases outcome with
  | ok outcome =>
    refine iff_of_true (Or.inl ?_) fun raised wrong => by cases wrong
    rw [ends.1.cancelled, ends.1.inFlight]
  | error raised =>
    rcases ends with ⟨refused, midway⟩ | ⟨⟨seconds, accepted⟩, midway, some⟩
    · refine (midway.kept_iff).trans ⟨?_, fun harmless => ⟨(harmless raised rfl).1, rfl⟩⟩
      rintro ⟨draining, _⟩ _ _
      exact ⟨draining, Or.inl refused⟩
    · refine iff_of_false (fun kept => some (midway.kept_iff.mp kept).2) fun harmless => ?_
      rcases (harmless raised rfl).2 with ⟨refusal, refused⟩ | none
      · rw [accepted] at refused
        cases refused
      · exact some none

theorem drainWith_faultless : (thread i).Along (fun _ _ => True)
    (fun outcome s' => Faultless s outcome s' ↔ Harmless s budget outcome) (drainWith guarded rounds budget) s :=
  (drainWith_along (Kept.refl s)).post fun _ _ ends => faultless_of_drainEnd ends

theorem shutdownWith_faultless : (thread i).Along (fun _ _ => True)
    (fun outcome s' => Faultless s outcome s' ↔ Harmless s budget outcome)
    (shutdownWith guarded rounds budget) s := by
  refine along_call trivial fun stored permitted => ?_
  obtain rfl : stored = s.outcome := permitted
  have reads : LifeOp.Reads .readOutcome := trivial
  have kept : Kept s ((thread i).after s (.inr .readOutcome) s.outcome) := kept_reads reads _
  cases found : s.outcome with
  | some outcome =>
    rw [found] at kept
    refine iff_of_true (Or.inr ⟨found, kept⟩) fun raised wrong => by cases wrong
  | none =>
    rw [found] at kept
    refine (drainWith_along kept).bind (fun outcome after ends => ?_) fun raised after ends =>
      faultless_of_drainEnd ends
    obtain ⟨midway, seconds, accepted⟩ := ends
    refine (releaseGuard_along midway).bind (fun _ after midway => ?_) fun raised after midway => ?_
    · refine (guardNames_along midway).bind (fun names after ends => ?_) fun raised after ends => by
        obtain ⟨_, names, wrong⟩ := ends
        cases wrong
      refine along_call trivial fun _ _ => ?_
      refine iff_of_true (Or.inl ?_) fun raised wrong => by cases wrong
      change after.cancelled = s.cancelled + after.inFlight
      rw [ends.1.cancelled, ends.1.inFlight]
    · refine midway.kept_iff.trans ⟨?_, fun harmless => ⟨(harmless raised rfl).1, ?_⟩⟩
      · rintro ⟨draining, none⟩ _ _
        exact ⟨draining, Or.inr none⟩
      · rcases (harmless raised rfl).2 with ⟨refusal, refused⟩ | none
        · rw [accepted] at refused
          cases refused
        · exact none

end Callers

/-- **A drain or shutdown that raises leaves everything as it was exactly if the drain had started before and it had
nothing to count, and one that returns has counted each query in flight once.** -/
theorem methods_faultless_iff (settings : Settings) (guarded : Bool) (rounds : ℕ) (timeout : Timeout) (i : ι)
    (s : Shared ι) :
    (thread i).Along (fun _ _ => True)
        (fun outcome s' => Faultless s outcome s' ↔ Harmless s (resolveTimeout settings timeout) outcome)
        (drainFor settings guarded rounds timeout) s ∧
      (thread i).Along (fun _ _ => True)
        (fun outcome s' => Faultless s outcome s' ↔ Harmless s (resolveTimeout settings timeout) outcome)
        (shutdownFor settings guarded rounds timeout) s :=
  ⟨drainWith_faultless, shutdownWith_faultless⟩

/-- A drain with a timeout of the wrong type raises, and no query is admitted any more. -/
theorem drain_refused_drains : ∃ raised calls s',
    (thread (0 : Fin 1)).run (fun _ => hasty) (drainFor defaults true 1 .illTyped) [] .initial =
        some (.error raised, calls, s') ∧
      ¬ Faultless (Shared.initial : Shared (Fin 1)) (.error raised) s' := by
  refine ⟨_, _, _, rfl, fun kept => ?_⟩
  have draining : true = false := kept.draining
  cases draining

end AxiomMcp.Lifecycle
