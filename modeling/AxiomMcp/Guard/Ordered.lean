/-
**All or nothing.**

When `ordered` raises, is any guard still held? The handler of `ordered` catches a timeout and a
cancellation only, so whatever else a step raises passes with the guards of the steps before it still held.

* `StepsSpare`, `ReleasesSpare`, `AttemptsSpare`: whenever a step raises such an exception, nothing is held
  but what the step itself gives up; and whenever a release inside `release_all` raises something else than
  an `OSError`, nothing else is left to release;
* `ordered_clean_iff`: an `ordered` that raises has let go of every guard and closed every handle it opened
  **exactly** if its steps spare, and no handle has lapsed.
-/

import AxiomMcp.Guard.Invariant

namespace AxiomMcp.Guard

open Lib Program Machine

section Spares

variable (answer : Surroundings)

/-- If the run of a program ends, its end satisfies `ends`. -/
def Then {α : Type} (p : GuardProgram α) (calls : List (Call GuardOp GuardReply)) (guard : SolutionGuard)
    (ends : Except Raised α → List (Call GuardOp GuardReply) → SolutionGuard → Prop) : Prop :=
  ∀ outcome calls' guard', machine.run answer p calls guard = some (outcome, calls', guard') →
    ends outcome calls' guard'

/-- What a step that raises leaves held. -/
def Step.leaves (guard : SolutionGuard) : Step → List HeldLock
  | .take _ _ => guard.held
  | .drop name => (guard.pop name).held

/-- The rounds of `release_all`: one that raises leaves nothing held. -/
def ReleasesSpare : List Text → List (Call GuardOp GuardReply) → SolutionGuard → Prop
  | [], _, _ => True
  | name :: rest, calls, guard =>
    Then answer (releaseNamed name) calls guard fun outcome calls' guard' =>
      match outcome with
      | .ok _ => ReleasesSpare rest calls' guard'
      | .error _ => (guard.pop name).held = []

/-- A call of `release_all` whose rounds spare. -/
def ReleaseSpares (calls : List (Call GuardOp GuardReply)) (guard : SolutionGuard) : Prop :=
  Then answer releaseNames calls guard fun outcome calls' guard' =>
    ∀ names, outcome = .ok names → ReleasesSpare answer names calls' guard'

variable (py : Interpreter) (settings : Settings) (rounds : ℕ)

/-- The steps of one attempt: one that raises no timeout and no cancellation leaves nothing held. -/
def StepsSpare : List Step → List (Call GuardOp GuardReply) → SolutionGuard → Prop
  | [], _, _ => True
  | step :: rest, calls, guard =>
    Then answer (step.program py settings rounds) calls guard fun outcome calls' guard' =>
      match outcome with
      | .ok _ => StepsSpare rest calls' guard'
      | .error raised => endsWait raised = true ∨ step.leaves guard = []

/-- The attempts, and the calls of `release_all` between them. -/
def AttemptsSpare (steps : List Step) : ℕ → List (Call GuardOp GuardReply) → SolutionGuard → Prop
  | 0, _, _ => True
  | attempts + 1, calls, guard =>
    StepsSpare answer py settings rounds steps calls guard ∧
      Then answer (takeSteps py settings rounds steps) calls guard fun outcome calls' guard' =>
        ∀ raised, outcome = .error raised → endsWait raised = true →
          ReleaseSpares answer calls' guard' ∧
            Then answer releaseAll calls' guard' fun released calls'' guard'' =>
              released = .ok () → AttemptsSpare steps attempts calls'' guard''

/-- The attempts of an `ordered`, and the `release_all` after its body. -/
def OrderedSpares (specs : List (Text × LockMode)) (early : List Text) (attempts : ℤ)
    (body : GuardProgram Unit) (calls : List (Call GuardOp GuardReply)) (guard : SolutionGuard) : Prop :=
  AttemptsSpare answer py settings rounds (stepsOf specs early) attempts.toNat calls guard ∧
    Then answer (enter py settings rounds specs early attempts) calls guard fun outcome calls' guard' =>
      outcome = .ok () → Then answer body calls' guard' fun _ calls'' guard'' =>
        ReleaseSpares answer calls'' guard''

end Spares

section Runs

variable {answer : Surroundings} {py : Interpreter} {settings : Settings} {rounds : ℕ}
  {calls calls' : List (Call GuardOp GuardReply)} {guard guard' : SolutionGuard}

/-- A run that is known to end. -/
theorem then_iff {α : Type} {p : GuardProgram α} {outcome : Except Raised α}
    {ends : Except Raised α → List (Call GuardOp GuardReply) → SolutionGuard → Prop}
    (ran : machine.run answer p calls guard = some (outcome, calls', guard')) :
    Then answer p calls guard ends ↔ ends outcome calls' guard' := by
  constructor
  · exact fun holds => holds _ _ _ ran
  · intro holds _ _ _ again
    rw [ran] at again
    cases again
    exact holds

/-- What holds along a program holds at the end of its run. -/
theorem ends_along {α : Type} {p : GuardProgram α} {here : SolutionGuard → GuardOp → Prop}
    {post : Except Raised α → SolutionGuard → Prop} {outcome : Except Raised α} (legal : Legal answer)
    (along : machine.Along here post p guard)
    (ran : machine.run answer p calls guard = some (outcome, calls', guard')) : post outcome guard' :=
  along.run ran (fun _ _ => trivial) fun calls s op (_ : True) => legal calls s op

/-- A run of `p` and then of `k` on its outcome. -/
theorem run_resume_some {α β : Type} {p : GuardProgram α} {k : Except Raised α → GuardProgram β}
    {ended : Except Raised β × List (Call GuardOp GuardReply) × SolutionGuard}
    (ran : machine.run answer (p.resume k) calls guard = some ended) :
    ∃ outcome calls' guard', machine.run answer p calls guard = some (outcome, calls', guard') ∧
      machine.run answer (k outcome) calls' guard' = some ended := by
  rw [run_resume] at ran
  obtain ⟨⟨outcome, calls', guard'⟩, first, next⟩ := Option.bind_eq_some_iff.mp ran
  exact ⟨outcome, calls', guard', first, next⟩

/-! ### Releases -/

/-- The rounds of `release_all` spare exactly if nothing is held in the end. -/
theorem releaseEach_spares (legal : Legal answer) {names failures : List Text}
    {outcome : Except Raised Unit} (sound : Sound guard) (covers : Covers guard names)
    (ran : machine.run answer (releaseEach names failures) calls guard = some (outcome, calls', guard')) :
    ReleasesSpare answer names calls guard ↔ guard'.held = [] := by
  induction names generalizing failures calls guard with
  | nil =>
    refine iff_of_true trivial ?_
    have same : guard' = guard := by
      unfold releaseEach at ran
      split at ran
      · cases ran; rfl
      · cases ran; rfl
    rw [same]
    exact covers.empty
  | cons name rest ih =>
    obtain ⟨failed, mid, between, first, next⟩ := run_resume_some ran
    have along : machine.Along (Letting NoMore Topmost) _ _ guard :=
      releaseNamed_along sound trivial covers.top
    obtain ⟨released, left⟩ := ends_along legal along first
    refine (then_iff first).trans ?_
    cases failed with
    | ok failed => exact ih (released.sound sound) (covers.rest released) next
    | error raised =>
      cases next
      show (guard.pop name).held = [] ↔ guard'.held = []
      rw [left raised rfl]

theorem releaseAll_spares (legal : Legal answer) {outcome : Except Raised Unit} (sound : Sound guard)
    (ran : machine.run answer releaseAll calls guard = some (outcome, calls', guard')) :
    ReleaseSpares answer calls guard ↔ guard'.held = [] := by
  obtain ⟨listed, mid, between, first, next⟩ := run_resume_some ran
  have along : machine.Along (Letting NoMore Topmost) _ _ guard := releaseNames_along sound trivial
  obtain ⟨rfl, names, rfl, covers⟩ := ends_along legal along first
  refine (then_iff first).trans ?_
  have each := releaseEach_spares legal sound covers next
  exact ⟨fun spares => each.mp (spares names rfl), fun empty other same => by
    obtain rfl := Except.ok.inj same
    exact each.mpr empty⟩

/-! ### Attempts -/

/-- What a step that raises leaves held. -/
theorem step_leaves (legal : Legal answer) {step : Step} {raised : Raised} (sound : Sound guard)
    (ran : machine.run answer (step.program py settings rounds) calls guard =
      some (.error raised, calls', guard')) : guard'.held = step.leaves guard := by
  cases step with
  | take name mode =>
    obtain ⟨acquired, mid, between, first, next⟩ := run_resume_some ran
    have done := ends_along legal (acquireOne_along guard name mode) first
    cases acquired with
    | ok entry => cases next
    | error other =>
      cases next
      exact Spent.held done
  | drop name =>
    rcases ends_along legal (releaseOne_along sound name) ran with
      ⟨rfl, absent, _⟩ | ⟨entry, member, rfl, rfl⟩
    · show guard'.held = (guard'.pop name).held
      rw [SolutionGuard.pop_absent absent]
    · rfl

/-- The steps of an attempt spare exactly if it returns, ends by its wait, or leaves nothing held. -/
theorem takeSteps_spare (legal : Legal answer) {steps : List Step} {outcome : Except Raised Unit}
    (sound : Sound guard)
    (ran : machine.run answer (takeSteps py settings rounds steps) calls guard =
      some (outcome, calls', guard')) :
    StepsSpare answer py settings rounds steps calls guard ↔
      ∀ raised, outcome = .error raised → endsWait raised = true ∨ guard'.held = [] := by
  induction steps generalizing calls guard with
  | nil =>
    cases ran
    exact iff_of_true trivial fun raised none => nomatch none
  | cons step rest ih =>
    obtain ⟨stepped, mid, between, first, next⟩ := run_resume_some ran
    refine (then_iff first).trans ?_
    cases stepped with
    | ok _ =>
      have within : machine.Along Within (fun _ guard => Sound guard) (step.program py settings rounds)
          guard := takeStep_within sound step
      exact ih (ends_along legal within first) next
    | error raised =>
      cases next
      rw [← step_leaves legal sound first]
      constructor
      · rintro spares _ ⟨rfl⟩
        exact spares
      · exact fun all => all raised rfl

/-- The attempts spare exactly if they return or leave nothing held. -/
theorem enterFrom_spare (legal : Legal answer) {steps : List Step} {attempts : ℕ} {failure : Raised}
    {outcome : Except Raised Unit} (sound : Sound guard) (empty : guard.held = [])
    (ran : machine.run answer (enterFrom py settings rounds steps attempts failure) calls guard =
      some (outcome, calls', guard')) :
    AttemptsSpare answer py settings rounds steps attempts calls guard ↔
      ∀ raised, outcome = .error raised → guard'.held = [] := by
  induction attempts generalizing calls guard failure with
  | zero =>
    cases ran
    exact iff_of_true trivial fun _ _ => empty
  | succ attempts ih =>
    obtain ⟨taken, mid, between, first, next⟩ := run_resume_some ran
    have sound' := ends_along legal (takeSteps_within sound steps) first
    refine (and_congr (takeSteps_spare legal sound first) (then_iff first)).trans ?_
    cases taken with
    | ok _ =>
      cases next
      exact iff_of_true ⟨fun _ none => (nomatch none), fun _ none => (nomatch none)⟩
        fun _ none => (nomatch none)
    | error raised =>
      change machine.run answer (if endsWait raised = true then _ else _) mid between = _ at next
      split at next
      · rename_i waited
        obtain ⟨released, mid', between', second, last⟩ := run_resume_some next
        obtain ⟨done, _⟩ := ends_along legal (releaseAll_along keptBelow_noMore sound' trivial) second
        have spares := releaseAll_spares legal sound' second
        cases released with
        | ok _ =>
          have later := ih done.sound (done.returned rfl) last
          constructor
          · rintro ⟨_, all⟩
            exact later.mp ((then_iff second).mp (all raised rfl waited).2 rfl)
          · refine fun empty => ⟨fun other same => Or.inl ?_, fun other same _ => ⟨?_, ?_⟩⟩
            · obtain rfl := Except.error.inj same
              exact waited
            · exact spares.mpr (done.returned rfl)
            · exact (then_iff second).mpr fun _ => later.mpr empty
        | error failed =>
          cases last
          constructor
          · rintro ⟨_, all⟩ _ _
            exact spares.mp (all raised rfl waited).1
          · refine fun empty => ⟨fun other same => Or.inl ?_, fun other same _ => ⟨?_, ?_⟩⟩
            · obtain rfl := Except.error.inj same
              exact waited
            · exact spares.mpr (empty _ rfl)
            · exact (then_iff second).mpr fun returned => nomatch returned
      · rename_i other
        cases next
        constructor
        · rintro ⟨all, _⟩ _ _
          exact (all raised rfl).resolve_left other
        · refine fun empty => ⟨fun _ _ => Or.inr (empty _ rfl), fun again same waited => ?_⟩
          obtain rfl := Except.error.inj same
          exact absurd waited other

theorem enter_spare (legal : Legal answer) {specs : List (Text × LockMode)} {early : List Text}
    {attempts : ℤ} {outcome : Except Raised Unit} (sound : Sound guard) (empty : guard.held = [])
    (ran : machine.run answer (enter py settings rounds specs early attempts) calls guard =
      some (outcome, calls', guard')) :
    AttemptsSpare answer py settings rounds (stepsOf specs early) attempts.toNat calls guard ↔
      ∀ raised, outcome = .error raised → guard'.held = [] := by
  unfold enter at ran
  split at ran
  · rename_i none
    cases ran
    rw [Int.toNat_of_nonpos (by omega)]
    exact iff_of_true trivial fun _ _ => empty
  · exact enterFrom_spare legal sound empty ran

/-! ### `ordered` -/

/-- What a caller does inside its `with` block: operations of the guard, and then it returns or raises. -/
def block (py : Interpreter) (settings : Settings) (rounds : ℕ) (operations : List Operation)
    (outcome : Except Raised Unit) : GuardProgram Unit :=
  (perform py settings rounds operations).resume fun _ => ofExcept outcome

theorem block_within (sound : Sound guard) (operations : List Operation) (outcome : Except Raised Unit) :
    machine.Along Within (fun _ guard => Sound guard) (block py settings rounds operations outcome)
      guard :=
  (perform_within sound operations).resume fun _ _ sound => along_ofExcept sound

/-- The guard after an `ordered` that raised: nothing held, and its handles closed. -/
def Clean (start guard : SolutionGuard) : Prop :=
  guard.held = [] ∧ ∀ state ∈ guard.since start, state.isOpen = false

/-- Handles of a guard that holds nothing are closed unless they lapsed. -/
theorem Sound.clean_iff {start : SolutionGuard} (sound : Sound guard) :
    Clean start guard ↔ guard.held = [] ∧ Whole (guard.since start) := by
  refine and_congr_right fun empty => forall₂_congr fun state member => ?_
  obtain ⟨handle, found⟩ := List.mem_iff_getElem?.mp (List.mem_of_mem_drop member)
  rcases sound.others handle state found with ⟨held, there, _⟩ | settled
  · rw [empty] at there
    cases there
  · rw [settled.isOpen]

/-- **All or nothing**: an `ordered` that raised has let go of everything exactly if its steps spare and
no handle lapsed. -/
theorem ordered_clean_iff (legal : Legal answer) (specs : List (Text × LockMode)) (early : List Text)
    (attempts : ℤ) (operations : List Operation) (outcome : Except Raised Unit) (sound : Sound guard)
    (empty : guard.held = []) {raised : Raised}
    (ran : machine.run answer (ordered py settings rounds id specs early attempts
      (block py settings rounds operations outcome)) calls guard = some (.error raised, calls', guard')) :
    Clean guard guard' ↔
      OrderedSpares answer py settings rounds specs early attempts
        (block py settings rounds operations outcome) calls guard ∧ Whole (guard'.since guard) := by
  obtain ⟨entered, mid, between, first, next⟩ := run_resume_some ran
  have spares := enter_spare legal sound empty first
  have sound' := ends_along legal (operation_within sound (.enter specs early attempts)) first
  cases entered with
  | error refused =>
    cases next
    refine sound'.clean_iff.trans (and_congr_left' ?_)
    constructor
    · exact fun none => ⟨spares.mpr fun _ _ => none, (then_iff first).mpr fun returned => nomatch returned⟩
    · exact fun all => spares.mp all.1 raised rfl
  | ok _ =>
    -- the body has run, and `release_all` after it
    obtain ⟨done, mid', between', second, closing⟩ := run_resume_some next
    obtain ⟨released, mid'', between'', third, last⟩ := run_resume_some closing
    have held := ends_along legal (block_within sound' operations outcome) second
    have final := (ends_along legal (releaseAll_along keptBelow_noMore held trivial) third).1.sound
    have same : guard' = between'' := by
      cases released with
      | error failed => cases last; rfl
      | ok _ =>
        cases done with
        | error failed => cases last; rfl
        | ok _ => cases last
    rw [same]
    refine final.clean_iff.trans (and_congr_left' ?_)
    rw [← releaseAll_spares legal held third]
    constructor
    · intro all
      refine ⟨spares.mpr fun _ none => (nomatch none), (then_iff first).mpr fun _ => ?_⟩
      exact (then_iff second).mpr all
    · exact fun all => (then_iff second).mp ((then_iff first).mp all.2 rfl)

end Runs

/-! ### A failing open -/

/-- The `OSError` of a process without free descriptors. -/
def tooManyFiles : Raised := .os ⟨"OSError", "[Errno 24] Too many open files"⟩

/-- Surroundings in which one guard file cannot be opened. -/
def unopenable (file : Text) : Surroundings := surroundings fun op =>
  match op with
  | .openFile name => if name = file then some tooManyFiles else none
  | _ => none

/-- `publisher` around an empty block. -/
def publishOnce : GuardProgram Unit :=
  ordered .ascii defaultSettings 1 id publisherSpecs [] 1 (block .ascii defaultSettings 1 [] (.ok ()))

/-- A publisher that cannot open `data.lock` raises, and goes on holding `admission.lock`. -/
theorem publisher_strands : ∃ answer : Surroundings, Legal answer ∧ ∃ raised calls guard,
    machine.run answer publishOnce [] .initial = some (.error raised, calls, guard) ∧
      ¬ Clean .initial guard := by
  refine ⟨unopenable "data.lock", surroundings_legal _, ?_⟩
  have left : (machine.run (unopenable "data.lock") publishOnce [] .initial).map
      (fun ended => (ended.1, ended.2.2)) = some (.error tooManyFiles,
        ⟨[⟨"admission.lock", .exclusive, 0⟩], false,
          [⟨"admission.lock", some .exclusive, true, false, none⟩]⟩) := by decide +kernel
  obtain ⟨⟨outcome, calls, guard⟩, ran, same⟩ := Option.map_eq_some_iff.mp left
  obtain ⟨rfl, rfl⟩ := Prod.mk.inj same
  exact ⟨_, _, _, ran, fun clean => nomatch clean.1⟩

/-- A publisher that cannot open `admission.lock` raises while nothing is held. -/
theorem ordered_clean_unopenable : ∃ raised calls guard,
    machine.run (unopenable "admission.lock") publishOnce [] .initial =
      some (.error raised, calls, guard) ∧
      (Clean .initial guard ↔
        OrderedSpares (unopenable "admission.lock") .ascii defaultSettings 1 publisherSpecs [] 1
          (block .ascii defaultSettings 1 [] (.ok ())) [] .initial ∧ Whole (guard.since .initial)) := by
  have left : (machine.run (unopenable "admission.lock") publishOnce [] .initial).map
      (fun ended => ended.1) = some (.error tooManyFiles) := by decide +kernel
  obtain ⟨⟨outcome, calls, guard⟩, ran, rfl⟩ := Option.map_eq_some_iff.mp left
  exact ⟨_, _, _, ran, ordered_clean_iff (surroundings_legal _) publisherSpecs [] 1 [] (.ok ())
    sound_initial rfl ran⟩

end AxiomMcp.Guard
