/-
**Bounded recovery of a read (`recovery.py`).**

`readWithRecovery` calls a loader at most so often as its limits say, and returns one whole vector or one canonical
failure. A loader is the sequence of the outcomes of its calls.

* `canonicalCodeFor`: the canonical code of a failure;
* `attempt`, `rounds`, `readWithRecovery`: one load, the loop, and the checks before it;
* `Recovered`: what a call says about its loads;
* `recovery_exact`: that holds for every loader, policy, mode, consistency and limit.
-/

import AxiomMcp.Snapshot.Pins
import AxiomMcp.Tools.Context

namespace AxiomMcp.Tools

open Lib
open Snapshot (CatalogVector MemberPin)

/-! ### Failures of a load -/

/-- What a failure is, by the first test of `canonical_code_for` or of the loop that it passes. -/
inductive FailureKind
  /-- `GenerationCollected` -/
  | collected
  /-- `SnapshotGone` -/
  | gone (code : Text)
  /-- `AxiomError` -/
  | answered (code : ErrorCode)
  | catalog (kind : CatalogKind)
  | catalogOther
  | manifest (kind : ManifestKind)
  | shard (kind : ShardKind)
  | registry
  | os
  /-- `RecoveryRejected` -/
  | rejected
  /-- `KeyboardInterrupt` or `SystemExit` -/
  | interrupt
  | other

/-- An exception of a loader: `str(exc)`, and the attributes that are texts and not empty. -/
structure LoadFailure where
  kind : FailureKind
  text : Text
  generationId : Option Text
  projectId : Option Text

/-- `canonical_code_for(exc)` -/
def canonicalCodeFor (failure : LoadFailure) : Text :=
  match failure.kind with
  | .collected => "SNAPSHOT_EXPIRED"
  | .gone code => code
  | .answered code => code.name
  | .catalog (.memberMissing _) => "PROJECT_UNAVAILABLE"
  | .catalog .unreadable | .manifest .unreadable | .shard .unreadable => "SNAPSHOT_UNAVAILABLE"
  | .registry | .os => "SNAPSHOT_UNAVAILABLE"
  | .catalog _ | .catalogOther | .manifest _ | .shard _ => "SNAPSHOT_CORRUPT"
  | .rejected | .interrupt | .other => "INTERNAL_ERROR"

/-- `RECOVERABLE_CODES` -/
def recoverableCodes : List Text :=
  ["RATE_LIMITED", "NOT_READY", "DAEMON_UNAVAILABLE", "PROJECT_UNAVAILABLE", "SNAPSHOT_UNAVAILABLE",
    "SNAPSHOT_CORRUPT"]

/-- `CANONICAL_CODES` -/
def canonicalCodes : List ErrorCode :=
  [.unsupportedOperation, .limitExceeded, .validationError, .unauthenticated, .forbidden, .notFound, .conflict,
    .incompatibleInput, .rateLimited, .snapshotExpired, .snapshotUnavailable, .snapshotCorrupt, .daemonUnavailable,
    .projectUnavailable, .notReady, .internalError]

/-- What `read_with_recovery` raises: `RecoveryRejected`, an interrupt, or the `ValueError` of a code that is not
canonical. -/
inductive RecoveryRaised
  | rejected (message : Text)
  | interrupt
  | value (message : Text)
  deriving DecidableEq

/-- `AxiomError(code, ...)` -/
def canonicalError (code : Text) : Except RecoveryRaised ErrorCode :=
  match canonicalCodes.find? fun known => known.name = code with
  | some known => .ok known
  | none => .error (.value (Text.format ["unregistered canonical error code: ", code]))

/-- `_to_axiom_error(code, exc)` -/
def toAxiomError (code : Text) (failure : LoadFailure) : Except RecoveryRaised AxiomError := do
  let known ← canonicalError code
  let generation : JsonObject := failure.generationId.elim [] fun id => [("generation_id", .str id)]
  let project : JsonObject := failure.projectId.elim [] fun id => [("project_id", .str id)]
  .ok ⟨known, if failure.text = [] then code else failure.text,
    ([("error_code", .str code)] : JsonObject) ++ generation ++ project, none⟩

/-! ### Settings and results -/

/-- `RecoveryLimits` -/
structure RecoveryLimits where
  maxAttempts : ℕ
  positive : 0 < maxAttempts

theorem two_positive : 0 < 2 := by decide

/-- `RecoveryLimits()` -/
def defaultRecoveryLimits : RecoveryLimits := ⟨2, two_positive⟩

/-- What a caller asks for. -/
structure RecoverySettings where
  policy : Text
  mode : Text
  consistency : Text
  limits : Option RecoveryLimits
  runtimeFreshness : Option Text

/-- `SERVED`, `PARTIAL` and `FAILED`. -/
inductive RecoveryStatus
  | served | partlyServed | failed
  deriving DecidableEq

/-- `RecoveryResult` -/
structure RecoveryResult where
  status : RecoveryStatus
  mode : Text
  consistency : Text
  coverage : Text
  freshness : Text
  verification : Text
  attempts : ℕ
  vector : Option CatalogVector
  error : Option AxiomError
  warnings : List Text

/-- `_require_choice(value, allowed, name)` -/
def requireChoice (py : Interpreter) (value : Text) (allowed : List Text) (name : Text) :
    Except RecoveryRaised Unit :=
  if value ∈ allowed then .ok ()
  else .error (.rejected (Text.format [name, " must be one of ", Json.pyRepr py (.arr (allowed.map .str)), ", got ",
    Json.pyRepr py (.str value)]))

/-- A freshness that is given has to be a known one. -/
def checkRuntimeFreshness (py : Interpreter) : Option Text → Except RecoveryRaised Unit
  | some value => requireChoice py value ["fresh", "stale", "updating", "unknown", "invalid"] "runtime_freshness"
  | none => .ok ()

/-- `_resolve_freshness(mode, consistency, runtime_freshness)` -/
def resolveRuntimeFreshness (py : Interpreter) (mode consistency : Text) (runtime : Option Text) :
    Except RecoveryRaised Text := do
  checkRuntimeFreshness py runtime
  let shown := Json.pyRepr py (.str (runtime.getD []))
  if mode = "snapshot_only" ∧ runtime ≠ none ∧ runtime ≠ some ("unknown" : Text) then
    .error (.rejected (Text.format ["snapshot-only mode cannot report a live freshness reading ", shown,
      "; it must report 'unknown'"]))
  else if consistency = "pinned" ∧ runtime ≠ none ∧ runtime ≠ some ("unknown" : Text) then
    .error (.rejected (Text.format ["a pinned historical generation does not imply live source freshness; report ",
      "'unknown' rather than ", shown]))
  else if mode = "snapshot_only" ∨ consistency = "pinned" then .ok "unknown"
  else .ok (runtime.getD "unknown")

/-! ### Loading -/

/-- What one call of a loader comes to. -/
inductive LoadOutcome
  | vector (vector : CatalogVector)
  /-- Something else was returned. -/
  | alien (typeName : Text)
  | raised (failure : LoadFailure)

/-- What one round of the loop comes to. -/
inductive Attempted
  | served (vector : CatalogVector)
  | failed (failure : LoadFailure)
  | stopped (raised : RecoveryRaised)

/-- `", ".join(_missing_members(vector))` -/
def missingNames (vector : CatalogVector) : Text :=
  Text.join ", " (vector.missing.map fun pin => pin.member.projectId)

/-- `CatalogMemberMissing(names, ...)` of a round -/
def incomplete (py : Interpreter) (names : Text) : LoadFailure where
  kind := .catalog (.memberMissing names)
  text := Text.format ["catalog member ", names.pyRepr py.isPrintable, ": ",
    "require_complete_solution rejected a partial vector; unavailable members: ", names]
  generationId := none
  projectId := some names

/-- The `try` of a round. -/
def attempt (py : Interpreter) (policy : Text) : LoadOutcome → Attempted
  | .vector vector =>
    if vector.missing ≠ [] ∧ policy = "require_complete" then .failed (incomplete py (missingNames vector))
    else .served vector
  | .alien typeName =>
    .stopped (.rejected (Text.format ["the loader must return one pinned CatalogVector, got ", typeName]))
  | .raised failure =>
    match failure.kind with
    | .rejected => .stopped (.rejected failure.text)
    | .interrupt => .stopped .interrupt
    | _ => .failed failure

section Rounds

variable (py : Interpreter) (settings : RecoverySettings) (freshness verification : Text)
  (outcomes : ℕ → LoadOutcome)

/-- The answer from a vector. -/
def answerOf (vector : CatalogVector) (attempts : ℕ) : RecoveryResult where
  status := if vector.missing ≠ [] then .partlyServed else .served
  mode := settings.mode
  consistency := settings.consistency
  coverage := vector.effectiveCoverage
  freshness := freshness
  verification := verification
  attempts := attempts
  vector := some vector
  error := none
  warnings := if vector.missing ≠ [] then
      [Text.format ["project(s) ", missingNames vector, " are unavailable; this answer covers only the ",
        "available members, never an empty graph for the missing ones"]]
    else []

/-- The answer after a failure. -/
def failureOf (error : AxiomError) (attempts : ℕ) : RecoveryResult where
  status := .failed
  mode := settings.mode
  consistency := settings.consistency
  coverage := "unsupported"
  freshness := freshness
  verification := "none"
  attempts := attempts
  vector := none
  error := some error
  warnings := ["the request was dropped whole; no partial or mixed-generation data is served"]

/-- After the loop. -/
def afterLoop (last : Option AxiomError) (attempts : ℕ) : Except RecoveryRaised RecoveryResult :=
  match last with
  | none => .error (.rejected "the bounded retry ended without a result or a classified failure")
  | some error => .ok (failureOf settings freshness error attempts)

/-- The loop, with the rounds that are left, and how many loads were made. -/
def rounds (maximum : ℕ) : ℕ → ℕ → Option AxiomError → Except RecoveryRaised RecoveryResult × ℕ
  | 0, loads, last => (afterLoop settings freshness last loads, loads)
  | left + 1, loads, _ =>
    match attempt py settings.policy (outcomes loads) with
    | .stopped raised => (.error raised, loads + 1)
    | .served vector => (.ok (answerOf settings freshness verification vector (loads + 1)), loads + 1)
    | .failed failure =>
      match toAxiomError (canonicalCodeFor failure) failure with
      | .error raised => (.error raised, loads + 1)
      | .ok error =>
        if canonicalCodeFor failure ∈ recoverableCodes ∧ loads + 1 < maximum then
          rounds maximum left (loads + 1) (some error)
        else (afterLoop settings freshness (some error) (loads + 1), loads + 1)

end Rounds

/-- What is checked before the first load. -/
def admittedFreshness (py : Interpreter) (settings : RecoverySettings) : Except RecoveryRaised Text := do
  requireChoice py settings.policy ["allow_partial", "require_complete"] "policy"
  requireChoice py settings.mode ["live", "snapshot_only"] "mode"
  requireChoice py settings.consistency ["allow_stale", "require_fresh", "pinned"] "consistency"
  resolveRuntimeFreshness py settings.mode settings.consistency settings.runtimeFreshness

/-- `limits or RecoveryLimits()` -/
def RecoverySettings.maxAttempts (settings : RecoverySettings) : ℕ :=
  (settings.limits.getD defaultRecoveryLimits).maxAttempts

/-- `read_with_recovery(load, ...)`, with the number of loads it has made. -/
def readWithRecovery (py : Interpreter) (settings : RecoverySettings) (outcomes : ℕ → LoadOutcome) :
    Except RecoveryRaised RecoveryResult × ℕ :=
  match admittedFreshness py settings with
  | .error raised => (.error raised, 0)
  | .ok freshness =>
    rounds py settings freshness (if settings.mode = "snapshot_only" then "manifest_hash" else "none") outcomes
      settings.maxAttempts settings.maxAttempts 0 none

/-! ### What the last load decides -/

section Verdict

variable {py : Interpreter} {settings : RecoverySettings} {freshness verification : Text}
  {outcomes : ℕ → LoadOutcome}

/-- What a call comes to by its last load. -/
def verdict (py : Interpreter) (settings : RecoverySettings) (freshness verification : Text)
    (outcome : LoadOutcome) (attempts : ℕ) :
    Except RecoveryRaised RecoveryResult :=
  match attempt py settings.policy outcome with
  | .stopped raised => .error raised
  | .served vector => .ok (answerOf settings freshness verification vector attempts)
  | .failed failure =>
    (toAxiomError (canonicalCodeFor failure) failure).map fun error => failureOf settings freshness error attempts

/-- A load after which another one is made. -/
def Recoverable (py : Interpreter) (policy : Text) (outcome : LoadOutcome) : Prop :=
  ∃ failure, attempt py policy outcome = .failed failure ∧ canonicalCodeFor failure ∈ recoverableCodes

/-- **The rounds.** Every load but the last one failed with a recoverable code, and the last one decides. -/
theorem rounds_verdict {maximum left loads : ℕ} {last : Option AxiomError} (some : 0 < left)
    (counts : loads + left = maximum) :
    let ended := rounds py settings freshness verification outcomes maximum left loads last
    loads < ended.2 ∧ ended.2 ≤ maximum ∧
      (∀ k, loads ≤ k → k + 1 < ended.2 → Recoverable py settings.policy (outcomes k)) ∧
      ended.1 = verdict py settings freshness verification (outcomes (ended.2 - 1)) ended.2 := by
  induction left generalizing loads last with
  | zero => exact absurd some (Nat.lt_irrefl 0)
  | succ left ih =>
    have room : loads + 1 ≤ maximum := by omega
    have nothing : ∀ k, loads ≤ k → k + 1 < loads + 1 → Recoverable py settings.policy (outcomes k) := by
      intro k after before
      omega
    intro ended
    have unfolded : ended = rounds py settings freshness verification outcomes maximum (left + 1) loads last := rfl
    unfold rounds at unfolded
    split at unfolded
    · next raised stops =>
      rw [unfolded]
      refine ⟨Nat.lt_succ_self loads, room, nothing, ?_⟩
      show _ = verdict py settings freshness verification (outcomes loads) (loads + 1)
      rw [verdict, stops]
    · next vector serves =>
      rw [unfolded]
      refine ⟨Nat.lt_succ_self loads, room, nothing, ?_⟩
      show _ = verdict py settings freshness verification (outcomes loads) (loads + 1)
      rw [verdict, serves]
    · next failure fails =>
      split at unfolded
      · next raised refused =>
        rw [unfolded]
        refine ⟨Nat.lt_succ_self loads, room, nothing, ?_⟩
        show _ = verdict py settings freshness verification (outcomes loads) (loads + 1)
        rw [verdict, fails]
        dsimp only
        rw [refused]
        rfl
      · next error canonical =>
        split at unfolded
        · next goesOn =>
          obtain ⟨recovers, more⟩ := goesOn
          have next := @ih (loads + 1) (Option.some error) (by omega) (by omega)
          dsimp only at next
          rw [← unfolded] at next
          obtain ⟨later, within, again, decided⟩ := next
          refine ⟨Nat.lt_of_succ_lt later, within, fun k after before => ?_, decided⟩
          rcases Nat.eq_or_lt_of_le after with rfl | further
          · exact ⟨failure, fails, recovers⟩
          · exact again k further before
        · rw [unfolded]
          refine ⟨Nat.lt_succ_self loads, room, nothing, ?_⟩
          show _ = verdict py settings freshness verification (outcomes loads) (loads + 1)
          rw [verdict, fails]
          dsimp only
          rw [canonical]
          rfl

/-- What is served is what was loaded. -/
theorem attempt_served {policy : Text} {outcome : LoadOutcome} {vector : CatalogVector}
    (serves : attempt py policy outcome = .served vector) :
    outcome = .vector vector ∧ (policy = "require_complete" → vector.missing = []) := by
  cases outcome with
  | vector loaded =>
    unfold attempt at serves
    dsimp only at serves
    split at serves
    · cases serves
    · next whole =>
      obtain rfl := Attempted.served.inj serves
      exact ⟨rfl, fun strict => not_not.mp fun missing => whole ⟨missing, strict⟩⟩
  | alien typeName => cases serves
  | raised failure =>
    unfold attempt at serves
    dsimp only at serves
    split at serves <;> cases serves

theorem canonicalError_name {code : Text} {known : ErrorCode} (canonical : canonicalError code = .ok known) :
    known.name = code := by
  unfold canonicalError at canonical
  split at canonical
  · next other found =>
    obtain rfl := Except.ok.inj canonical
    have same := List.find?_some found
    exact of_decide_eq_true same
  · cases canonical

theorem toAxiomError_code {code : Text} {failure : LoadFailure} {error : AxiomError}
    (made : toAxiomError code failure = .ok error) : error.code.name = code := by
  obtain ⟨known, canonical, rest⟩ := bind_eq_ok.mp made
  obtain rfl := Except.ok.inj rest
  exact canonicalError_name canonical

end Verdict

/-! ### What a call says about its loads -/

/-- What a call of `read_with_recovery` keeps to. -/
structure Recovered (py : Interpreter) (settings : RecoverySettings) (outcomes : ℕ → LoadOutcome)
    (ended : Except RecoveryRaised RecoveryResult × ℕ) : Prop where
  bounded : ended.2 ≤ settings.maxAttempts
  /-- Another load is made only after a failure with a recoverable code. -/
  again : ∀ k, k + 1 < ended.2 → Recoverable py settings.policy (outcomes k)
  /-- What is served is the return value of the last load. -/
  served : ∀ result vector, ended.1 = .ok result → result.vector = some vector →
    0 < ended.2 ∧ outcomes (ended.2 - 1) = .vector vector
  counted : ∀ result, ended.1 = .ok result → result.attempts = ended.2
  /-- A failure comes without a vector, and with the canonical error of the last load. -/
  failed : ∀ result, ended.1 = .ok result → result.status = .failed → result.vector = none ∧
    ∃ failure error, attempt py settings.policy (outcomes (ended.2 - 1)) = .failed failure ∧
      result.error = some error ∧
      error.code.name = canonicalCodeFor failure
  answered : ∀ result, ended.1 = .ok result → result.status ≠ .failed → result.vector ≠ none ∧ result.error = none
  complete : settings.policy = "require_complete" → ∀ result vector, ended.1 = .ok result →
    result.vector = some vector → vector.missing = []
  partially : ∀ result, ended.1 = .ok result →
    (result.status = .partlyServed ↔ ∃ vector, result.vector = some vector ∧ vector.missing ≠ [])
  unknown : settings.mode = "snapshot_only" ∨ settings.consistency = "pinned" → ∀ result, ended.1 = .ok result →
    result.freshness = "unknown"

theorem resolveRuntimeFreshness_unknown {py : Interpreter} {mode consistency : Text} {runtime : Option Text}
    {freshness : Text} (resolved : resolveRuntimeFreshness py mode consistency runtime = .ok freshness)
    (old : mode = "snapshot_only" ∨ consistency = "pinned") : freshness = "unknown" := by
  obtain ⟨_, _, rest⟩ := bind_eq_ok.mp resolved
  dsimp only at rest
  split at rest
  · cases rest
  split at rest
  · cases rest
  exact (Except.ok.inj rest).symm

/-- The result of a verdict. -/
theorem recovered_verdict {py : Interpreter} {settings : RecoverySettings}
    {freshness verification : Text} {outcomes : ℕ → LoadOutcome}
    {ended : Except RecoveryRaised RecoveryResult × ℕ} (bounded : ended.2 ≤ settings.maxAttempts)
    (some : 0 < ended.2)
    (again : ∀ k, k + 1 < ended.2 → Recoverable py settings.policy (outcomes k))
    (decided : ended.1 = verdict py settings freshness verification (outcomes (ended.2 - 1)) ended.2)
    (old : settings.mode = "snapshot_only" ∨ settings.consistency = "pinned" → freshness = "unknown") :
    Recovered py settings outcomes ended := by
  have results : ∀ result, ended.1 = .ok result →
      (∃ vector, outcomes (ended.2 - 1) = .vector vector ∧
        (settings.policy = "require_complete" → vector.missing = []) ∧
        result = answerOf settings freshness verification vector ended.2) ∨
      ∃ failure error, attempt py settings.policy (outcomes (ended.2 - 1)) = .failed failure ∧
        error.code.name = canonicalCodeFor failure ∧ result = failureOf settings freshness error ended.2 := by
    intro result ok
    rw [ok] at decided
    unfold verdict at decided
    split at decided
    · cases decided
    · next vector serves =>
      obtain ⟨loaded, whole⟩ := attempt_served serves
      exact Or.inl ⟨vector, loaded, whole, Except.ok.inj decided⟩
    · next failure fails =>
      obtain ⟨error, made, same⟩ := map_eq_ok.mp decided.symm
      exact Or.inr ⟨failure, error, fails, toAxiomError_code made, same.symm⟩
  constructor
  · exact bounded
  · exact again
  · intro result vector ok serves
    refine ⟨some, ?_⟩
    rcases results result ok with ⟨loaded, same, _, rfl⟩ | ⟨_, _, _, _, rfl⟩
    · obtain rfl := Option.some.inj serves
      exact same
    · cases serves
  · intro result ok
    rcases results result ok with ⟨_, _, _, rfl⟩ | ⟨_, _, _, _, rfl⟩
    · rfl
    · rfl
  · intro result ok fails
    rcases results result ok with ⟨vector, _, _, rfl⟩ | ⟨failure, error, same, code, rfl⟩
    · exfalso
      unfold answerOf at fails
      dsimp only at fails
      split at fails <;> cases fails
    · exact ⟨rfl, failure, error, same, rfl, code⟩
  · intro result ok stands
    rcases results result ok with ⟨vector, _, _, rfl⟩ | ⟨_, _, _, _, rfl⟩
    · exact ⟨(fun wrong => nomatch wrong), rfl⟩
    · exact absurd rfl stands
  · intro strict result vector ok serves
    rcases results result ok with ⟨loaded, _, whole, rfl⟩ | ⟨_, _, _, _, rfl⟩
    · obtain rfl := Option.some.inj serves
      exact whole strict
    · cases serves
  · intro result ok
    rcases results result ok with ⟨loaded, _, _, rfl⟩ | ⟨_, _, _, _, rfl⟩
    · constructor
      · intro reports
        refine ⟨loaded, rfl, fun whole => ?_⟩
        unfold answerOf at reports
        rw [whole] at reports
        cases reports
      · rintro ⟨vector, serves, missing⟩
        obtain rfl := Option.some.inj serves
        exact if_pos missing
    · constructor
      · intro wrong
        cases wrong
      · rintro ⟨_, wrong, _⟩
        cases wrong
  · intro pinned result ok
    rcases results result ok with ⟨_, _, _, rfl⟩ | ⟨_, _, _, _, rfl⟩
    · exact old pinned
    · exact old pinned

/-- **One load is served, or none.** For every loader and all settings, a call keeps to its loads; it raises only if
its settings are refused, or if its last load stops the loop or fails with a code that is not canonical. -/
theorem recovery_exact (py : Interpreter) (settings : RecoverySettings) (outcomes : ℕ → LoadOutcome) :
    Recovered py settings outcomes (readWithRecovery py settings outcomes) ∧
      ∀ raised, (readWithRecovery py settings outcomes).1 = .error raised →
        admittedFreshness py settings = .error raised ∨
        attempt py settings.policy (outcomes ((readWithRecovery py settings outcomes).2 - 1)) = .stopped raised ∨
        ∃ failure, attempt py settings.policy
          (outcomes ((readWithRecovery py settings outcomes).2 - 1)) = .failed failure ∧
          canonicalError (canonicalCodeFor failure) = .error raised := by
  unfold readWithRecovery
  split
  · next refused admitted =>
    refine ⟨⟨Nat.zero_le _, fun _ wrong => absurd wrong (Nat.not_lt_zero _), ?_, ?_, ?_, ?_, ?_, ?_, ?_⟩,
      fun raised same => Or.inl (Except.error.inj same ▸ admitted)⟩
    all_goals intros; contradiction
  · next freshness admitted =>
    have old : settings.mode = "snapshot_only" ∨ settings.consistency = "pinned" → freshness = "unknown" := by
      obtain ⟨_, _, afterPolicy⟩ := bind_eq_ok.mp admitted
      obtain ⟨_, _, afterMode⟩ := bind_eq_ok.mp afterPolicy
      obtain ⟨_, _, resolved⟩ := bind_eq_ok.mp afterMode
      exact resolveRuntimeFreshness_unknown resolved
    have positive : 0 < settings.maxAttempts := (settings.limits.getD defaultRecoveryLimits).positive
    obtain ⟨some, bounded, again, decided⟩ := @rounds_verdict py settings freshness
      (if settings.mode = "snapshot_only" then "manifest_hash" else "none") outcomes settings.maxAttempts
      settings.maxAttempts 0 none positive (Nat.zero_add _)
    refine ⟨recovered_verdict bounded some (fun k before => again k (Nat.zero_le k) before) decided old,
      fun raised same => Or.inr ?_⟩
    rw [same] at decided
    unfold verdict at decided
    split at decided
    · next stops =>
      rw [Except.error.inj decided]
      exact Or.inl stops
    · cases decided
    · next failure fails =>
      refine Or.inr ⟨failure, fails, ?_⟩
      unfold toAxiomError at decided
      cases canonical : canonicalError (canonicalCodeFor failure) with
      | error other =>
        rw [canonical] at decided
        rw [Except.error.inj decided]
      | ok known =>
        rw [canonical] at decided
        cases decided

end AxiomMcp.Tools
