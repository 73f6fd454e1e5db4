/-
**The tools that delegate to the control plane (`tools/job.py`, `tools/reconcile.py`, `tools/verify.py`).**

Each of them checks its arguments and its caller, sends one request and projects the answer through a list
of fields. The checks are one function that ends in the request, or in the refusal: `jobRequest`,
`reconcileRequest` and `verifyRequest`.

`trace_delegation`: each of them makes no call, or exactly one, and ends by its reply.
-/

import AxiomMcp.Lib.Traces
import AxiomMcp.Tools.Context

namespace AxiomMcp.Tools

open Lib Program
open Security (capabilityReconcile capabilityCheckpoint)
open Snapshot (namesRepr)

/-! ### What the answers share -/

/-- The constant `SCHEMA_VERSION`. -/
def schemaVersion : ℤ := 1

/-- The constant `JOB_STATES`. -/
def jobStates : List Text :=
  ["PENDING", "LEASED", "RUNNING", "RETRY_WAIT", "SUCCEEDED", "FAILED", "CANCEL_REQUESTED", "CANCELLED",
    "SUPERSEDED"]

/-- The constant `NON_TERMINAL_STATES`. -/
def nonTerminalStates : List Text := ["PENDING", "LEASED", "RUNNING", "RETRY_WAIT", "CANCEL_REQUESTED"]

/-- The constant `PROGRESS_UNITS`. -/
def progressUnits : List Text :=
  ["units_done", "units_total", "projects_done", "projects_total", "files_scanned", "shards_written"]

/-- The constant `MAX_WAIT_MS`. -/
def maxWaitMs : ℤ := 30000

/-- `_non_negative_int(value)` -/
def nonNegativeInt : Json → Option ℤ
  | .int value => if value < 0 then none else some value
  | _ => none

/-- The numbers of an answer under these keys. -/
def answerNumbers (answer : JsonObject) (keys : List Text) : JsonObject :=
  keys.filterMap fun key =>
    ((Json.get? answer key).bind nonNegativeInt).map fun number => (key, .int number)

section Answers

variable (py : Interpreter) (answer : JsonObject)

/-- A text of an answer with something in it. -/
def answerText (key message : Text) : Except ToolError Text :=
  match Json.get? answer key with
  | some (.str value) => if value.strip = [] then .error (unavailable message) else .ok value.strip
  | _ => .error (unavailable message)

/-- `str(state)[:64]` of what `answer.get("state")` found. -/
def printedState : Text := (((Json.get? answer "state").getD .null).pyStr py).take 64

/-- The state of an answer. -/
def answerState : Except ToolError Text :=
  let unknown := refusal .daemonUnavailable "the control plane returned an unknown job state"
    [("state", .str (printedState py answer))]
  match Json.get? answer "state" with
  | some (.str state) => if state ∈ jobStates then .ok state else .error unknown
  | _ => .error unknown

/-- The constant in the message of an answer without its job id. -/
def noJobId : Text := "the control plane did not return a job id"

/-- `_job_view(answer)` of the tools that queue a job. -/
def queuedView (numbers : List Text) : Except ToolError JsonObject := do
  let jobId ← answerText answer "job_id" noJobId
  let state ← answerState py answer
  return ([("job_id", .str jobId), ("state", .str state)] : JsonObject) ++ answerNumbers answer numbers

end Answers

/-! ### `graph_job` -/

/-- A job, as `graph_job` shows it. -/
structure JobView where
  jobId : Text
  kind : Text
  state : Text
  solutionId : Text
  numbers : JsonObject
  errorCode : JsonObject
  progress : JsonObject
  warnings : List Text

/-- The units of a progress object, and a warning for each percentage. -/
def progressView : JsonObject → JsonObject × List Text
  | [] => ([], [])
  | (name, value) :: rest =>
    match nonNegativeInt value with
    | none => progressView rest
    | some number =>
      if name ∈ progressUnits then ((name, .int number) :: (progressView rest).1, (progressView rest).2)
      else if Text.contains name "percent" || name = ("pct" : Text) || name = ("percentage" : Text) then
        ((progressView rest).1, (("percentage_not_carried:" : Text) ++ name) :: (progressView rest).2)
      else progressView rest

/-- The `progress` of a view and its warnings. -/
def answerProgress (answer : JsonObject) : JsonObject × List Text :=
  match Json.get? answer "progress" with
  | some (.obj entries) =>
    if (progressView entries).1 = [] then ([], (progressView entries).2)
    else ([("progress", .obj (progressView entries).1)], (progressView entries).2)
  | _ => ([], [])

/-- The `error_code` of a view. -/
def answerErrorCode (answer : JsonObject) : JsonObject :=
  match Json.get? answer "error_code" with
  | some (.str code) => if code.strip = [] then [] else [("error_code", .str (code.strip.take 128))]
  | _ => []

section Job

variable (py : Interpreter)

/-- `_job_view(answer, warnings)` -/
def jobView (answer : JsonObject) : Except ToolError JobView := do
  let jobId ← answerText answer "job_id" noJobId
  let state ← answerState py answer
  let solutionId ← answerText answer "solution_id" "the control plane returned a job without its solution"
  let kind ← answerText answer "kind" "the control plane returned a job without its kind"
  return {
    jobId, kind, state, solutionId
    numbers := answerNumbers answer ["attempt", "fence", "target_event_seq", "retry_after_ms"]
    errorCode := answerErrorCode answer
    progress := (answerProgress answer).1
    warnings := (answerProgress answer).2 }

/-- The document of a job. -/
def JobView.document (view : JobView) : JsonObject :=
  ([("job_id", .str view.jobId), ("kind", .str view.kind), ("state", .str view.state),
    ("solution_id", .str view.solutionId)] : JsonObject) ++ view.numbers ++ view.errorCode ++
    view.progress ++
    ([("terminal", .bool (decide (view.state ∉ nonTerminalStates)))] : JsonObject)

/-- The constant `JOB_ACTIONS`. -/
def jobActions : List Text := ["status", "cancel"]

/-- The action that cancels. -/
def cancelAction : Text := "cancel"

/-- The constant `_ARGUMENTS`. -/
def jobArguments : List Text := ["job_id", "action", "wait_ms"]

/-- A letter or a digit. -/
def isAlnumAscii (c : CodePoint) : Bool := Text.isLetterAscii c || Text.isDigitAscii c

/-- A character of a job id after its first. -/
def isJobIdChar (c : CodePoint) : Bool :=
  isAlnumAscii c || c = codePoint '.' || c = codePoint '_' || c = codePoint ':' || c = codePoint '-'

/-- `_JOB_ID.fullmatch(value)` -/
def isJobId : Text → Bool
  | [] => false
  | first :: rest => isAlnumAscii first && rest.all isJobIdChar && decide (rest.length ≤ 127)

variable (arguments : JsonObject)

/-- `_job_id_argument(arguments)` -/
def jobIdArgument : Except ToolError Text := do
  let value ← requireText arguments "job_id"
  if isJobId value then .ok value
  else .error (invalid "job_id" "job_id must match ^[A-Za-z0-9][A-Za-z0-9._:-]\x7b0,127\x7d$")

/-- A text argument out of a list, with a default. -/
def choiceArgument (key default : Text) (allowed : List Text) : Except ToolError Text :=
  let refused := invalid key (key ++ (" must be one of " : Text) ++ namesRepr py allowed)
  match argument arguments key with
  | none => .ok default
  | some (.str value) => if value ∈ allowed then .ok value else .error refused
  | some _ => .error refused

/-- `_action_argument(arguments)` -/
def actionArgument : Except ToolError Text := choiceArgument py arguments "action" "status" jobActions

variable {Time : Type} (context : ToolContext Time)

/-- What `graph_job` asks the control plane. -/
structure JobRequest where
  jobId : Text
  action : Text
  waitMs : ℤ

/-- The operation of a request. -/
def JobRequest.op (request : JobRequest) : ControlOp := .job request.jobId request.action request.waitMs

/-- The check of a cancel: it does not wait. -/
def checkCancel (action : Text) (waitMs : ℤ) : Except ToolError Unit :=
  if action = cancelAction ∧ waitMs ≠ 0 then
    .error (invalid "wait_ms" (Text.format ["wait_ms applies to a status read; a cancel is idempotent ",
      "and does not wait"]))
  else .ok ()

/-- The check of the caller of a cancel. -/
def authorizeAction (principal : ToolPrincipal) (action : Text) : Except ToolError Unit :=
  if action = cancelAction then principal.requireCapability capabilityReconcile else .ok ()

/-- The checks of `graph_job` in front of its request. -/
def jobRequest : Except ToolError JobRequest := do
  closedArguments arguments jobArguments
  let jobId ← jobIdArgument arguments
  let action ← actionArgument context.interpreter arguments
  let waitMs ← optionalIntOr arguments "wait_ms" 0 0 maxWaitMs
  checkCancel action waitMs
  authorizeAction context.principal action
  context.requireControl
  return ⟨jobId, action, waitMs⟩

/-- The checks of the answer: the job has a solution that is visible and registered. -/
def ownJob (view : JobView) : Except ToolError Unit :=
  if context.principal.visible view.solutionId then context.registered view.solutionId
  else .error (refusal .notFound "no such job is visible to this caller" [])

/-- What `graph_job` makes of an answer. -/
def jobAnswer (action : Text) (answer : JsonObject) : Except ToolError JsonObject := do
  let view ← jobView context.interpreter answer
  ownJob context view
  return [("schema_version", .int schemaVersion), ("action", .str action),
    ("solution_id", .str view.solutionId), ("job", .obj view.document),
    ("warnings", .arr (view.warnings.map .str))]

/-- `graph_job(arguments, context)` -/
def graphJob : ToolProgram JsonObject := do
  let request ← ofExcept (jobRequest arguments context)
  let answer ← delegate request.op
  ofExcept (jobAnswer context request.action answer)

end Job

/-! ### `graph_reconcile` -/

/-- The constant `RECONCILE_SCOPES`. -/
def reconcileScopes : List Text := ["dirty", "project", "full"]

/-- The scope that names its projects. -/
def projectScopeName : Text := "project"

/-- The constant `_ARGUMENTS`. -/
def reconcileArguments : List Text :=
  ["solution_id", "project_id", "project_ids", "scope", "wait_timeout_ms", "reason"]

/-- The constant `MAX_REASON_LENGTH`. -/
def maxReasonLength : ℕ := 200

/-- The constant `VERIFICATION_MODES`. -/
def verificationModes : List Text := ["inventory_hash", "watcher_hint", "none"]

section Reconcile

variable (arguments : JsonObject) {Time : Type} (context : ToolContext Time)

/-- `_reason_argument(arguments)` -/
def reasonArgument : Except ToolError Text := do
  let reason ← requireText arguments "reason"
  if maxReasonLength < reason.length then
    .error (refusal .limitExceeded (Text.format ["reason must be at most ", Text.ofNat maxReasonLength,
      " characters"]) [("field", .str "reason"), ("maximum", .int maxReasonLength)])
  else .ok reason

/-- A selector goes with `scope=project` and with nothing else. -/
def checkSelector (scope : Text) (requested : Option (List Text)) : Except ToolError Unit :=
  if scope = projectScopeName ∧ requested = none then
    .error (invalid "scope" "scope=project requires an explicit project_id or project_ids")
  else if scope ≠ projectScopeName ∧ requested ≠ none then
    .error (refusal .validationError "a project selector is only valid with scope=project"
      [("fields", .arr [.str "scope", .str "project_ids"])])
  else .ok ()

/-- `context.resolve_projects(solution_id, requested) if requested is not None else ()` -/
def selectedProjects (solutionId : Text) (requested : Option (List Text)) : Except ToolError (List Text) :=
  match requested with
  | none => .ok []
  | some _ => context.resolveProjects solutionId requested

/-- `{"project_ids": list(projects)} if projects else {}` -/
def projectField (projects : List Text) : JsonObject :=
  if projects = [] then [] else [("project_ids", .arr (projects.map .str))]

/-- What `graph_reconcile` asks the control plane. -/
structure ReconcileRequest where
  solutionId : Text
  scope : Text
  reason : Text
  waitMs : ℤ
  projects : List Text

/-- The document of a request. -/
def ReconcileRequest.document (request : ReconcileRequest) : JsonObject :=
  ([("solution_id", .str request.solutionId), ("scope", .str request.scope),
    ("reason", .str request.reason), ("wait_timeout_ms", .int request.waitMs)] : JsonObject) ++
    projectField request.projects

/-- The checks of `graph_reconcile` in front of its request. -/
def reconcileRequest : Except ToolError ReconcileRequest := do
  closedArguments arguments reconcileArguments
  let solutionId ← identifierArgument context.interpreter arguments "solution_id"
  let scope ← choiceArgument context.interpreter arguments "scope" "dirty" reconcileScopes
  let reason ← reasonArgument arguments
  let waitMs ← optionalIntOr arguments "wait_timeout_ms" 0 0 maxWaitMs
  let requested ← projectScope context.interpreter arguments
  checkSelector scope requested
  context.principal.require capabilityReconcile solutionId []
  context.registered solutionId
  let projects ← selectedProjects context solutionId requested
  context.requireControl
  return ⟨solutionId, scope, reason, waitMs, projects⟩

/-- The verification mode of a publication, where it is one of the documented modes. -/
def publicationMode (answer : JsonObject) : JsonObject :=
  match (Json.get? answer "verification").bind fun block => block.text? "mode" with
  | some mode => if mode ∈ verificationModes then [("verification", .obj [("mode", .str mode)])] else []
  | none => []

/-- The counts of a publication. -/
def publicationDirty (answer : JsonObject) : JsonObject :=
  match Json.get? answer "dirty" with
  | some (.obj entries) =>
    let counted : JsonObject := entries.filterMap fun entry =>
      (nonNegativeInt entry.2).map fun number => (entry.1, .int number)
    if counted = [] then [] else [("dirty", .obj counted)]
  | _ => []

/-- The message of an answer that is neither a job nor a publication. -/
def neitherAnswer : Text := "the control plane answered neither a job handle nor a publication"

/-- `_publication_view(answer)` -/
def publicationView (answer : JsonObject) : Except ToolError JsonObject := do
  let generation ← answerText answer "catalog_generation_id" neitherAnswer
  return ([("catalog_generation_id", .str generation)] : JsonObject) ++ publicationMode answer ++
    publicationDirty answer

/-- The job or the publication of an answer. -/
def reconcileOutcome (answer : JsonObject) : Except ToolError (Json × Json) :=
  if ("job_id" : Text) ∈ answer.map Prod.fst then
    (queuedView context.interpreter answer ["target_event_seq", "retry_after_ms"]).map fun job =>
      (.obj job, .null)
  else if ("catalog_generation_id" : Text) ∈ answer.map Prod.fst then
    (publicationView answer).map fun publication => (.null, .obj publication)
  else .error (unavailable neitherAnswer)

/-- What `graph_reconcile` makes of an answer. -/
def reconcileAnswer (request : ReconcileRequest) (answer : JsonObject) : Except ToolError JsonObject := do
  let (job, publication) ← reconcileOutcome context answer
  return [("schema_version", .int schemaVersion), ("solution_id", .str request.solutionId),
    ("scope", .str request.scope), ("project_ids", .arr (request.projects.map .str)), ("job", job),
    ("publication", publication), ("warnings", .arr [])]

/-- `graph_reconcile(arguments, context)` -/
def graphReconcile : ToolProgram JsonObject := do
  let request ← ofExcept (reconcileRequest arguments context)
  let answer ← delegate (.reconcile request.document)
  ofExcept (reconcileAnswer context request answer)

end Reconcile

/-! ### `graph_verify` -/

/-- The constant `BASES`. -/
def bases : List Text := ["archive", "working_tree"]

/-- The constant `DIMENSION_MODES`, in the order of `DIMENSIONS`. -/
def dimensionModes : List (Text × List Text) :=
  [("hash", ["recomputed", "verified", "mismatch", "not_run", "unknown"]),
    ("schema", ["declared", "missing", "mismatch", "not_run", "unknown"]),
    ("catalog", ["matched", "mismatch", "not_run", "unknown"]),
    ("source", ["archive_contents", "current", "not_run", "unknown"])]

/-- The constant `_ARGUMENTS`. -/
def verifyArguments : List Text :=
  ["solution_id", "project_id", "project_ids", "expected_fingerprint", "target_event_seq"]

/-- The constant `MAX_EVENT_SEQ`. -/
def maxEventSeq : ℤ := 2 ^ 53 - 1

/-- A hexadecimal digit of either case. -/
def isHexDigit (c : CodePoint) : Bool :=
  Text.isDigitAscii c || (0x41 ≤ c.val && c.val ≤ 0x46) || (0x61 ≤ c.val && c.val ≤ 0x66)

/-- `_FINGERPRINT.fullmatch(value)` -/
def isFingerprint (value : Text) : Bool := value.length == 64 && value.all isHexDigit

/-- `value.lower()` of a fingerprint. -/
def lowerHex (value : Text) : Text :=
  value.map fun c => if 0x41 ≤ c.val ∧ c.val ≤ 0x46 then Fin.ofNat 0x110000 (c.val + 0x20) else c

section Verify

variable (arguments : JsonObject) {Time : Type} (context : ToolContext Time)

/-- `_fingerprint_argument(arguments)` -/
def fingerprintArgument : Except ToolError (Option Text) :=
  let refused := invalid "expected_fingerprint" "expected_fingerprint must be 64 hexadecimal characters"
  match argument arguments "expected_fingerprint" with
  | none => .ok none
  | some (.str value) => if isFingerprint value.strip then .ok (some (lowerHex value.strip)) else .error refused
  | some _ => .error refused

/-- What `graph_verify` asks the control plane. -/
structure VerifyRequest where
  solutionId : Text
  projects : List Text
  expected : Option Text
  barrier : Option ℤ

/-- The document of a request. -/
def VerifyRequest.document (request : VerifyRequest) : JsonObject :=
  ([("solution_id", .str request.solutionId)] : JsonObject) ++ projectField request.projects ++
    (request.expected.toList.map fun value => (("expected_fingerprint" : Text), Json.str value)) ++
    (request.barrier.toList.map fun value => (("target_event_seq" : Text), Json.int value))

/-- A verification needs a fingerprint or a barrier. -/
def checkGoal (expected : Option Text) (barrier : Option ℤ) : Except ToolError Unit :=
  if expected = none ∧ barrier = none then
    .error (refusal .validationError "graph_verify needs an expected_fingerprint or a target_event_seq"
      [("fields", .arr [.str "expected_fingerprint", .str "target_event_seq"])])
  else .ok ()

/-- The checks of `graph_verify` in front of its request. -/
def verifyRequest : Except ToolError VerifyRequest := do
  closedArguments arguments verifyArguments
  let solutionId ← identifierArgument context.interpreter arguments "solution_id"
  let expected ← fingerprintArgument arguments
  let barrier ← optionalInt arguments "target_event_seq" 0 maxEventSeq
  checkGoal expected barrier
  let requested ← projectScope context.interpreter arguments
  context.principal.require capabilityCheckpoint solutionId []
  context.registered solutionId
  let projects ← selectedProjects context solutionId requested
  context.requireControl
  return ⟨solutionId, projects, expected, barrier⟩

/-- A fingerprint of a dimension, and the warning of one that is none. -/
def dimensionFingerprint (name : Text) (raw : JsonObject) (key : Text) : JsonObject × List Text :=
  match argument raw key with
  | none => ([], [])
  | some (.str value) =>
    if isFingerprint value.strip then ([(key, .str (lowerHex value.strip))], [])
    else ([], [Text.format ["unusable_fingerprint:", name, ".", key]])
  | some _ => ([], [Text.format ["unusable_fingerprint:", name, ".", key]])

/-- The `matched` of a dimension. -/
def dimensionMatched (raw : JsonObject) : JsonObject :=
  match Json.get? raw "matched" with
  | some (.bool value) => [("matched", .bool value)]
  | _ => []

/-- `_dimension(name, raw, warnings)`: the view, and what is added to the warnings. -/
def dimensionView (name : Text) (allowed : List Text) : Option Json → JsonObject × List Text
  | some (.obj raw) =>
    match (Json.obj raw).text? "mode" with
    | some mode =>
      if mode ∈ allowed then
        (([("mode", .str mode)] : JsonObject) ++ (dimensionFingerprint name raw "expected").1 ++
            (dimensionFingerprint name raw "observed").1 ++ dimensionMatched raw,
          (dimensionFingerprint name raw "expected").2 ++ (dimensionFingerprint name raw "observed").2)
      else ([("mode", .str "unknown")], [("unrecognised_mode:" : Text) ++ name])
    | none => ([("mode", .str "unknown")], [("unrecognised_mode:" : Text) ++ name])
  | _ => ([("mode", .str "not_run")], [("dimension_not_reported:" : Text) ++ name])

/-- The views of all dimensions. -/
def dimensionViews (block : JsonObject) : List (Text × JsonObject × List Text) :=
  dimensionModes.map fun dimension =>
    (dimension.1, dimensionView dimension.1 dimension.2 (Json.get? block dimension.1))

/-- What an answer verified: its basis, its verification, its job and the warnings. -/
structure VerifyOutcome where
  basis : Json
  verification : Json
  job : Json
  warnings : List Text

/-- The outcome of an answer that was queued. -/
def queuedOutcome (answer : JsonObject) : Except ToolError VerifyOutcome := do
  let job ← queuedView context.interpreter answer ["retry_after_ms"]
  let incomplete := ("basis" : Text) ∈ answer.map Prod.fst ∨ ("verification" : Text) ∈ answer.map Prod.fst
  return ⟨.null, .null, .obj job, if incomplete then ["verification_incomplete"] else []⟩

/-- The basis of an answer. -/
def answerBasis (answer : JsonObject) : Except ToolError Text :=
  let refused := unavailable (Text.format ["a verification answer must name whether it verified an ",
    "archive or the working tree"])
  match Json.get? answer "basis" with
  | some (.str basis) => if basis ∈ bases then .ok basis else .error refused
  | _ => .error refused

/-- The verification block of an answer. -/
def answerBlock (answer : JsonObject) : Except ToolError JsonObject :=
  match Json.get? answer "verification" with
  | some (.obj block) => .ok block
  | _ => .error (unavailable "the control plane returned no verification dimensions")

/-- An archive does not speak for the working tree. -/
def checkSource (basis : Text) (views : List (Text × JsonObject × List Text)) : Except ToolError Unit :=
  if basis = ("archive" : Text) ∧ ∃ view ∈ views,
      view.1 = ("source" : Text) ∧ (Json.obj view.2.1).text? "mode" = some "current" then
    .error (refusal .daemonUnavailable "an archive verification cannot assert current filesystem state"
      [("dimension", .str "source"), ("basis", .str basis)])
  else .ok ()

/-- The outcome of an answer with a verification. -/
def verifiedOutcome (answer : JsonObject) : Except ToolError VerifyOutcome := do
  let basis ← answerBasis answer
  let block ← answerBlock answer
  checkSource basis (dimensionViews block)
  return ⟨.str basis, .obj ((dimensionViews block).map fun view => (view.1, .obj view.2.1)), .null,
    (dimensionViews block).flatMap fun view => view.2.2⟩

/-- What `graph_verify` makes of an answer. -/
def verifyAnswer (request : VerifyRequest) (answer : JsonObject) : Except ToolError JsonObject := do
  let outcome ← if ("job_id" : Text) ∈ answer.map Prod.fst then queuedOutcome context answer
    else verifiedOutcome answer
  return [("schema_version", .int schemaVersion), ("solution_id", .str request.solutionId),
    ("project_ids", .arr (request.projects.map .str)), ("basis", outcome.basis),
    ("verification", outcome.verification), ("job", outcome.job),
    ("warnings", .arr (outcome.warnings.map .str))]

/-- `graph_verify(arguments, context)` -/
def graphVerify : ToolProgram JsonObject := do
  let request ← ofExcept (verifyRequest arguments context)
  let answer ← delegate (.verify request.document)
  ofExcept (verifyAnswer context request answer)

end Verify

/-! ### One request each -/

/-- The object that a control plane answered with. -/
def answered (reply : Except ControlFault Json) : Except ToolError JsonObject :=
  reply.mapError (ControlFault.translate "the graphd control plane is unreachable") >>= answerObject

theorem trace_delegate {op : ControlOp} {calls : List (Call ToolOp ToolReply)}
    {outcome : Except ToolError JsonObject} :
    Trace (delegate op) calls outcome ↔
      ∃ reply, calls = [⟨.control op, reply⟩] ∧ outcome = answered reply := by
  unfold delegate sendControl
  show Trace (.call _ _) calls outcome ↔ _
  rw [trace_call_iff]
  refine exists_congr fun reply => ?_
  constructor
  · rintro ⟨rest, rfl, after⟩
    rcases trace_ofExcept_bind_iff.mp after with ⟨raised, failed, rfl, rfl⟩ | ⟨answer, got, ended⟩
    · exact ⟨rfl, by rw [answered, failed]; rfl⟩
    · obtain ⟨rfl, rfl⟩ := trace_ofExcept_iff.mp ended
      exact ⟨rfl, by rw [answered, got]; rfl⟩
  · rintro ⟨rfl, rfl⟩
    refine ⟨[], rfl, trace_ofExcept_bind_iff.mpr ?_⟩
    unfold answered
    cases reply.mapError (ControlFault.translate "the graphd control plane is unreachable") with
    | error raised => exact Or.inl ⟨raised, rfl, rfl, rfl⟩
    | ok answer => exact Or.inr ⟨answer, rfl, trace_ofExcept_iff.mpr ⟨rfl, rfl⟩⟩

/-- **A delegating tool is refused without a call, or makes one call and ends by its reply.** -/
theorem trace_delegation {α : Type} {checks : Except ToolError α} {op : α → ControlOp}
    {finish : α → JsonObject → Except ToolError JsonObject} {calls : List (Call ToolOp ToolReply)}
    {outcome : Except ToolError JsonObject} :
    Trace (do
        let request ← ofExcept checks
        let answer ← delegate (op request)
        ofExcept (finish request answer)) calls outcome ↔
      (∃ error, checks = .error error ∧ calls = [] ∧ outcome = .error error) ∨
        ∃ request reply, checks = .ok request ∧ calls = [⟨.control (op request), reply⟩] ∧
          outcome = answered reply >>= finish request := by
  rw [trace_ofExcept_bind_iff]
  refine or_congr Iff.rfl (exists_congr fun request => ?_)
  rw [trace_bind_iff]
  constructor
  · rintro ⟨checked, ⟨raised, first, rfl⟩ | ⟨answer, one, other, rfl, first, second⟩⟩
    · obtain ⟨reply, rfl, same⟩ := trace_delegate.mp first
      exact ⟨reply, checked, rfl, by rw [← same]; rfl⟩
    · obtain ⟨reply, rfl, same⟩ := trace_delegate.mp first
      obtain ⟨rfl, rfl⟩ := trace_ofExcept_iff.mp second
      exact ⟨reply, checked, List.append_nil _, by rw [← same]; rfl⟩
  · rintro ⟨reply, checked, rfl, rfl⟩
    refine ⟨checked, ?_⟩
    cases got : answered reply with
    | error raised => exact Or.inl ⟨raised, trace_delegate.mpr ⟨reply, rfl, got.symm⟩, rfl⟩
    | ok answer =>
      exact Or.inr ⟨answer, _, [], (List.append_nil _).symm, trace_delegate.mpr ⟨reply, rfl, got.symm⟩,
        trace_ofExcept_iff.mpr ⟨rfl, rfl⟩⟩

end AxiomMcp.Tools
