/-
**Who may cancel a job (`graph_job` with `action=cancel`).**

The control plane has the jobs, and `graph_job` learns whose a job is from the answer to the cancel itself.

* `Plane`: a control plane, which has jobs in each of its states and answers each request in any way;
* `OwnsCancels`: a cancel went out for a job of a visible, registered solution only, and a call that ended
  in an error has changed no job;
* `graph_job_owns_iff`: that holds of a call **exactly where it asks for no cancel, or the job it names is
  such a job and a cancel that changes the jobs is answered with a well-formed one** (`CancelsOwn`);
* `graph_job_cancels_foreign`: the job of another solution is cancelled, and the call answers `NOT_FOUND`.
-/

import AxiomMcp.Query.CursorRuns
import AxiomMcp.Tools.Delegation

namespace AxiomMcp.Tools

open Lib Program
open Snapshot (SnapshotRegistry)

/-- The job that a request cancels. -/
def ControlOp.cancels : ControlOp → Option Text
  | .job jobId action _ => if action = cancelAction then some jobId else none
  | _ => none

/-- A request that may change something (a `POST`). -/
def ControlOp.Posts : ControlOp → Prop
  | .reconcile _ => True
  | .verify _ => True
  | .job _ action _ => action = cancelAction
  | .status _ => False

/-! ### The control plane -/

/-- A job of the control plane. -/
structure PlaneJob where
  solutionId : Text
  kind : Text
  state : Text
  deriving DecidableEq

/-- A control plane: the job under an id in each of its states, and what it does with a request, to the last
attempt of the client. -/
structure Plane (S : Type) where
  job : S → Text → Option PlaneJob
  handle : S → ControlOp → Except ControlFault Json × S

namespace Plane

variable {S : Type} (plane : Plane S)

/-- The requests among some calls, each with the state it found the control plane in. -/
def requests : S → List (Call ToolOp ToolReply) → List (S × ControlOp)
  | _, [] => []
  | s, ⟨.control op, _⟩ :: rest => (s, op) :: requests (plane.handle s op).2 rest
  | s, _ :: rest => requests s rest

/-- The replies to the requests among some calls are those of the control plane. -/
def Served : S → List (Call ToolOp ToolReply) → Prop
  | _, [] => True
  | s, ⟨.control op, reply⟩ :: rest => reply = (plane.handle s op).1 ∧ Served (plane.handle s op).2 rest
  | s, _ :: rest => Served s rest

/-- A request that changes a job. -/
def Writes (s : S) (op : ControlOp) : Prop :=
  op.Posts ∧ ∃ jobId, plane.job (plane.handle s op).2 jobId ≠ plane.job s jobId

end Plane

section Owns

variable {Time : Type} (context : ToolContext Time)

/-- A solution that the caller may see and the registry binds. -/
def Reachable (solutionId : Text) : Prop :=
  context.principal.visible solutionId = true ∧ ∃ binding,
    context.registry.solution context.interpreter solutionId = .ok binding

/-- A well-formed job whose solution is visible and registered. -/
def OwnAnswer (reply : Except ControlFault Json) : Prop :=
  ∃ answer view, reply = .ok (.obj answer) ∧ jobView context.interpreter answer = .ok view ∧
    Reachable context view.solutionId

variable {S : Type} (plane : Plane S)

/-- A job of a solution that is visible and registered. -/
def OwnedJob (s : S) (jobId : Text) : Prop :=
  ∃ job, plane.job s jobId = some job ∧ Reachable context job.solutionId

/-- **Cancels are sent for own jobs only, and an error has changed no job.** -/
structure OwnsCancels (s : S) (calls : List (Call ToolOp ToolReply))
    (outcome : Except ToolError JsonObject) : Prop where
  cancelled : ∀ sent ∈ plane.requests s calls, ∀ jobId, sent.2.cancels = some jobId →
    OwnedJob context plane sent.1 jobId
  unwritten : ∀ error, outcome = .error error → ∀ sent ∈ plane.requests s calls,
    ¬ plane.Writes sent.1 sent.2

/-- A cancel that is asked for names an own job, and is answered with one where it changes a job. -/
def CancelsOwn (s : S) (arguments : JsonObject) : Prop :=
  ∀ request, jobRequest arguments context = .ok request → request.action = cancelAction →
    OwnedJob context plane s request.jobId ∧
      (plane.Writes s request.op → OwnAnswer context (plane.handle s request.op).1)

variable {context plane}

theorem answered_eq_ok {reply : Except ControlFault Json} {answer : JsonObject} :
    answered reply = .ok answer ↔ reply = .ok (.obj answer) := by
  unfold answered
  constructor
  · intro got
    obtain ⟨value, replied, object⟩ := bind_eq_ok.mp got
    cases reply with
    | error fault => cases replied
    | ok document =>
      cases replied
      cases value with
      | obj entries =>
        cases object
        rfl
      | _ => cases object
  · rintro rfl
    rfl

theorem registered_eq_ok {solutionId : Text} :
    context.registered solutionId = .ok () ↔
      ∃ binding, context.registry.solution context.interpreter solutionId = .ok binding := by
  unfold ToolContext.registered
  cases context.registry.solution context.interpreter solutionId with
  | ok binding => exact iff_of_true rfl ⟨binding, rfl⟩
  | error raised =>
    refine iff_of_false (fun wrong => nomatch wrong) ?_
    rintro ⟨_, wrong⟩
    cases wrong

theorem ownJob_eq_ok {view : JobView} :
    ownJob context view = .ok () ↔ Reachable context view.solutionId := by
  unfold ownJob Reachable
  split
  · next seen => rw [registered_eq_ok, and_iff_right seen]
  · next unseen => exact iff_of_false (fun wrong => nomatch wrong) fun both => unseen both.1

/-- A view has the solution of its answer. -/
theorem jobView_solution {answer : JsonObject} {view : JobView}
    (viewed : jobView context.interpreter answer = .ok view) :
    ∃ message, answerText answer "solution_id" message = .ok view.solutionId := by
  obtain ⟨_, _, viewed⟩ := bind_eq_ok.mp viewed
  obtain ⟨_, _, viewed⟩ := bind_eq_ok.mp viewed
  obtain ⟨solutionId, named, viewed⟩ := bind_eq_ok.mp viewed
  obtain ⟨_, _, viewed⟩ := bind_eq_ok.mp viewed
  cases viewed
  exact ⟨_, named⟩

/-- A call succeeds exactly on the answer of an own job. -/
theorem jobAnswer_ok_iff (action : Text) {reply : Except ControlFault Json} :
    (∃ document, answered reply >>= jobAnswer context action = .ok document) ↔ OwnAnswer context reply := by
  constructor
  · rintro ⟨document, ended⟩
    obtain ⟨answer, got, ended⟩ := bind_eq_ok.mp ended
    obtain ⟨view, viewed, ended⟩ := bind_eq_ok.mp ended
    obtain ⟨_, owned, _⟩ := bind_eq_ok.mp ended
    exact ⟨answer, view, answered_eq_ok.mp got, viewed, ownJob_eq_ok.mp owned⟩
  · rintro ⟨answer, view, rfl, viewed, owned⟩
    rw [answered_eq_ok.mpr rfl, ok_bind]
    unfold jobAnswer
    rw [viewed, ok_bind, ownJob_eq_ok.mpr owned]
    exact ⟨_, rfl⟩

/-- The one request of a delegating tool meets the control plane as it is. -/
theorem served_single {s : S} {op : ControlOp} {reply : Except ControlFault Json} :
    plane.Served s [⟨.control op, reply⟩] ↔ reply = (plane.handle s op).1 :=
  and_iff_left trivial

theorem mem_requests_single {s : S} {op : ControlOp} {reply : Except ControlFault Json} {sent : S × ControlOp} :
    sent ∈ plane.requests s [⟨.control op, reply⟩] ↔ sent = (s, op) :=
  List.mem_singleton

theorem JobRequest.cancels_op {request : JobRequest} {jobId : Text} :
    request.op.cancels = some jobId ↔ request.action = cancelAction ∧ jobId = request.jobId := by
  show (if request.action = cancelAction then some request.jobId else none) = some jobId ↔ _
  by_cases same : request.action = cancelAction
  · rw [if_pos same, and_iff_right same, Option.some.injEq, eq_comm]
  · rw [if_neg same]
    exact iff_of_false (Option.some_ne_none jobId).symm fun both => same both.1

/-- **`graph_job` cancels own jobs only, and changes none where it fails, exactly where the cancel it asks for
names an own job and a change is answered with one.** -/
theorem graph_job_owns_iff (plane : Plane S) {s : S} {arguments : JsonObject}
    {calls : List (Call ToolOp ToolReply)} {outcome : Except ToolError JsonObject}
    (trace : Trace (graphJob arguments context) calls outcome) (served : plane.Served s calls) :
    OwnsCancels context plane s calls outcome ↔ CancelsOwn context plane s arguments := by
  rcases trace_delegation.mp trace with ⟨error, refused, rfl, rfl⟩ | ⟨request, reply, asked, rfl, rfl⟩
  · refine iff_of_true ⟨(fun _ none => nomatch none), (fun _ _ _ none => nomatch none)⟩ fun request asked => ?_
    rw [refused] at asked
    cases asked
  · obtain rfl := served_single.mp served
    have first : (s, request.op) ∈ plane.requests s [⟨.control request.op, (plane.handle s request.op).1⟩] :=
      mem_requests_single.mpr rfl
    constructor
    · intro owns request' asked' cancels
      obtain rfl := Except.ok.inj (asked.symm.trans asked')
      refine ⟨owns.cancelled _ first _ (JobRequest.cancels_op.mpr ⟨cancels, rfl⟩), fun writes => ?_⟩
      refine (jobAnswer_ok_iff request.action).mp ?_
      cases ended : answered (plane.handle s request.op).1 >>= jobAnswer context request.action with
      | ok document => exact ⟨document, rfl⟩
      | error error => exact (owns.unwritten error ended _ first writes).elim
    · intro own
      refine ⟨fun sent member jobId cancelled => ?_, fun error failed sent member writes => ?_⟩
      · obtain rfl := mem_requests_single.mp member
        obtain ⟨cancels, rfl⟩ := JobRequest.cancels_op.mp cancelled
        exact (own request asked cancels).1
      · obtain rfl := mem_requests_single.mp member
        -- only a cancel is a `POST` of `graph_job`
        have cancels : request.action = cancelAction := writes.1
        obtain ⟨document, ended⟩ := (jobAnswer_ok_iff request.action).mpr ((own request asked cancels).2 writes)
        rw [ended] at failed
        cases failed

end Owns

/-! ### A cancel of a foreign job -/

/-- A caller of the shop with some capabilities, perhaps limited to some projects. -/
def shopCaller (capabilities : Finset Text) (projectIds : Option (Finset Text)) : ToolPrincipal :=
  ⟨"agent", capabilities, {("shop" : Text)}, projectIds⟩

/-- A context over the sample registry, with a control plane. -/
def shopContext (principal : ToolPrincipal) : ToolContext ℕ where
  interpreter := .ascii
  sha256 _ := []
  registry := Snapshot.sampleRegistry
  principal
  retaining := false
  controlled := true
  rounds := 1
  cursors := .empty
  cursorClock := Query.seconds
  moment := 0

/-- A caller that may reconcile. -/
def reconciler : ToolContext ℕ := shopContext (shopCaller {Security.capabilityReconcile} none)

/-- The arguments of a cancel. -/
def cancelArguments : JsonObject := [("job_id", .str "job-7"), ("action", .str "cancel")]

/-- The document of a job. -/
def PlaneJob.document (job : PlaneJob) (jobId : Text) : JsonObject :=
  [("job_id", .str jobId), ("kind", .str job.kind), ("state", .str job.state),
    ("solution_id", .str job.solutionId)]

/-- A control plane that cancels what it is asked to, and does nothing else. -/
def cancelPlane : Plane (Text → Option PlaneJob) where
  job jobs := jobs
  handle jobs op :=
    match op.cancels with
    | none => (.error (.gateway ⟨.daemonUnavailable, "no answer", [], none⟩), jobs)
    | some jobId =>
      match jobs jobId with
      | none => (.error (.gateway ⟨.notFound, "no such job", [], none⟩), jobs)
      | some job =>
        let ended := { job with state := "CANCELLED" }
        (.ok (.obj (ended.document jobId)), fun other => if other = jobId then some ended else jobs other)

/-- The jobs of a control plane with one running job of a solution. -/
def oneJob (solutionId : Text) : Text → Option PlaneJob :=
  fun jobId => if jobId = ("job-7" : Text) then some ⟨solutionId, "reconcile", "RUNNING"⟩ else none

/-- What the request of a cancel is. -/
def cancelOp : ControlOp := .job "job-7" cancelAction 0

/-- The call that a cancel makes. -/
def cancelCall (solutionId : Text) : Call ToolOp ToolReply :=
  ⟨.control cancelOp, (cancelPlane.handle (oneJob solutionId) cancelOp).1⟩

theorem cancel_trace (solutionId : Text) : ∃ outcome,
    Trace (graphJob cancelArguments reconciler) [cancelCall solutionId] outcome ∧
      outcome = jobAnswer reconciler cancelAction
        (PlaneJob.document ⟨solutionId, "reconcile", "CANCELLED"⟩ "job-7") := by
  refine ⟨_, trace_delegation.mpr (Or.inr ⟨⟨"job-7", cancelAction, 0⟩, _, ?_, rfl, rfl⟩), rfl⟩
  rfl

/-- The cancel changes the job. -/
theorem cancel_writes (solutionId : Text) : cancelPlane.Writes (oneJob solutionId) cancelOp := by
  refine ⟨rfl, "job-7", fun same => ?_⟩
  have states : some ("CANCELLED" : Text) = some "RUNNING" := congrArg (Option.map PlaneJob.state) same
  exact absurd states (by decide)

/-- The job of another solution is cancelled by a call that ends in `NOT_FOUND`. -/
theorem graph_job_cancels_foreign : ¬ ∀ (plane : Plane (Text → Option PlaneJob)) s (context : ToolContext ℕ)
    (arguments : JsonObject) calls outcome, Trace (graphJob arguments context) calls outcome →
      plane.Served s calls → OwnsCancels context plane s calls outcome := by
  intro all
  obtain ⟨outcome, trace, ended⟩ := cancel_trace "bank"
  have owns := all cancelPlane (oneJob "bank") _ _ _ _ trace (served_single.mpr rfl)
  have refused : outcome = .error (refusal .notFound "no such job is visible to this caller" []) := ended
  exact owns.unwritten _ refused _ (mem_requests_single.mpr rfl) (cancel_writes "bank")

/-- The job of the caller's own solution. -/
theorem graph_job_cancels_own : ∃ outcome,
    Trace (graphJob cancelArguments reconciler) [cancelCall "shop"] outcome ∧
      OwnsCancels reconciler cancelPlane (oneJob "shop") [cancelCall "shop"] outcome := by
  obtain ⟨outcome, trace, _⟩ := cancel_trace "shop"
  refine ⟨outcome, trace, (graph_job_owns_iff cancelPlane trace (served_single.mpr rfl)).mpr ?_⟩
  intro request asked _
  obtain rfl : (⟨"job-7", cancelAction, 0⟩ : JobRequest) = request := Except.ok.inj asked
  exact ⟨⟨_, rfl, by decide, _, rfl⟩, fun _ => ⟨_, _, rfl, rfl, by decide, _, rfl⟩⟩

end AxiomMcp.Tools
