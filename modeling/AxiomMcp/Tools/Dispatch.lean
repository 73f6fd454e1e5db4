/-
**The tools by name (`runtime.py`) and the capability of each (`security.py`).**

Over stdio a call reaches its handler without the middleware, so what a caller may do is what the handlers
check themselves.

* `toolCapability` is the table of the middleware, `callTool` the dispatch of the runtime;
* `callTool_capability_iff`: a tool answers only callers that hold the capability of the table **exactly if
  it is not a status read of `graph_job`**, which checks none.
-/

import AxiomMcp.Tools.Cancel
import AxiomMcp.Tools.Query
import AxiomMcp.Tools.Status

namespace AxiomMcp.Tools

open Lib Program
open Security (capabilityRead capabilityReconcile capabilityCheckpoint)

/-! ### The tools -/

/-- The registered tools. -/
inductive Tool
  | status | query | reconcile | job | verify | version
  deriving DecidableEq

/-- The name of a tool. -/
def Tool.name : Tool → Text
  | .status => "graph_status"
  | .query => "graph_query"
  | .reconcile => "graph_reconcile"
  | .job => "graph_job"
  | .verify => "graph_verify"
  | .version => "graph_version"

/-- The constant `TOOL_SPECS`, by the order of its tools. -/
def tools : List Tool := [.status, .query, .reconcile, .job, .verify, .version]

/-- The constant `TOOL_CAPABILITY`. -/
def Tool.capability : Tool → Text
  | .status => capabilityRead
  | .query => capabilityRead
  | .version => capabilityRead
  | .reconcile => capabilityReconcile
  | .job => capabilityReconcile
  | .verify => capabilityCheckpoint

/-- `handlers.get(name)` -/
def Tool.named? (name : Text) : Option Tool := tools.find? fun tool => decide (tool.name = name)

/-- `TOOL_CAPABILITY.get(name, CAPABILITY_READ)` -/
def toolCapability (name : Text) : Text := ((Tool.named? name).map Tool.capability).getD capabilityRead

section Dispatch

variable {Time : Type} [LinearOrder Time] (context : ToolContext Time) (arguments : JsonObject)

/-- The handler of a tool. -/
def Tool.handler : Tool → ToolProgram JsonObject
  | .status => graphStatus arguments context
  | .query => graphQuery arguments context
  | .reconcile => graphReconcile arguments context
  | .job => graphJob arguments context
  | .verify => graphVerify arguments context
  | .version => graphVersion arguments context

/-- `call_tool(name, arguments)` with the context of its caller. -/
def callTool (name : Text) : ToolProgram JsonObject :=
  match Tool.named? name with
  | none => .raise (refusal .notFound "unknown tool" [])
  | some tool => tool.handler context arguments

/-- A solution that some job may be of: it is visible, registered, and its name is as an answer has it. -/
def HasJobs : Prop :=
  ∃ solutionId : Text, solutionId ≠ [] ∧ solutionId.strip = solutionId ∧ Reachable context solutionId

/-- Who may read the status of a job may reconcile. -/
def Guarded (name : Text) : Prop :=
  name = Tool.job.name → (∃ request, jobRequest arguments context = .ok request) → HasJobs context →
    capabilityReconcile ∈ context.principal.capabilities

variable {context arguments}

/-! ### The checks of the handlers -/

theorem requireCapability_ok {principal : ToolPrincipal} {capability : Text}
    (held : principal.requireCapability capability = .ok ()) : capability ∈ principal.capabilities := by
  unfold ToolPrincipal.requireCapability at held
  split at held
  · cases held
  · next kept => exact not_not.mp kept

theorem require_ok {principal : ToolPrincipal} {capability solutionId : Text} {projectIds : List Text}
    (held : principal.require capability solutionId projectIds = .ok ()) :
    capability ∈ principal.capabilities := by
  obtain ⟨_, first, _⟩ := bind_eq_ok.mp held
  exact requireCapability_ok first

omit [LinearOrder Time] in
/-- Who opens a solution may read. -/
theorem openSolution_ok {solutionId : Text} (opened : context.openSolution solutionId = .ok ()) :
    capabilityRead ∈ context.principal.capabilities := by
  obtain ⟨_, held, _⟩ := bind_eq_ok.mp opened
  exact require_ok held

omit [LinearOrder Time] in
theorem scopedProjects_read {solutionId : Text} {projects : List Text}
    (selection : scopedProjects arguments context solutionId = .ok projects) :
    capabilityRead ∈ context.principal.capabilities := by
  obtain ⟨_, opened, _⟩ := bind_eq_ok.mp selection
  exact openSolution_ok opened

omit [LinearOrder Time] in
theorem statusRequest_read {request : StatusRequest} (asked : statusRequest arguments context = .ok request) :
    capabilityRead ∈ context.principal.capabilities := by
  obtain ⟨_, _, asked⟩ := bind_eq_ok.mp asked
  obtain ⟨solutionId, _, asked⟩ := bind_eq_ok.mp asked
  obtain ⟨lane, _, asked⟩ := bind_eq_ok.mp asked
  obtain ⟨includeDaemon, _, asked⟩ := bind_eq_ok.mp asked
  obtain ⟨projects, selection, _⟩ := bind_eq_ok.mp asked
  exact scopedProjects_read selection

omit [LinearOrder Time] in
theorem queryRequest_read {request : QueryRequest} (asked : queryRequest arguments context = .ok request) :
    capabilityRead ∈ context.principal.capabilities := by
  obtain ⟨operation, _, asked⟩ := bind_eq_ok.mp asked
  obtain ⟨_, _, asked⟩ := bind_eq_ok.mp asked
  obtain ⟨solutionId, _, asked⟩ := bind_eq_ok.mp asked
  obtain ⟨consistency, _, asked⟩ := bind_eq_ok.mp asked
  obtain ⟨pinned, _, asked⟩ := bind_eq_ok.mp asked
  obtain ⟨_, _, asked⟩ := bind_eq_ok.mp asked
  obtain ⟨projects, selection, _⟩ := bind_eq_ok.mp asked
  exact scopedProjects_read selection

omit [LinearOrder Time] in
theorem versionRequest_read {request : List Text × Bool}
    (asked : versionRequest arguments context = .ok request) :
    capabilityRead ∈ context.principal.capabilities := by
  obtain ⟨_, _, asked⟩ := bind_eq_ok.mp asked
  obtain ⟨components, _, asked⟩ := bind_eq_ok.mp asked
  obtain ⟨checkUpdate, _, asked⟩ := bind_eq_ok.mp asked
  obtain ⟨_, held, _⟩ := bind_eq_ok.mp asked
  exact requireCapability_ok held

omit [LinearOrder Time] in
theorem reconcileRequest_reconcile {request : ReconcileRequest}
    (asked : reconcileRequest arguments context = .ok request) :
    capabilityReconcile ∈ context.principal.capabilities := by
  obtain ⟨_, _, asked⟩ := bind_eq_ok.mp asked
  obtain ⟨solutionId, _, asked⟩ := bind_eq_ok.mp asked
  obtain ⟨scope, _, asked⟩ := bind_eq_ok.mp asked
  obtain ⟨reason, _, asked⟩ := bind_eq_ok.mp asked
  obtain ⟨waitMs, _, asked⟩ := bind_eq_ok.mp asked
  obtain ⟨requested, _, asked⟩ := bind_eq_ok.mp asked
  obtain ⟨_, _, asked⟩ := bind_eq_ok.mp asked
  obtain ⟨_, held, _⟩ := bind_eq_ok.mp asked
  exact require_ok held

omit [LinearOrder Time] in
theorem verifyRequest_checkpoint {request : VerifyRequest}
    (asked : verifyRequest arguments context = .ok request) :
    capabilityCheckpoint ∈ context.principal.capabilities := by
  obtain ⟨_, _, asked⟩ := bind_eq_ok.mp asked
  obtain ⟨solutionId, _, asked⟩ := bind_eq_ok.mp asked
  obtain ⟨expected, _, asked⟩ := bind_eq_ok.mp asked
  obtain ⟨barrier, _, asked⟩ := bind_eq_ok.mp asked
  obtain ⟨_, _, asked⟩ := bind_eq_ok.mp asked
  obtain ⟨requested, _, asked⟩ := bind_eq_ok.mp asked
  obtain ⟨_, held, _⟩ := bind_eq_ok.mp asked
  exact require_ok held

/-- A handler that begins with checks and succeeds has passed them. -/
theorem checks_passed {α β : Type} {checks : Except ToolError α} {rest : α → ToolProgram β}
    {calls : List (Call ToolOp ToolReply)} {result : β}
    (trace : Trace (ofExcept checks >>= rest) calls (.ok result)) : ∃ request, checks = .ok request := by
  rcases trace_ofExcept_bind_iff.mp trace with ⟨_, _, _, wrong⟩ | ⟨request, passed, _⟩
  · cases wrong
  · exact ⟨request, passed⟩

/-- **All handlers but `graph_job` check the capability of the table.** -/
theorem handler_capability {tool : Tool} (other : tool ≠ .job) {calls : List (Call ToolOp ToolReply)}
    {document : JsonObject} (trace : Trace (tool.handler context arguments) calls (.ok document)) :
    tool.capability ∈ context.principal.capabilities := by
  cases tool with
  | status =>
    obtain ⟨request, asked⟩ := checks_passed trace
    exact statusRequest_read asked
  | query =>
    obtain ⟨request, asked⟩ := checks_passed trace
    exact queryRequest_read asked
  | reconcile =>
    obtain ⟨request, asked⟩ := checks_passed trace
    exact reconcileRequest_reconcile asked
  | job => exact (other rfl).elim
  | verify =>
    obtain ⟨request, asked⟩ := checks_passed trace
    exact verifyRequest_checkpoint asked
  | version =>
    obtain ⟨request, asked⟩ := checks_passed trace
    exact versionRequest_read asked

/-! ### The status of a job -/

/-- The job of a solution that has ended. -/
def endedJob (solutionId : Text) : JsonObject :=
  [("job_id", .str "job-7"), ("state", .str "SUCCEEDED"), ("solution_id", .str solutionId),
    ("kind", .str "ParseBatch")]

omit [LinearOrder Time] in
/-- A reachable solution may have an ended job. -/
theorem endedJob_own {solutionId : Text} (named : solutionId ≠ []) (trimmed : solutionId.strip = solutionId)
    (reached : Reachable context solutionId) : OwnAnswer context (.ok (.obj (endedJob solutionId))) := by
  have text : answerText (endedJob solutionId) "solution_id"
      "the control plane returned a job without its solution" = .ok solutionId := by
    have found : Json.get? (endedJob solutionId) "solution_id" = some (.str solutionId) := rfl
    unfold answerText
    rw [found]
    dsimp only
    rw [trimmed, if_neg named]
  have viewed : ∃ view, jobView context.interpreter (endedJob solutionId) = .ok view ∧
      view.solutionId = solutionId := by
    unfold jobView
    rw [text]
    exact ⟨_, rfl, rfl⟩
  obtain ⟨view, viewed, rfl⟩ := viewed
  exact ⟨endedJob view.solutionId, view, rfl, viewed, reached⟩

omit [LinearOrder Time] in
/-- The solution of an own answer may have jobs. -/
theorem hasJobs_of_own {reply : Except ControlFault Json} (own : OwnAnswer context reply) : HasJobs context := by
  obtain ⟨answer, view, _, viewed, reached⟩ := own
  obtain ⟨message, named⟩ := jobView_solution viewed
  refine ⟨view.solutionId, ?_, ?_, reached⟩ <;> unfold answerText at named <;> split at named
  · split at named
    · cases named
    · next present => exact Except.ok.inj named ▸ present
  · cases named
  · split at named
    · cases named
    · rw [← Except.ok.inj named]
      exact Security.strip_strip _
  · cases named

omit [LinearOrder Time] in
/-- A call of `graph_job` can succeed exactly if its checks pass and the caller sees a solution with jobs. -/
theorem graphJob_succeeds_iff : (∃ calls document, Trace (graphJob arguments context) calls (.ok document)) ↔
    (∃ request, jobRequest arguments context = .ok request) ∧ HasJobs context := by
  constructor
  · rintro ⟨calls, document, trace⟩
    rcases trace_delegation.mp trace with ⟨_, _, _, wrong⟩ | ⟨request, reply, asked, _, ended⟩
    · cases wrong
    · exact ⟨⟨request, asked⟩, hasJobs_of_own ((jobAnswer_ok_iff request.action).mp ⟨document, ended.symm⟩)⟩
  · rintro ⟨⟨request, asked⟩, ⟨solutionId, named, trimmed, reached⟩⟩
    have own : OwnAnswer context (.ok (.obj (endedJob solutionId))) := endedJob_own named trimmed reached
    obtain ⟨document, ended⟩ := (jobAnswer_ok_iff request.action).mpr own
    exact ⟨_, document, trace_delegation.mpr (Or.inr ⟨request, _, asked, rfl, ended.symm⟩)⟩

/-! ### The two transports -/

theorem named?_eq_some {name : Text} {tool : Tool} (found : Tool.named? name = some tool) :
    tool.name = name := by
  have same := List.find?_some found
  exact of_decide_eq_true same

/-- **A tool answers only callers with the capability of the table exactly if it is not a job's status that
the caller may not read.** -/
theorem callTool_capability_iff (context : ToolContext Time) (arguments : JsonObject) (name : Text) :
    (∀ calls document, Trace (callTool context arguments name) calls (.ok document) →
        toolCapability name ∈ context.principal.capabilities) ↔ Guarded context arguments name := by
  cases found : Tool.named? name with
  | none =>
    have unknown : name ≠ Tool.job.name := by
      rintro rfl
      cases found
    refine iff_of_true (fun calls document trace => ?_) fun same => (unknown same).elim
    unfold callTool at trace
    rw [found] at trace
    cases (trace_raise_iff.mp trace).2
  | some tool =>
    obtain rfl := named?_eq_some found
    have dispatched : callTool context arguments tool.name = tool.handler context arguments := by
      unfold callTool
      rw [found]
    have required : toolCapability tool.name = tool.capability := by
      unfold toolCapability
      rw [found]
      rfl
    rw [dispatched, required]
    by_cases job : tool = .job
    · subst job
      constructor
      · intro all _ asked jobs
        obtain ⟨calls, document, trace⟩ := graphJob_succeeds_iff.mpr ⟨asked, jobs⟩
        exact all calls document trace
      · intro guarded calls document trace
        obtain ⟨asked, jobs⟩ := graphJob_succeeds_iff.mp ⟨calls, document, trace⟩
        exact guarded rfl asked jobs
    · refine iff_of_true (fun calls document trace => handler_capability job trace) fun same => ?_
      refine (job ?_).elim
      revert same
      cases tool <;> first | exact fun _ => rfl | exact fun same => absurd same (by decide)

end Dispatch

/-! ### A status read without the capability -/

/-- A caller that may only read. -/
def reader : ToolContext ℕ := shopContext (shopCaller {capabilityRead} none)

/-- The arguments of a status read. -/
def jobReadArguments : JsonObject := [("job_id", .str "job-7")]

/-- A caller that may only read is answered by `graph_job`. -/
theorem graph_job_answers_reader : ¬ ∀ (context : ToolContext ℕ) (arguments : JsonObject) (name : Text) calls
    document, Trace (callTool context arguments name) calls (.ok document) →
      toolCapability name ∈ context.principal.capabilities := by
  intro all
  have asked : ∃ request, jobRequest jobReadArguments reader = .ok request := ⟨_, rfl⟩
  have jobs : HasJobs reader := ⟨"shop", by decide, by decide, by decide, _, rfl⟩
  obtain ⟨calls, document, trace⟩ := graphJob_succeeds_iff.mpr ⟨asked, jobs⟩
  have held := all reader jobReadArguments Tool.job.name calls document trace
  exact absurd held (by decide)

end AxiomMcp.Tools
