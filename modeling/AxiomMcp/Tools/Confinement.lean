/-
**Work for a caller that is limited to some projects.**

Three tools ask the control plane for work: `graph_reconcile`, `graph_verify` and a `graph_query` that requires
freshness. To the control plane a request without project ids means the whole solution.

* `Confined`: every request that went out names its projects, and the caller is scoped to all of them;
* `resolveProjects_ok`: what `resolve_projects` returns is in the scope of the caller;
* `delegated_confined_iff`: a call is confined **exactly if it is a query, is refused, or has a selector of
  projects**: without a selector the two other tools delegate the whole solution.
-/

import AxiomMcp.Tools.Cancel
import AxiomMcp.Tools.Query

namespace AxiomMcp.Tools

open Lib Program
open Query (CursorStore)

/-! ### Confined work -/

/-- A request that names its projects, all of them among some ids. -/
def NamesProjects (ids : Finset Text) (request : JsonObject) : Prop :=
  ∃ projects, projects ≠ [] ∧ Json.get? request "project_ids" = some (.arr (projects.map .str)) ∧
    ∀ project ∈ projects, project ∈ ids

/-- Work for some projects. -/
def ControlOp.Confined (ids : Finset Text) : ControlOp → Prop
  | .reconcile request => NamesProjects ids request
  | .verify request => NamesProjects ids request
  | _ => False

/-- Every request of a call is confined. -/
def Confined (ids : Finset Text) (calls : List (Call ToolOp ToolReply)) : Prop :=
  ∀ op reply, (⟨.control op, reply⟩ : Call ToolOp ToolReply) ∈ calls → op.Confined ids

/-- The arguments select projects. -/
def Selects (arguments : JsonObject) : Prop :=
  argument arguments "project_id" ≠ none ∨ argument arguments "project_ids" ≠ none

/-- The tools that ask for work. -/
inductive WorkTool
  | reconcile | verify | query
  deriving DecidableEq

section Work

variable {Time : Type} [LinearOrder Time] (context : ToolContext Time) (arguments : JsonObject)

/-- The handler of a tool. -/
def WorkTool.program : WorkTool → ToolProgram JsonObject
  | .reconcile => graphReconcile arguments context
  | .verify => graphVerify arguments context
  | .query => graphQuery arguments context

/-- A call for work selects projects where its checks let it pass; a query always does. -/
def WorkTool.Narrowed : WorkTool → Prop
  | .reconcile => ∀ request, reconcileRequest arguments context = .ok request → Selects arguments
  | .verify => ∀ request, verifyRequest arguments context = .ok request → Selects arguments
  | .query => True

variable {context arguments} {ids : Finset Text}

/-! ### Selected projects -/

theorem mem_firsts {items : List Text} {item : Text} : item ∈ firsts items ↔ item ∈ items := by
  unfold firsts
  rw [Dict.mem_values_firstBy]
  constructor
  · exact fun found => List.mem_of_find?_eq_some found
  · intro member
    exact Dict.find?_of_unique member (by simp) fun other _ same => of_decide_eq_true same

theorem firsts_ne_nil {items : List Text} (some : items ≠ []) : firsts items ≠ [] := by
  obtain ⟨item, member⟩ := List.exists_mem_of_ne_nil items some
  exact List.ne_nil_of_mem (mem_firsts.mpr member)

/-- A scope was selected exactly where `project_scope` returns one, and it names a project. -/
theorem projectScope_ok {py : Interpreter} {requested : Option (List Text)}
    (selection : projectScope py arguments = .ok requested) :
    (requested = none ∧ ¬ Selects arguments) ∨
      ∃ projects, requested = some projects ∧ projects ≠ [] ∧ Selects arguments := by
  unfold projectScope at selection
  unfold Selects
  split at selection
  · cases selection
  · next one _ =>
    obtain ⟨project, _, rfl⟩ := map_eq_ok.mp selection
    exact Or.inr ⟨[project], rfl, List.cons_ne_nil _ _, Or.inl (by rw [one]; exact Option.some_ne_none _)⟩
  · next _ many =>
    obtain ⟨seen, _, selection⟩ := bind_eq_ok.mp selection
    split at selection
    · cases selection
    · next some =>
      obtain rfl := Except.ok.inj selection
      exact Or.inr ⟨firsts seen, rfl, firsts_ne_nil some, Or.inr (by rw [many]; exact Option.some_ne_none _)⟩
  · cases selection
  · next one many =>
    obtain rfl := Except.ok.inj selection
    exact Or.inl ⟨rfl, not_or.mpr ⟨not_not.mpr one, not_not.mpr many⟩⟩

omit [LinearOrder Time] in
/-- What `resolve_projects` returns is in the scope of the caller. -/
theorem resolveProjects_ok {solutionId : Text} {requested : Option (List Text)} {projects : List Text}
    (resolved : context.resolveProjects solutionId requested = .ok projects) :
    (∀ project ∈ projects, context.principal.admits project = true) ∧
      ∀ named, requested = some named → projects = named := by
  obtain ⟨available, _, resolved⟩ := bind_eq_ok.mp resolved
  cases requested with
  | none =>
    obtain rfl := Except.ok.inj resolved
    exact ⟨fun project member => (List.mem_filter.mp member).2, fun _ none => nomatch none⟩
  | some requested =>
    dsimp only at resolved
    split at resolved
    · next all =>
      obtain rfl := Except.ok.inj resolved
      refine ⟨fun project member => ?_, fun named same => (Option.some.inj same)⟩
      exact (Bool.and_eq_true_iff.mp (List.all_eq_true.mp all project member)).2
    · cases resolved

omit [LinearOrder Time] in
/-- Who is limited to some projects is scoped to these. -/
theorem admits_iff (restricted : context.principal.projectIds = some ids) {project : Text} :
    context.principal.admits project = true ↔ project ∈ ids := by
  unfold ToolPrincipal.admits
  rw [restricted]
  exact decide_eq_true_iff

omit [LinearOrder Time] in
/-- What the two delegating tools select: the projects that are named, or none. -/
theorem selectedProjects_ok {solutionId : Text} {requested : Option (List Text)} {projects : List Text}
    (selection : projectScope context.interpreter arguments = .ok requested)
    (selected : selectedProjects context solutionId requested = .ok projects) :
    (projects = [] ∧ ¬ Selects arguments) ∨
      (projects ≠ [] ∧ Selects arguments ∧ ∀ project ∈ projects, context.principal.admits project = true) := by
  rcases projectScope_ok selection with ⟨rfl, whole⟩ | ⟨named, rfl, some, selects⟩
  · exact Or.inl ⟨(Except.ok.inj selected).symm, whole⟩
  · have resolved : context.resolveProjects solutionId (Option.some named) = .ok projects := selected
    obtain ⟨admitted, same⟩ := resolveProjects_ok resolved
    obtain rfl := same named rfl
    exact Or.inr ⟨some, selects, admitted⟩

/-- The field of some projects names them. -/
theorem projectField_some {projects : List Text} (some : projects ≠ []) :
    projectField projects = ([("project_ids", .arr (projects.map .str))] : JsonObject) := if_neg some

/-! ### The requests -/

omit [LinearOrder Time] in
/-- The document of a reconcile is confined exactly if it selects projects. -/
theorem reconcile_document_iff (restricted : context.principal.projectIds = some ids)
    {request : ReconcileRequest} (asked : reconcileRequest arguments context = .ok request) :
    NamesProjects ids request.document ↔ Selects arguments := by
  obtain ⟨_, _, asked⟩ := bind_eq_ok.mp asked
  obtain ⟨solutionId, _, asked⟩ := bind_eq_ok.mp asked
  obtain ⟨scope, _, asked⟩ := bind_eq_ok.mp asked
  obtain ⟨reason, _, asked⟩ := bind_eq_ok.mp asked
  obtain ⟨waitMs, _, asked⟩ := bind_eq_ok.mp asked
  obtain ⟨requested, selection, asked⟩ := bind_eq_ok.mp asked
  obtain ⟨_, _, asked⟩ := bind_eq_ok.mp asked
  obtain ⟨_, _, asked⟩ := bind_eq_ok.mp asked
  obtain ⟨_, _, asked⟩ := bind_eq_ok.mp asked
  obtain ⟨projects, selected, asked⟩ := bind_eq_ok.mp asked
  obtain ⟨_, _, asked⟩ := bind_eq_ok.mp asked
  obtain rfl := Except.ok.inj asked
  rcases selectedProjects_ok selection selected with ⟨rfl, whole⟩ | ⟨some, selects, admitted⟩
  · refine iff_of_false ?_ whole
    rintro ⟨projects, _, found, _⟩
    cases found
  · refine iff_of_true ⟨projects, some, ?_, fun project member => ?_⟩ selects
    · unfold ReconcileRequest.document
      rw [projectField_some some]
      rfl
    · exact (admits_iff restricted).mp (admitted project member)

omit [LinearOrder Time] in
/-- The document of a verification is confined exactly if it selects projects. -/
theorem verify_document_iff (restricted : context.principal.projectIds = some ids)
    {request : VerifyRequest} (asked : verifyRequest arguments context = .ok request) :
    NamesProjects ids request.document ↔ Selects arguments := by
  obtain ⟨_, _, asked⟩ := bind_eq_ok.mp asked
  obtain ⟨solutionId, _, asked⟩ := bind_eq_ok.mp asked
  obtain ⟨expected, _, asked⟩ := bind_eq_ok.mp asked
  obtain ⟨barrier, _, asked⟩ := bind_eq_ok.mp asked
  obtain ⟨_, _, asked⟩ := bind_eq_ok.mp asked
  obtain ⟨requested, selection, asked⟩ := bind_eq_ok.mp asked
  obtain ⟨_, _, asked⟩ := bind_eq_ok.mp asked
  obtain ⟨_, _, asked⟩ := bind_eq_ok.mp asked
  obtain ⟨projects, selected, asked⟩ := bind_eq_ok.mp asked
  obtain ⟨_, _, asked⟩ := bind_eq_ok.mp asked
  obtain rfl := Except.ok.inj asked
  rcases selectedProjects_ok selection selected with ⟨rfl, whole⟩ | ⟨some, selects, admitted⟩
  · refine iff_of_false ?_ whole
    rintro ⟨projects, _, found, _⟩
    -- the fields besides the projects have other names
    unfold VerifyRequest.document projectField at found
    cases expected <;> cases barrier <;> cases found
  · refine iff_of_true ⟨projects, some, ?_, fun project member => ?_⟩ selects
    · unfold VerifyRequest.document
      rw [projectField_some some]
      rfl
    · exact (admits_iff restricted).mp (admitted project member)

omit [LinearOrder Time] in
/-- A query that may be answered has projects, all of them in the scope of the caller. -/
theorem scopedProjects_ok {solutionId : Text} {projects : List Text}
    (selection : scopedProjects arguments context solutionId = .ok projects) :
    projects ≠ [] ∧ ∀ project ∈ projects, context.principal.admits project = true := by
  obtain ⟨_, _, selection⟩ := bind_eq_ok.mp selection
  obtain ⟨requested, _, selection⟩ := bind_eq_ok.mp selection
  obtain ⟨resolved, found, selection⟩ := bind_eq_ok.mp selection
  split at selection
  · cases selection
  · next some =>
    obtain rfl := Except.ok.inj selection
    exact ⟨some, (resolveProjects_ok found).1⟩

omit [LinearOrder Time] in
/-- The projects of a request are those that were selected. -/
theorem queryRequest_projects {request : QueryRequest} (asked : queryRequest arguments context = .ok request) :
    scopedProjects arguments context request.solutionId = .ok request.projects := by
  obtain ⟨operation, _, asked⟩ := bind_eq_ok.mp asked
  obtain ⟨_, _, asked⟩ := bind_eq_ok.mp asked
  obtain ⟨solutionId, _, asked⟩ := bind_eq_ok.mp asked
  obtain ⟨consistency, _, asked⟩ := bind_eq_ok.mp asked
  obtain ⟨pinned, _, asked⟩ := bind_eq_ok.mp asked
  obtain ⟨_, _, asked⟩ := bind_eq_ok.mp asked
  obtain ⟨projects, selection, asked⟩ := bind_eq_ok.mp asked
  obtain rfl := Except.ok.inj asked
  exact selection

/-! ### The calls -/

/-- A delegating tool is confined exactly if its one request is. -/
theorem delegation_confined_iff {α : Type} {checks : Except ToolError α} {op : α → ControlOp}
    {finish : α → JsonObject → Except ToolError JsonObject} {calls : List (Call ToolOp ToolReply)}
    {outcome : Except ToolError JsonObject}
    (trace : Trace (do
        let request ← ofExcept checks
        let answer ← delegate (op request)
        ofExcept (finish request answer)) calls outcome) :
    Confined ids calls ↔ ∀ request, checks = .ok request → (op request).Confined ids := by
  rcases trace_delegation.mp trace with ⟨error, refused, rfl, rfl⟩ | ⟨request, reply, asked, rfl, rfl⟩
  · refine iff_of_true (fun _ _ none => nomatch none) fun request asked => ?_
    rw [refused] at asked
    cases asked
  · constructor
    · intro confined request' asked'
      obtain rfl := Except.ok.inj (asked.symm.trans asked')
      exact confined _ reply (List.mem_singleton.mpr rfl)
    · intro confined op' reply' member
      cases List.mem_singleton.mp member
      exact confined request asked

/-- What a source asks is no work. -/
theorem confined_of_source {α : Type} {p : ToolProgram α} {calls : List (Call ToolOp ToolReply)}
    {outcome : Except ToolError α} (trace : Trace p calls outcome) (only : p.Only ToolOp.OfSource) :
    Confined ids calls :=
  fun _ _ member => (trace.only only _ member).elim

theorem Confined.append {one other : List (Call ToolOp ToolReply)} (first : Confined ids one)
    (second : Confined ids other) : Confined ids (one ++ other) := by
  intro op reply member
  rcases List.mem_append.mp member with here | there
  · exact first op reply here
  · exact second op reply there

omit [LinearOrder Time] in
/-- The reconcile of a query names the projects of the query. -/
theorem ensureFresh_confined {request : QueryRequest} {calls : List (Call ToolOp ToolReply)}
    {outcome : Except ToolError Unit} (trace : Trace (ensureFresh context request) calls outcome)
    (named : request.projects ≠ []) (inside : ∀ project ∈ request.projects, project ∈ ids) :
    Confined ids calls := by
  unfold ensureFresh at trace
  split at trace
  · rcases trace_ofExcept_bind_iff.mp trace with ⟨_, _, rfl, _⟩ | ⟨_, _, trace⟩
    · exact fun _ _ none => nomatch none
    · obtain ⟨reply, rest, rfl, after⟩ := trace_call_iff.mp (show Trace (.call _ _) calls outcome from trace)
      have after : Trace (ofExcept (reply.mapError (ControlFault.translate
          "the graphd control plane could not accept a reconcile for this request")) >>=
            fun handle => .raise (notReady handle)) rest outcome := after
      -- after the reply nothing is asked
      have silent : rest = [] := by
        rcases trace_ofExcept_bind_iff.mp after with ⟨_, _, rfl, _⟩ | ⟨_, _, after⟩
        · rfl
        · exact (trace_raise_iff.mp after).1
      subst silent
      intro op reply' member
      cases List.mem_singleton.mp member
      exact ⟨request.projects, named, rfl, inside⟩
  · obtain ⟨rfl, _⟩ := trace_done_iff.mp trace
    exact fun _ _ none => nomatch none

/-- **Work is confined to the projects of a restricted caller exactly if the call is a query, is refused, or
selects projects.** -/
theorem delegated_confined_iff (tool : WorkTool) (restricted : context.principal.projectIds = some ids)
    {calls : List (Call ToolOp ToolReply)} {outcome : Except ToolError JsonObject}
    (trace : Trace (tool.program context arguments) calls outcome) :
    Confined ids calls ↔ tool.Narrowed context arguments := by
  cases tool with
  | reconcile =>
    have one := @delegation_confined_iff ids _ _ (fun request => .reconcile (ReconcileRequest.document request))
      _ _ _ trace
    exact one.trans <| forall₂_congr fun request asked => reconcile_document_iff restricted asked
  | verify =>
    have one := @delegation_confined_iff ids _ _ (fun request => .verify (VerifyRequest.document request))
      _ _ _ trace
    exact one.trans <| forall₂_congr fun request asked => verify_document_iff restricted asked
  | query =>
    refine iff_of_true ?_ trivial
    rcases trace_ofExcept_bind_iff.mp trace with ⟨_, _, rfl, _⟩ | ⟨request, asked, trace⟩
    · exact fun _ _ none => nomatch none
    · obtain ⟨named, admitted⟩ := scopedProjects_ok (queryRequest_projects asked)
      have inside : ∀ project ∈ request.projects, project ∈ ids := fun project member =>
        (admits_iff restricted).mp (admitted project member)
      rcases trace_bind_iff.mp trace with ⟨_, fresh, _⟩ | ⟨_, one, other, rfl, fresh, loads⟩
      · exact ensureFresh_confined fresh named inside
      · refine (ensureFresh_confined fresh named inside).append (confined_of_source loads ?_)
        exact (only_loadScope _ _ _).bind fun scope => only_ofExcept _

end Work

/-! ### A full reconcile by a restricted caller -/

/-- A caller that is limited to one of the two projects of the shop. -/
def coreReconciler : ToolContext ℕ :=
  shopContext (shopCaller {Security.capabilityReconcile} (some {("core" : Text)}))

/-- The arguments of a reconcile without a selector. -/
def fullArguments : JsonObject :=
  [("solution_id", .str "shop"), ("scope", .str "full"), ("reason", .str "rebuild")]

/-- The arguments of a reconcile of one project. -/
def coreArguments : JsonObject :=
  [("solution_id", .str "shop"), ("scope", .str "project"), ("project_id", .str "core"),
    ("reason", .str "rebuild")]

/-- The whole solution is reconciled for a caller that is limited to one project of it. -/
theorem reconcile_whole_solution : ¬ ∀ (context : ToolContext ℕ) (arguments : JsonObject) (ids : Finset Text)
    (tool : WorkTool) calls outcome, context.principal.projectIds = some ids →
      Trace (tool.program context arguments) calls outcome → Confined ids calls := by
  intro all
  have asked : ∃ request, reconcileRequest fullArguments coreReconciler = .ok request := ⟨_, rfl⟩
  obtain ⟨request, asked⟩ := asked
  have trace : Trace (WorkTool.reconcile.program coreReconciler fullArguments)
      [⟨.control (.reconcile request.document), .error (.other "TimeoutError")⟩] _ :=
    trace_delegation.mpr (Or.inr ⟨request, .error (.other "TimeoutError"), asked, rfl, rfl⟩)
  have confined := all _ _ {("core" : Text)} .reconcile _ _ rfl trace
  have names : NamesProjects {("core" : Text)} request.document :=
    confined (.reconcile request.document) _ List.mem_cons_self
  have selects : Selects fullArguments := (reconcile_document_iff rfl asked).mp names
  exact selects.elim (fun wrong => wrong rfl) fun wrong => wrong rfl

/-- A reconcile of the caller's own project. -/
theorem reconcile_own_project : ∃ calls outcome,
    Trace (WorkTool.reconcile.program coreReconciler coreArguments) calls outcome ∧
      (Confined {("core" : Text)} calls ↔ WorkTool.reconcile.Narrowed coreReconciler coreArguments) ∧
      calls.length = 1 := by
  have asked : ∃ request, reconcileRequest coreArguments coreReconciler = .ok request := ⟨_, rfl⟩
  obtain ⟨request, asked⟩ := asked
  have trace : Trace (WorkTool.reconcile.program coreReconciler coreArguments)
      [⟨.control (.reconcile request.document), .error (.other "TimeoutError")⟩] _ :=
    trace_delegation.mpr (Or.inr ⟨request, .error (.other "TimeoutError"), asked, rfl, rfl⟩)
  exact ⟨_, _, trace, delegated_confined_iff .reconcile rfl trace, rfl⟩

end AxiomMcp.Tools
