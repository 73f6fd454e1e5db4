/-
**Who is answered over which vector.**

A call of `graph_query` loads a scope and answers over it (`AnswersOver`). A pinned request names the id of the
vector it wants, and a cursor was issued for one; both are compared with the id of the scope that was loaded.

* `graphQuery_answersOver`: every answer is made over a scope;
* `checkPinned_iff`: which pinned requests are accepted;
* `AnswersOver.cursor`: the cursor that a call presents was issued for the id of its scope;
* `vector_identified`: **an id stands for the pairs of project and generation that a scope pins**, and a pinned
  request or a presented cursor is answered over those that it was issued for alone.
-/

import AxiomMcp.Query.Vectors
import AxiomMcp.Tools.CoverageReports

namespace AxiomMcp.Tools

open Lib Program
open Query

/-! ### Answers and their scopes -/

section Answers

variable {Time : Type} [LinearOrder Time] (context : ToolContext Time) (arguments : JsonObject)

/-- The id that a call compares its pins with. -/
def vectorId (scope : GraphSet) : Text := catalogGenerationId context.interpreter context.sha256 scope

/-- A call of `graph_query` that loaded this scope and answered with this document. -/
structure AnswersOver (calls : List (Call ToolOp ToolReply)) (request : QueryRequest) (scope : GraphSet)
    (document : JsonObject) : Prop where
  trace : Trace (graphQuery arguments context) calls (.ok document)
  asked : queryRequest arguments context = .ok request
  loaded : ∃ fresh loading, calls = fresh ++ loading ∧ Trace (ensureFresh context request) fresh (.ok ()) ∧
    Trace (loadScope context request.solutionId request.projects) loading (.ok scope)

/-- The cursors of a context are those that these calls on its store have left. -/
def CursorsAfter (earlier : List (CursorCall Time)) : Prop :=
  context.cursors = (reached context.interpreter context.sha256 context.cursorClock earlier).store

/-- One of these calls issued this cursor for the id of a scope. -/
def IssuedFor (earlier : List (CursorCall Time)) (token : Text) (scope : GraphSet) : Prop :=
  ∃ entry ∈ (reached context.interpreter context.sha256 context.cursorClock earlier).issued,
    entry.record.cursorId = token ∧ entry.request.catalogGenerationId = vectorId context scope

variable {context arguments} {calls : List (Call ToolOp ToolReply)} {request : QueryRequest}
  {scope issued : GraphSet} {document : JsonObject}

/-- Every answer is made over a scope. -/
theorem graphQuery_answersOver (trace : Trace (graphQuery arguments context) calls (.ok document)) :
    ∃ request scope, AnswersOver context arguments calls request scope document := by
  rcases trace_ofExcept_bind_iff.mp trace with ⟨_, _, _, wrong⟩ | ⟨request, asked, later⟩
  · cases wrong
  rcases trace_bind_iff.mp later with ⟨_, _, wrong⟩ | ⟨_, fresh, rest, rfl, checked, later⟩
  · cases wrong
  rcases trace_bind_iff.mp later with ⟨_, _, wrong⟩ | ⟨scope, loading, silent, rfl, loads, later⟩
  · cases wrong
  obtain ⟨rfl, ended⟩ := trace_ofExcept_iff.mp later
  exact ⟨request, scope, trace, asked, fresh, loading, by rw [List.append_nil], checked, loads⟩

/-- The answer over the scope of a call is its document. -/
theorem AnswersOver.answered (answers : AnswersOver context arguments calls request scope document) :
    answerQuery arguments context request scope = .ok document := by
  obtain ⟨trace, asked, fresh, loading, rfl, checked, loads⟩ := answers
  have again : Trace (graphQuery arguments context) (fresh ++ loading)
      (answerQuery arguments context request scope) := by
    refine trace_ofExcept_bind_iff.mpr (Or.inr ⟨request, asked, ?_⟩)
    refine trace_bind_iff.mpr (Or.inr ⟨(), fresh, loading, rfl, checked, ?_⟩)
    refine trace_bind_iff.mpr (Or.inr ⟨scope, loading, [], (List.append_nil _).symm, loads, ?_⟩)
    exact trace_ofExcept_iff.mpr ⟨rfl, rfl⟩
  exact (trace.ends again).symm

/-! ### Pinned requests -/

/-- A pinned request is accepted against its id alone. -/
theorem checkPinned_iff {pinned generation : Text} (names : request.pinned = some pinned) :
    checkPinned request generation = .ok () ↔ pinned = generation := by
  unfold checkPinned
  rw [names]
  split
  · next apart => exact iff_of_false (fun wrong => nomatch wrong) fun same => apart.2 (congrArg some same)
  · next equal =>
    refine iff_of_true rfl (Option.some.inj (not_not.mp fun other => equal ⟨?_, other⟩))
    exact Option.some_ne_none pinned

/-- The checks that an answered request has passed. -/
theorem answerQuery_passes (answered : answerQuery arguments context request scope = .ok document) :
    checkPinned request (vectorId context scope) = .ok () ∧
      resolveCursor arguments context request (vectorId context scope) = .ok () := by
  obtain ⟨⟨⟩, pinned, answered⟩ := bind_eq_ok.mp answered
  obtain ⟨budgets, _, answered⟩ := bind_eq_ok.mp answered
  obtain ⟨⟨⟩, cursor, _⟩ := bind_eq_ok.mp answered
  exact ⟨pinned, cursor⟩

/-! ### Presented cursors -/

/-- The record of a cursor that resolves is of the generation that it is used against. -/
theorem resolve_generation {py : Interpreter} {sha256 : Bytes → Text} {clock : Clock Time}
    {store : CursorStore Time} {asked : ResolveRequest} {moment : Time} {record : CursorRecord Time}
    (resolved : store.resolve py sha256 clock asked moment = .ok record) :
    store.records.get? asked.cursorId = some record ∧
      record.catalogGenerationId = asked.catalogGenerationId := by
  have kept : ∀ value what checked : Text, (sha256Text value what).mapError CursorFault.refused = .ok checked →
      checked = value := by
    intro value what checked read
    have read := mapError_eq_ok.mp read
    unfold sha256Text at read
    split at read
    · exact (Except.ok.inj read).symm
    · cases read
  obtain ⟨token, named, resolved⟩ := bind_eq_ok.mp resolved
  obtain rfl := kept _ _ _ named
  obtain ⟨found, finds, resolved⟩ := bind_eq_ok.mp resolved
  obtain ⟨⟨⟩, bound, same⟩ := bind_eq_ok.mp resolved
  obtain rfl := Except.ok.inj same
  obtain ⟨⟨⟩, _, bound⟩ := bind_eq_ok.mp bound
  obtain ⟨⟨⟩, generation, _⟩ := bind_eq_ok.mp bound
  obtain ⟨used, named, compared⟩ := bind_eq_ok.mp generation
  obtain rfl := kept _ _ _ named
  refine ⟨?_, ?_⟩
  · unfold CursorStore.find at finds
    split at finds
    · cases finds
    · next stored =>
      rw [stored, Except.ok.inj finds]
  · split at compared
    · cases compared
    · next equal => exact (not_not.mp equal).symm

/-- The record of a cursor that a request presents. -/
theorem resolveCursor_generation {generation : Text} {value : Json}
    (presented : argument arguments "cursor" = some value)
    (accepted : resolveCursor arguments context request generation = .ok ()) :
    ∃ token record, requireText arguments "cursor" = .ok token ∧
      context.cursors.records.get? token = some record ∧ record.catalogGenerationId = generation := by
  unfold resolveCursor at accepted
  rw [presented] at accepted
  obtain ⟨token, named, accepted⟩ := bind_eq_ok.mp accepted
  obtain ⟨record, resolved, _⟩ := map_eq_ok.mp accepted
  obtain ⟨stored, same⟩ := resolve_generation (mapError_eq_ok.mp resolved)
  exact ⟨token, record, named, stored, same⟩

/-- The cursor that a call presents was issued for the id of its scope, and for no other id. -/
theorem AnswersOver.cursor (answers : AnswersOver context arguments calls request scope document)
    {value : Json} (presented : argument arguments "cursor" = some value)
    {earlier : List (CursorCall Time)} (after : CursorsAfter context earlier)
    (json : ∀ call ∈ earlier, IsJson context.interpreter call.binding)
    (free : CollisionFree context.sha256
      ((reached context.interpreter context.sha256 context.cursorClock earlier).inputs context.interpreter)) :
    ∃ token, requireText arguments "cursor" = .ok token ∧ IssuedFor context earlier token scope ∧
      (IssuedFor context earlier token issued → vectorId context issued = vectorId context scope) := by
  obtain ⟨token, record, named, stored, generation⟩ :=
    resolveCursor_generation presented (answerQuery_passes answers.answered).2
  have inv := runInv_reached json free
  rw [after] at stored
  obtain ⟨entry, here, rfl, same⟩ := (inv.stored token record).mp stored
  have recorded := (inv.made entry here).records.generation
  refine ⟨token, named, ⟨entry, here, same, recorded.symm.trans generation⟩, ?_⟩
  rintro ⟨other, there, same', bound⟩
  obtain rfl := inv.entry_eq free here there (same.trans same'.symm)
  exact bound.symm.trans (recorded.symm.trans generation)

/-! ### The vector of an id -/

/-- **The catalog generation id identifies the vector.** Two scopes have one id exactly if they pin the same
pairs of project and generation. So a pinned request passes its check against no other scope, and what a call
answers, it answers over the pairs that its pinned id or its cursor was issued for. -/
theorem vector_identified (free : CollisionFree context.sha256
      [issued.hashed context.interpreter, scope.hashed context.interpreter]) :
    (vectorId context issued = vectorId context scope ↔ SamePins issued scope) ∧
      (∀ request : QueryRequest, request.pinned = some (vectorId context issued) →
        (checkPinned request (vectorId context scope) = .ok () ↔ SamePins issued scope)) ∧
      ∀ calls request document, AnswersOver context arguments calls request scope document →
        (request.pinned = some (vectorId context issued) → SamePins issued scope) ∧
        ∀ value, argument arguments "cursor" = some value →
          ∀ earlier, CursorsAfter context earlier →
            (∀ call ∈ earlier, IsJson context.interpreter call.binding) →
            CollisionFree context.sha256 ((reached context.interpreter context.sha256 context.cursorClock
              earlier).inputs context.interpreter) →
            ∃ token, requireText arguments "cursor" = .ok token ∧ IssuedFor context earlier token scope ∧
              (IssuedFor context earlier token issued → SamePins issued scope) := by
  have identified : vectorId context issued = vectorId context scope ↔ SamePins issued scope :=
    generationId_eq_iff free
  have pins : ∀ request : QueryRequest, request.pinned = some (vectorId context issued) →
      (checkPinned request (vectorId context scope) = .ok () ↔ SamePins issued scope) :=
    fun request names => (checkPinned_iff names).trans identified
  refine ⟨identified, pins, fun calls request document answers => ⟨fun names => ?_, ?_⟩⟩
  · exact (pins request names).mp (answerQuery_passes answers.answered).1
  · intro value presented earlier after json apart
    obtain ⟨token, named, current, others⟩ := answers.cursor presented after json apart
    exact ⟨token, named, current, fun there => identified.mp (others there)⟩

end Answers

/-! ### Two projects -/

/-- Two projects without symbols. -/
def vectorPair : GraphSet :=
  plainScope [plainGraph "core" [] [] none (by decide), plainGraph "web" [] [] none (by decide)]
    ⟨by decide, List.nodup_nil⟩

/-- The same two, the other way round, and a third that is missing. -/
def vectorTurned : GraphSet :=
  { plainScope [plainGraph "web" [] [] none (by decide), plainGraph "core" [] [] none (by decide)]
      ⟨by decide, List.nodup_nil⟩ with
    missingProjects := ["ops"]
    missing_identifiers := by decide
    missing_normal := by decide
    missing_not_pinned := by decide }

/-- The same two, one of them in another generation. -/
def vectorRenewed : GraphSet :=
  plainScope [plainGraph "core" [] [] none (by decide),
    { plainGraph "web" [] [] none (by decide) with
      generationId := digest '1'
      generationId_digest := isSha256_digest (by decide) }] ⟨by decide, List.nodup_nil⟩

/-- A context whose digest tells these apart. -/
def vectorReader : ToolContext ℕ :=
  { shopContext (shopCaller {Security.capabilityRead} none) with
    sha256 := fun bytes => if bytes = vectorRenewed.hashed .ascii then digest 'b' else digest 'a' }

/-- The order of the members and a missing project change nothing, another generation does. -/
theorem vector_identified_pair :
    vectorId vectorReader vectorTurned = vectorId vectorReader vectorPair ∧
      vectorId vectorReader vectorRenewed ≠ vectorId vectorReader vectorPair := by
  have turned : CollisionFree vectorReader.sha256 [vectorTurned.hashed vectorReader.interpreter,
      vectorPair.hashed vectorReader.interpreter] := by
    unfold CollisionFree
    decide +kernel
  have renewed : CollisionFree vectorReader.sha256 [vectorRenewed.hashed vectorReader.interpreter,
      vectorPair.hashed vectorReader.interpreter] := by
    unfold CollisionFree
    decide +kernel
  have swapped : SamePins vectorTurned vectorPair := fun _ => (List.Perm.swap _ _ _).mem_iff
  refine ⟨(@vector_identified _ _ vectorReader [] _ _ turned).1.mpr swapped, fun same => ?_⟩
  have pins := (@vector_identified _ _ vectorReader [] _ _ renewed).1.mp same
  exact absurd ((pins ("web", digest '0')).mpr (by decide)) (by decide)

end AxiomMcp.Tools
