/-
**What the checks of a query refuse with.**

A check refuses with an `AxiomError`, which always has a canonical code (`Refuses`). Two checks may raise
something else: printing the value of a refused digest raises on an integer of too many digits, and the
query of a known cursor may have no UTF-8 bytes.

* `queryRequest_escapes_iff`, `resolveCursor_escapes_iff`, `answer_escapes_iff`: when exactly they do;
* `packed_escapes_iff`: an answer is not packed for another reason than its size exactly if it cannot be
  encoded.
-/

import AxiomMcp.Query.CursorRuns
import AxiomMcp.Query.SearchComplete
import AxiomMcp.Tools.Confinement

namespace AxiomMcp.Tools

open Lib
open Query
open Security (capabilityRead)

/-- An `AxiomError`. -/
def ToolError.IsGateway (raised : ToolError) : Prop := ∃ error, raised = .gateway error

/-- A computation raises nothing but an `AxiomError`. -/
abbrev Refuses {α : Type} (x : Except ToolError α) : Prop := Raises ToolError.IsGateway x

/-- An exception that is no `AxiomError`. -/
def Escapes {α : Type} (x : Except ToolError α) : Prop :=
  ∃ raised, x = .error raised ∧ ¬ raised.IsGateway

theorem isGateway_refusal (code : ErrorCode) (message : Text) (details : JsonObject) :
    (refusal code message details).IsGateway := ⟨_, rfl⟩

theorem refuses_refusal {α : Type} (code : ErrorCode) (message : Text) (details : JsonObject) :
    Refuses (.error (refusal code message details) : Except ToolError α) :=
  .error (isGateway_refusal code message details)

section Escapes

variable {α β : Type} {x : Except ToolError α}

theorem Refuses.not_escapes (refuses : Refuses x) : ¬ Escapes x :=
  fun ⟨raised, failed, other⟩ => other (refuses raised failed)

theorem not_escapes_ok (a : α) : ¬ Escapes (.ok a : Except ToolError α) :=
  Refuses.not_escapes (Raises.ok a)

/-- What escapes behind a check that refuses escapes from what it goes on with. -/
theorem escapes_bind {f : α → Except ToolError β} (refuses : Refuses x) :
    Escapes (x >>= f) ↔ ∃ a, x = .ok a ∧ Escapes (f a) := by
  constructor
  · rintro ⟨raised, failed, other⟩
    rcases bind_eq_error.mp failed with first | ⟨a, passed, failed⟩
    · exact (other (refuses raised first)).elim
    · exact ⟨a, passed, raised, failed, other⟩
  · rintro ⟨a, rfl, raised, failed, other⟩
    exact ⟨raised, failed, other⟩

theorem escapes_map {f : α → β} : Escapes (x.map f) ↔ Escapes x := by
  cases x with
  | ok a => exact iff_of_false (fun ⟨_, wrong, _⟩ => nomatch wrong) fun ⟨_, wrong, _⟩ => nomatch wrong
  | error raised =>
    constructor
    · rintro ⟨other, same, foreign⟩
      obtain rfl := Except.error.inj same
      exact ⟨_, rfl, foreign⟩
    · rintro ⟨other, same, foreign⟩
      obtain rfl := Except.error.inj same
      exact ⟨_, rfl, foreign⟩

end Escapes

/-! ### Arguments -/

section Arguments

variable (py : Interpreter) (arguments : JsonObject)

theorem refuses_closedArguments (allowed : List Text) : Refuses (closedArguments arguments allowed) := by
  unfold closedArguments
  dsimp only
  split
  · exact .ok ()
  · exact refuses_refusal _ _ _

theorem refuses_requireText (key : Text) : Refuses (requireText arguments key) := by
  unfold requireText
  split
  · split
    · exact refuses_refusal _ _ _
    · exact .ok _
  · exact refuses_refusal _ _ _

theorem refuses_checkedIdentifier (value what key : Text) : Refuses (checkedIdentifier py value what key) :=
  .mapError _ fun _ => isGateway_refusal _ _ _

theorem refuses_identifierArgument (key : Text) : Refuses (identifierArgument py arguments key) :=
  (refuses_requireText arguments key).bind fun _ => refuses_checkedIdentifier py _ _ _

theorem refuses_optionalIntOr (key : Text) (default minimum maximum : ℤ) :
    Refuses (optionalIntOr arguments key default minimum maximum) := by
  refine Raises.map ?_
  unfold optionalInt
  split
  · exact .ok _
  · refine Raises.map ?_
    unfold checkRange
    split
    · exact refuses_refusal _ _ _
    · split
      · exact refuses_refusal _ _ _
      · exact .ok _
  · exact refuses_refusal _ _ _

theorem refuses_projectScope : Refuses (projectScope py arguments) := by
  unfold projectScope
  split
  · exact refuses_refusal _ _ _
  · exact (refuses_identifierArgument py arguments _).map
  · refine Raises.bind (Raises.mapM (fun item => ?_) _) fun seen => ?_
    · unfold projectEntry
      split
      · split
        · exact refuses_refusal _ _ _
        · exact refuses_checkedIdentifier py _ _ _
      · exact refuses_refusal _ _ _
    · split
      · exact refuses_refusal _ _ _
      · exact .ok _
  · exact refuses_refusal _ _ _
  · exact .ok _

theorem refuses_operationArgument : Refuses (operationArgument arguments) := by
  refine (refuses_requireText arguments _).bind fun value => ?_
  split
  · exact .ok _
  · exact refuses_refusal _ _ _

theorem refuses_choiceListArgument (key : Text) (allowed : List Text) :
    Refuses (choiceListArgument arguments key allowed) := by
  unfold choiceListArgument
  split
  · exact .ok _
  · refine Raises.map (Raises.mapM (fun item => ?_) _)
    unfold chosenItem
    dsimp only
    split
    · split
      · exact .ok _
      · exact refuses_refusal _ _ _
    · exact refuses_refusal _ _ _
  · exact refuses_refusal _ _ _

theorem refuses_consistencyArgument : Refuses (consistencyArgument py arguments) := by
  unfold consistencyArgument
  dsimp only
  split
  · exact .ok _
  · split
    · exact .ok _
    · exact refuses_refusal _ _ _
  · exact refuses_refusal _ _ _

theorem refuses_checkProjection (operation : QueryOperation) :
    Refuses (checkProjection arguments operation) := by
  unfold checkProjection
  split
  · refine (refuses_choiceListArgument arguments _ _).bind fun sections => ?_
    split
    · exact .ok _
    · exact refuses_refusal _ _ _
  · exact .ok _

theorem refuses_budgets : Refuses (budgets arguments) :=
  (refuses_optionalIntOr arguments _ _ _ _).bind fun _ =>
    (refuses_optionalIntOr arguments _ _ _ _).bind fun _ =>
      (refuses_optionalIntOr arguments _ _ _ _).bind fun _ =>
        (refuses_optionalIntOr arguments _ _ _ _).bind fun _ => .ok _

theorem refuses_directionArgument : Refuses (directionArgument py arguments) := by
  unfold directionArgument
  dsimp only
  split
  · exact .ok _
  · split
    · exact .ok _
    · exact refuses_refusal _ _ _
  · exact refuses_refusal _ _ _

/-- A digest argument that is no text and whose refusal cannot be printed. -/
def Unprintable (key : Text) : Prop :=
  ∃ value, argument arguments key = some value ∧ (∀ text, value ≠ .str text) ∧ value.digitsFit py = false

/-- A digest argument escapes exactly if it is no text and cannot be printed. -/
theorem digestArgument_escapes_iff (key : Text) (value : Json) :
    Escapes (digestArgument py key value) ↔ (∀ text, value ≠ .str text) ∧ value.digitsFit py = false := by
  unfold digestArgument
  dsimp only
  split
  · next text =>
    refine iff_of_false ?_ fun escaped => escaped.1 text rfl
    split
    · exact not_escapes_ok _
    · exact (refuses_refusal _ _ _).not_escapes
  · next other =>
    split
    · next prints =>
      refine iff_of_false (refuses_refusal _ _ _).not_escapes fun escaped => ?_
      rw [prints] at escaped
      cases escaped.2
    · next prints =>
      refine iff_of_true ⟨_, rfl, fun ⟨_, wrong⟩ => nomatch wrong⟩ ⟨fun text same => other text same, ?_⟩
      exact Bool.eq_false_iff.mpr prints

theorem pinnedGeneration_escapes_iff (consistency : Consistency) :
    Escapes (pinnedGeneration py arguments consistency) ↔ Unprintable py arguments "catalog_generation_id" := by
  unfold pinnedGeneration Unprintable
  split
  · next absent =>
    refine iff_of_false ?_ fun ⟨_, present, _⟩ => nomatch absent.symm.trans present
    split
    · exact (refuses_refusal _ _ _).not_escapes
    · exact not_escapes_ok _
  · next value present =>
    rw [escapes_map, digestArgument_escapes_iff, present]
    constructor
    · exact fun escaped => ⟨value, rfl, escaped⟩
    · rintro ⟨other, same, escaped⟩
      obtain rfl := Option.some.inj same
      exact escaped

/-- A field that a tool does not accept is not there. -/
theorem argument_none_of_closed {allowed : List Text} {key : Text}
    (closed : closedArguments arguments allowed = .ok ()) (other : key ∉ allowed) :
    argument arguments key = none := by
  unfold closedArguments at closed
  dsimp only at closed
  split at closed
  · next none =>
    have absent : Json.get? arguments key = Option.none := by
      refine List.lookup_eq_none_iff.mpr fun item member => ?_
      rw [bne_iff_ne]
      rintro rfl
      have unexpected := List.filter_eq_nil_iff.mp (sortedSet_eq_nil.mp none) item.1
        (List.mem_map_of_mem member)
      exact unexpected (decide_eq_true other)
    unfold argument
    rw [absent]
  · cases closed

end Arguments

/-! ### The caller -/

section Caller

variable {Time : Type} (context : ToolContext Time) (arguments : JsonObject)

theorem refuses_require (principal : ToolPrincipal) (capability solutionId : Text)
    (projectIds : List Text) : Refuses (principal.require capability solutionId projectIds) := by
  refine Raises.bind ?_ fun _ => ?_
  · unfold ToolPrincipal.requireCapability
    split
    · exact refuses_refusal _ _ _
    · exact .ok _
  · split
    · dsimp only
      split
      · exact .ok _
      · exact refuses_refusal _ _ _
    · exact refuses_refusal _ _ _

/-- An unknown solution is translated. -/
theorem refuses_registered (solutionId : Text) : Refuses (context.registered solutionId) := by
  unfold ToolContext.registered Snapshot.SnapshotRegistry.solution
  split
  · exact .ok _
  · exact refuses_refusal _ _ _

theorem refuses_openSolution (solutionId : Text) : Refuses (context.openSolution solutionId) :=
  (refuses_require _ _ _ _).bind fun _ => refuses_registered context solutionId

/-- The projects of a registered solution are there. -/
theorem refuses_resolveProjects {solutionId : Text} (opened : context.openSolution solutionId = .ok ())
    (requested : Option (List Text)) : Refuses (context.resolveProjects solutionId requested) := by
  obtain ⟨_, _, registered⟩ := bind_eq_ok.mp opened
  obtain ⟨binding, found, _⟩ := map_eq_ok.mp registered
  have known : context.registry.solution context.interpreter solutionId = .ok binding :=
    mapError_eq_ok.mp found
  unfold ToolContext.resolveProjects ToolContext.solutionProjects
  rw [known]
  cases requested with
  | none => exact .ok _
  | some requested =>
    change Refuses (if _ then Except.ok requested else .error ToolContext.noProject)
    split
    · exact .ok _
    · exact refuses_refusal _ _ _

theorem refuses_scopedProjects (solutionId : Text) :
    Refuses (scopedProjects arguments context solutionId) := by
  intro raised failed
  rcases bind_eq_error.mp failed with first | ⟨⟨⟩, opened, failed⟩
  · exact refuses_openSolution context solutionId raised first
  rcases bind_eq_error.mp failed with second | ⟨requested, _, failed⟩
  · exact refuses_projectScope _ arguments raised second
  rcases bind_eq_error.mp failed with third | ⟨projects, _, failed⟩
  · exact refuses_resolveProjects context opened requested raised third
  split at failed
  · obtain rfl := Except.error.inj failed
    exact isGateway_refusal _ _ _
  · cases failed

/-- The checks in front of the pinned generation pass, and its refusal cannot be printed. -/
structure PinnedUnprintable : Prop where
  passed : ∃ operation, operationArgument arguments = .ok operation ∧
    closedArguments arguments (globalArguments ++ operation.arguments) = .ok ()
  solution : ∃ solutionId, identifierArgument context.interpreter arguments "solution_id" = .ok solutionId
  consistent : ∃ consistency, consistencyArgument context.interpreter arguments = .ok consistency
  unprintable : Unprintable context.interpreter arguments "catalog_generation_id"

/-- The checks of a request escape only where a refusal cannot be printed. -/
theorem queryRequest_escapes_iff :
    Escapes (queryRequest arguments context) ↔ PinnedUnprintable context arguments := by
  constructor
  · intro escaped
    obtain ⟨operation, asked, escaped⟩ := (escapes_bind (refuses_operationArgument arguments)).mp escaped
    obtain ⟨⟨⟩, closed, escaped⟩ := (escapes_bind (refuses_closedArguments arguments _)).mp escaped
    obtain ⟨solutionId, solution, escaped⟩ :=
      (escapes_bind (refuses_identifierArgument _ arguments _)).mp escaped
    obtain ⟨consistency, consistent, escaped⟩ :=
      (escapes_bind (refuses_consistencyArgument _ arguments)).mp escaped
    obtain ⟨raised, failed, other⟩ := escaped
    rcases bind_eq_error.mp failed with first | ⟨pinned, _, failed⟩
    · exact ⟨⟨operation, asked, closed⟩, ⟨solutionId, solution⟩, ⟨consistency, consistent⟩,
        (pinnedGeneration_escapes_iff _ arguments consistency).mp ⟨raised, first, other⟩⟩
    · have rest : Refuses (do
          checkProjection arguments operation
          let projects ← scopedProjects arguments context solutionId
          return (⟨operation, solutionId, consistency, pinned, projects⟩ : QueryRequest)) :=
        (refuses_checkProjection arguments operation).bind fun _ =>
          (refuses_scopedProjects context arguments solutionId).bind fun _ => .ok _
      exact (other (rest raised failed)).elim
  · rintro ⟨⟨operation, asked, closed⟩, ⟨solutionId, solution⟩, ⟨consistency, consistent⟩, unprintable⟩
    obtain ⟨raised, failed, other⟩ :=
      (pinnedGeneration_escapes_iff _ arguments consistency).mpr unprintable
    refine (escapes_bind (refuses_operationArgument arguments)).mpr ⟨operation, asked, ?_⟩
    refine (escapes_bind (refuses_closedArguments arguments _)).mpr ⟨(), closed, ?_⟩
    refine (escapes_bind (refuses_identifierArgument _ arguments _)).mpr ⟨solutionId, solution, ?_⟩
    refine (escapes_bind (refuses_consistencyArgument _ arguments)).mpr ⟨consistency, consistent, ?_⟩
    exact ⟨raised, bind_eq_error.mpr (Or.inl failed), other⟩

/-- The arguments of a request are closed. -/
theorem queryRequest_closed {request : QueryRequest} (asked : queryRequest arguments context = .ok request) :
    closedArguments arguments (globalArguments ++ request.operation.arguments) = .ok () := by
  obtain ⟨operation, _, asked⟩ := bind_eq_ok.mp asked
  obtain ⟨⟨⟩, closed, asked⟩ := bind_eq_ok.mp asked
  obtain ⟨solutionId, _, asked⟩ := bind_eq_ok.mp asked
  obtain ⟨consistency, _, asked⟩ := bind_eq_ok.mp asked
  obtain ⟨pinned, _, asked⟩ := bind_eq_ok.mp asked
  obtain ⟨_, _, asked⟩ := bind_eq_ok.mp asked
  obtain ⟨projects, _, asked⟩ := bind_eq_ok.mp asked
  obtain rfl := Except.ok.inj asked
  exact closed

/-- A request may read each of its projects. -/
theorem queryRequest_may_read {request : QueryRequest} (asked : queryRequest arguments context = .ok request)
    {projectId : Text} (selected : projectId ∈ request.projects) :
    context.principal.require capabilityRead request.solutionId [projectId] = .ok () := by
  have selection := queryRequest_projects asked
  obtain ⟨⟨⟩, opened, _⟩ := bind_eq_ok.mp selection
  obtain ⟨⟨⟩, required, _⟩ := bind_eq_ok.mp opened
  have admitted := (scopedProjects_ok selection).2 projectId selected
  obtain ⟨⟨⟩, capable, required⟩ := bind_eq_ok.mp required
  have visible : context.principal.visible request.solutionId = true := by
    by_contra hidden
    rw [if_neg hidden] at required
    cases required
  unfold ToolPrincipal.require
  rw [capable]
  change (if _ then _ else _) = _
  rw [if_pos visible]
  simp [admitted]

end Caller

/-! ### The cursor -/

section Cursor

variable {Time : Type} [LinearOrder Time] (context : ToolContext Time) (arguments : JsonObject)
  (request : QueryRequest) (generation : Text)

/-- The binding that a presented cursor is checked against. -/
def presented (cursorId : Text) : ResolveRequest where
  cursorId
  catalogGenerationId := generation
  operation := request.operation.name
  query := some (cursorQuery arguments request.operation)
  scope := request.projects
  capability := some capabilityRead

/-- What the query hash of a presented cursor is made of. -/
def askedPayload : Json :=
  .obj [("operation", .str request.operation.name), ("query", .obj (cursorQuery arguments request.operation))]

/-- The record of a presented cursor, up to its query: it is known, it has not expired, and it was issued for this
generation and these projects. -/
structure CursorFits (record : CursorRecord Time) : Prop where
  presented : ∃ given, argument arguments "cursor" = some (.str given) ∧ isSha256 given.strip = true ∧
    context.cursors.records.get? given.strip = some record
  live : ¬ record.expired context.moment
  digest : isSha256 generation = true
  generation : generation = record.catalogGenerationId
  projects : ∀ projectId ∈ request.projects, isIdentifier projectId = true
  scope : sortedSet id request.projects = record.scope

/-- The presented cursor fits up to its query, which can be printed and holds a lone surrogate. -/
def CursorUnencodable : Prop :=
  (∃ record, CursorFits context arguments request generation record) ∧
    (askedPayload arguments request).digitsFit context.interpreter = true ∧
      ¬ Utf8.Clean ((askedPayload arguments request).compactText context.interpreter)

/-- No cursor is presented, or it fits, and it was issued for this query and for reading. -/
def CursorPasses : Prop :=
  argument arguments "cursor" = none ∨ ∃ record, CursorFits context arguments request generation record ∧
    (∃ bytes, encoded context.interpreter (askedPayload arguments request) = some bytes ∧
      context.sha256 bytes = record.queryHash) ∧ record.capability = capabilityRead

variable {context arguments request generation}

/-- What does not raise an exception lets it pass from what comes after it. -/
theorem error_bind_iff {ε α β : Type} {x : Except ε α} {f : α → Except ε β} {raised : ε}
    (other : Raises (· ≠ raised) x) : x >>= f = .error raised ↔ ∃ a, x = .ok a ∧ f a = .error raised := by
  rw [bind_eq_error]
  exact ⟨fun either => either.resolve_left fun failed => other raised failed rfl, .inr⟩

theorem operation_identifier (operation : QueryOperation) : isIdentifier operation.name = true := by
  cases operation <;> decide

theorem requireText_digest {key digest : Text} (named : isSha256 digest = true) :
    requireText arguments key = .ok digest ↔ ∃ given, argument arguments key = some (.str given) ∧
      given.strip = digest := by
  have filled : digest ≠ [] := by
    rintro rfl
    cases named
  unfold requireText
  split
  · next value there =>
    rw [there]
    constructor
    · intro taken
      split at taken
      · cases taken
      · exact ⟨value, rfl, Except.ok.inj taken⟩
    · rintro ⟨given, same, rfl⟩
      obtain rfl := Json.str.inj (Option.some.inj same)
      rw [if_neg filled]
  · next other =>
    exact iff_of_false (fun wrong => nomatch wrong) fun ⟨given, there, _⟩ => other given there

section Checks

variable {py : Interpreter} {sha256 : Bytes → Text} {clock : Clock Time}
  {record : CursorRecord Time} {moment : Time}

/-- The checks beside that of the query raise no error of the encoder. -/
theorem raises_compared (differs : Prop) [Decidable differs] (reason message : Text) :
    Raises (· ≠ CursorFault.unicodeEncode)
      (if differs then .error (.cursor reason message) else .ok () : Except CursorFault Unit) := by
  split
  · exact .error fun wrong => nomatch wrong
  · exact .ok ()

theorem raises_translated {α : Type} (x : Except QueryModelError α) :
    Raises (· ≠ CursorFault.unicodeEncode) (x.mapError CursorFault.refused) :=
  .mapError x fun _ wrong => nomatch wrong

omit [LinearOrder Time] in
theorem raises_find (store : CursorStore Time) (token : Text) :
    Raises (· ≠ CursorFault.unicodeEncode) (store.find token) := by
  unfold CursorStore.find
  split
  · exact .error fun wrong => nomatch wrong
  · exact .ok _

omit [LinearOrder Time] in
theorem find_ok {store : CursorStore Time} {token : Text} :
    store.find token = .ok record ↔ store.records.get? token = some record := by
  unfold CursorStore.find
  cases store.records.get? token with
  | none => exact iff_of_false (fun wrong => nomatch wrong) fun wrong => nomatch wrong
  | some other => rw [Except.ok.injEq, Option.some.injEq]

theorem checkExpiry_ok : checkExpiry clock record moment = .ok () ↔ ¬ record.expired moment := by
  unfold checkExpiry
  rw [guarded_ok, and_iff_left rfl]

theorem sha256Text_ok {value what checked : Text} :
    (sha256Text value what).mapError CursorFault.refused = .ok checked ↔ isSha256 value = true ∧
    value = checked := by
  unfold sha256Text
  split
  · next named => exact ⟨fun done => ⟨named, Except.ok.inj done⟩, fun both => congrArg _ both.2⟩
  · next other => exact iff_of_false (fun wrong => nomatch wrong) fun both => other both.1

omit [LinearOrder Time] in
theorem checkGeneration_ok {asked : ResolveRequest} :
    checkGeneration record asked = .ok () ↔
      isSha256 asked.catalogGenerationId = true ∧ asked.catalogGenerationId = record.catalogGenerationId := by
  unfold checkGeneration
  rw [bind_eq_ok]
  constructor
  · rintro ⟨_, named, same⟩
    obtain ⟨digest, rfl⟩ := sha256Text_ok.mp named
    exact ⟨digest, not_not.mp (guarded_ok.mp same).1⟩
  · rintro ⟨digest, same⟩
    exact ⟨_, sha256Text_ok.mpr ⟨digest, rfl⟩, guarded_ok.mpr ⟨not_not.mpr same, rfl⟩⟩

omit [LinearOrder Time] in
theorem checkScope_ok {asked : ResolveRequest} :
    checkScope py record asked = .ok () ↔
      (∀ projectId ∈ asked.scope, isIdentifier projectId = true) ∧ sortedSet id asked.scope = record.scope := by
  unfold checkScope
  rw [bind_eq_ok]
  constructor
  · rintro ⟨_, named, same⟩
    obtain ⟨identifiers, rfl⟩ := checkedScope_ok.mp (mapError_eq_ok.mp named)
    exact ⟨identifiers, not_not.mp (guarded_ok.mp same).1⟩
  · rintro ⟨identifiers, same⟩
    exact ⟨_, mapError_eq_ok.mpr (checkedScope_ok.mpr ⟨identifiers, rfl⟩), guarded_ok.mpr ⟨not_not.mpr same, rfl⟩⟩

omit [LinearOrder Time] in
theorem checkQuery_ok {asked : ResolveRequest} (named : isIdentifier asked.operation = true) :
    checkQuery py sha256 record asked = .ok () ↔
      ∃ bytes, encoded py asked.queryPayload = some bytes ∧ sha256 bytes = record.queryHash := by
  unfold checkQuery
  rw [bind_eq_ok]
  constructor
  · rintro ⟨hash, hashed, same⟩
    obtain ⟨_, bytes, text, rfl⟩ := hash_ok.mp hashed
    exact ⟨bytes, text, not_not.mp (guarded_ok.mp same).1⟩
  · rintro ⟨bytes, text, same⟩
    exact ⟨_, hash_ok.mpr ⟨named, bytes, text, rfl⟩, guarded_ok.mpr ⟨not_not.mpr same, rfl⟩⟩

omit [LinearOrder Time] in
/-- The query is not encoded exactly if it can be printed and holds a lone surrogate. -/
theorem checkQuery_unencodable {asked : ResolveRequest} (named : isIdentifier asked.operation = true) :
    checkQuery py sha256 record asked = .error .unicodeEncode ↔
      asked.queryPayload.digitsFit py = true ∧ ¬ Utf8.Clean (asked.queryPayload.compactText py) := by
  have hashed : asked.hash py sha256 = .error .unicodeEncode ↔
      asked.queryPayload.digitsFit py = true ∧ ¬ Utf8.Clean (asked.queryPayload.compactText py) := by
    unfold CursorBinding.hash
    rw [identifierText_ok.mpr ⟨named, rfl⟩]
    change digestOf _ _ _ _ = _ ↔ _
    unfold digestOf Json.dumps
    by_cases fits : asked.queryPayload.digitsFit py = true
    · rw [if_pos fits, and_iff_right fits]
      dsimp only
      by_cases clean : Utf8.Clean (asked.queryPayload.compactText py)
      · rw [Utf8.encode_of_clean clean]
        exact iff_of_false (fun wrong => nomatch wrong) (not_not.mpr clean)
      · rw [Utf8.encode_of_not_clean clean]
        exact iff_of_true rfl clean
    · rw [if_neg fits]
      exact iff_of_false (fun wrong => nomatch wrong) fun both => fits both.1
  unfold checkQuery
  rw [bind_eq_error, hashed, or_iff_left]
  rintro ⟨hash, _, wrong⟩
  split at wrong <;> cases wrong

omit [LinearOrder Time] in
theorem checkCapability_read {asked : ResolveRequest} (reads : asked.capability = some capabilityRead) :
    checkCapability py record asked = .ok () ↔ record.capability = capabilityRead := by
  have chosen : asked.chosenCapability = .ok capabilityRead := by
    unfold CursorBinding.chosenCapability
    rw [reads]
    decide
  unfold checkCapability
  rw [chosen]
  change (if capabilityRead ≠ record.capability then _ else Except.ok ()) = _ ↔ _
  rw [guarded_ok, and_iff_left rfl, not_not]
  exact eq_comm

end Checks

/-- A presented cursor that fits, as the checks in front of its query see it. -/
theorem cursorFits_iff {record : CursorRecord Time} :
    CursorFits context arguments request generation record ↔
      ∃ cursorId, requireText arguments "cursor" = .ok cursorId ∧
      isSha256 cursorId = true ∧ context.cursors.find cursorId = .ok record ∧
        checkExpiry context.cursorClock record context.moment = .ok () ∧
        checkGeneration record (presented arguments request generation cursorId) = .ok () ∧
        checkScope context.interpreter record (presented arguments request generation cursorId) = .ok () := by
  constructor
  · rintro ⟨⟨given, there, digest, found⟩, live, named, same, projects, scope⟩
    exact ⟨given.strip, (requireText_digest digest).mpr ⟨given, there, rfl⟩, digest, find_ok.mpr found,
      checkExpiry_ok.mpr live, checkGeneration_ok.mpr ⟨named, same⟩, checkScope_ok.mpr ⟨projects, scope⟩⟩
  · rintro ⟨cursorId, taken, digest, found, live, generated, within⟩
    obtain ⟨given, there, rfl⟩ := (requireText_digest digest).mp taken
    obtain ⟨named, same⟩ := checkGeneration_ok.mp generated
    obtain ⟨projects, scope⟩ := checkScope_ok.mp within
    exact ⟨⟨given, there, digest, find_ok.mp found⟩, checkExpiry_ok.mp live, named, same, projects, scope⟩

/-- Resolving prints nothing but the query, whose error is a `CursorError`. -/
theorem resolve_prints (store : CursorStore Time) (asked : ResolveRequest) :
    Raises (· ≠ .unprintable) (store.resolve context.interpreter context.sha256 context.cursorClock asked
      context.moment) := by
  have printed (x : Except QueryModelError Text) : Raises (· ≠ .unprintable) (x.mapError CursorFault.refused) :=
    .mapError x fun _ wrong => nomatch wrong
  have stated (reason message : Text) : CursorFault.cursor reason message ≠ .unprintable :=
    fun wrong => nomatch wrong
  refine (printed _).bind fun token => Raises.bind ?_ fun record => Raises.bind ?_ fun _ => .ok _
  · unfold CursorStore.find
    split
    · exact .error (stated _ _)
    · exact .ok _
  refine Raises.bind ?_ fun _ => Raises.bind ?_ fun _ => Raises.bind ?_ fun _ => Raises.bind ?_ fun _ => ?_
  · unfold checkExpiry
    split
    · exact .error (stated _ _)
    · exact .ok _
  · refine (printed _).bind fun found => ?_
    split
    · exact .error (stated _ _)
    · exact .ok _
  · refine Raises.bind (.mapError _ fun _ wrong => nomatch wrong) fun expected => ?_
    split
    · exact .error (stated _ _)
    · exact .ok _
  · refine Raises.bind ((printed _).bind fun _ => ?_) fun hash => ?_
    · unfold digestOf
      split
      · exact .error (stated _ _)
      · split
        · exact .error fun wrong => nomatch wrong
        · exact .ok _
    · split
      · exact .error (stated _ _)
      · exact .ok _
  · refine (printed _).bind fun capability => ?_
    split
    · exact .error (stated _ _)
    · exact .ok _

/-- A resolve fails in the encoder exactly if the cursor fits and its query cannot be encoded. -/
theorem resolve_unencodable {cursorId : Text} (taken : requireText arguments "cursor" = .ok cursorId) :
    context.cursors.resolve context.interpreter context.sha256 context.cursorClock
        (presented arguments request generation cursorId) context.moment = .error .unicodeEncode ↔
      CursorUnencodable context arguments request generation := by
  have query {record : CursorRecord Time} : checkQuery context.interpreter context.sha256 record
      (presented arguments request generation cursorId) = .error .unicodeEncode ↔ _ :=
    checkQuery_unencodable (operation_identifier request.operation)
  constructor
  · intro failed
    obtain ⟨token, named, failed⟩ := (error_bind_iff (raises_translated _)).mp failed
    obtain ⟨digest, rfl⟩ := sha256Text_ok.mp named
    obtain ⟨record, found, failed⟩ := (error_bind_iff (raises_find _ _)).mp failed
    rcases bind_eq_error.mp failed with failed | ⟨_, _, wrong⟩
    · obtain ⟨⟨⟩, live, failed⟩ := (error_bind_iff (raises_compared _ _ _)).mp failed
      obtain ⟨⟨⟩, generated, failed⟩ :=
        (error_bind_iff ((raises_translated _).bind fun _ => raises_compared _ _ _)).mp failed
      obtain ⟨⟨⟩, within, failed⟩ :=
        (error_bind_iff ((raises_translated _).bind fun _ => raises_compared _ _ _)).mp failed
      rcases bind_eq_error.mp failed with failed | ⟨_, _, wrong⟩
      · exact ⟨⟨record, cursorFits_iff.mpr ⟨_, taken, digest, found, live, generated, within⟩⟩, query.mp failed⟩
      · exact (((raises_translated _).bind fun _ => raises_compared _ _ _) _ wrong rfl).elim
    · cases wrong
  · rintro ⟨⟨record, fits⟩, printed, dirty⟩
    obtain ⟨_, again, digest, found, live, generated, within⟩ := cursorFits_iff.mp fits
    obtain rfl := Except.ok.inj (taken.symm.trans again)
    refine bind_eq_error.mpr (.inr ⟨cursorId, sha256Text_ok.mpr ⟨digest, rfl⟩, ?_⟩)
    refine bind_eq_error.mpr (.inr ⟨record, found, bind_eq_error.mpr (.inl ?_)⟩)
    refine bind_eq_error.mpr (.inr ⟨(), live, bind_eq_error.mpr (.inr ⟨(), generated, ?_⟩)⟩)
    exact bind_eq_error.mpr (.inr ⟨(), within, bind_eq_error.mpr (.inl (query.mpr ⟨printed, dirty⟩))⟩)

/-- A resolve succeeds exactly if the cursor fits, and is for this query and for reading. -/
theorem resolve_passes {cursorId : Text} (taken : requireText arguments "cursor" = .ok cursorId) :
    (∃ record, context.cursors.resolve context.interpreter context.sha256 context.cursorClock
        (presented arguments request generation cursorId) context.moment = .ok record) ↔
      ∃ record, CursorFits context arguments request generation record ∧
        (∃ bytes, encoded context.interpreter (askedPayload arguments request) = some bytes ∧
          context.sha256 bytes = record.queryHash) ∧ record.capability = capabilityRead := by
  have query {record : CursorRecord Time} : checkQuery context.interpreter context.sha256 record
      (presented arguments request generation cursorId) = .ok () ↔ _ :=
        checkQuery_ok (operation_identifier request.operation)
  have reads {record : CursorRecord Time} : checkCapability context.interpreter record
      (presented arguments request generation cursorId) = .ok () ↔ _ := checkCapability_read rfl
  constructor
  · rintro ⟨record, resolved⟩
    obtain ⟨token, named, resolved⟩ := bind_eq_ok.mp resolved
    obtain ⟨digest, rfl⟩ := sha256Text_ok.mp named
    obtain ⟨record', found, resolved⟩ := bind_eq_ok.mp resolved
    obtain ⟨⟨⟩, bound, _⟩ := bind_eq_ok.mp resolved
    obtain ⟨⟨⟩, live, bound⟩ := bind_eq_ok.mp bound
    obtain ⟨⟨⟩, generated, bound⟩ := bind_eq_ok.mp bound
    obtain ⟨⟨⟩, within, bound⟩ := bind_eq_ok.mp bound
    obtain ⟨⟨⟩, asked, capable⟩ := bind_eq_ok.mp bound
    exact ⟨record', cursorFits_iff.mpr ⟨_, taken, digest, found, live, generated, within⟩, query.mp asked,
      reads.mp capable⟩
  · rintro ⟨record, fits, asked, capable⟩
    obtain ⟨_, again, digest, found, live, generated, within⟩ := cursorFits_iff.mp fits
    obtain rfl := Except.ok.inj (taken.symm.trans again)
    refine ⟨record, bind_eq_ok.mpr ⟨cursorId, sha256Text_ok.mpr ⟨digest, rfl⟩, bind_eq_ok.mpr ⟨record, found, ?_⟩⟩⟩
    refine bind_eq_ok.mpr ⟨(), bind_eq_ok.mpr ⟨(), live, bind_eq_ok.mpr ⟨(), generated, ?_⟩⟩, rfl⟩
    exact bind_eq_ok.mpr ⟨(), within, bind_eq_ok.mpr ⟨(), query.mpr asked, reads.mpr capable⟩⟩

/-- A presented cursor escapes exactly if its query cannot be encoded. -/
theorem resolveCursor_escapes_iff : Escapes (resolveCursor arguments context request generation) ↔
    CursorUnencodable context arguments request generation := by
  unfold resolveCursor
  split
  · next absent =>
    refine iff_of_false (not_escapes_ok _) ?_
    rintro ⟨⟨_, ⟨_, there, _⟩, _⟩, _⟩
    cases absent.symm.trans there
  · next value there =>
    rw [escapes_bind (refuses_requireText arguments _)]
    constructor
    · rintro ⟨cursorId, named, escaped⟩
      have escaped : Escapes ((context.cursors.resolve context.interpreter context.sha256
          context.cursorClock (presented arguments request generation cursorId) context.moment).mapError
            translateCursor) := escapes_map.mp escaped
      obtain ⟨raised, failed, other⟩ := escaped
      obtain ⟨fault, faulty, rfl⟩ := mapError_eq_error.mp failed
      have prints := resolve_prints context.cursors _ fault faulty
      cases fault with
      | cursor reason message => exact (other ⟨_, rfl⟩).elim
      | refused error => exact (other ⟨_, rfl⟩).elim
      | unprintable => exact (prints rfl).elim
      | unicodeEncode => exact (resolve_unencodable named).mp faulty
    · intro unencodable
      obtain ⟨record, fits⟩ := unencodable.1
      obtain ⟨cursorId, named, _⟩ := cursorFits_iff.mp fits
      refine ⟨cursorId, named, escapes_map.mpr ⟨_, mapError_eq_error.mpr
        ⟨_, (resolve_unencodable named).mpr unencodable, rfl⟩, ?_⟩⟩
      exact fun ⟨_, wrong⟩ => nomatch wrong

/-- A presented cursor passes exactly if it fits. -/
theorem resolveCursor_passes_iff : resolveCursor arguments context request generation = .ok () ↔
    CursorPasses context arguments request generation := by
  unfold resolveCursor CursorPasses
  split
  · next absent => exact iff_of_true rfl (.inl absent)
  · next value there =>
    have present : argument arguments "cursor" ≠ none := fun absent => nomatch absent.symm.trans there
    rw [or_iff_right present, bind_eq_ok]
    constructor
    · rintro ⟨cursorId, named, resolved⟩
      obtain ⟨record, resolved, _⟩ := map_eq_ok.mp resolved
      exact (resolve_passes named).mp ⟨record, mapError_eq_ok.mp resolved⟩
    · intro passes
      have ⟨record, fits, _⟩ := passes
      obtain ⟨cursorId, named, _⟩ := cursorFits_iff.mp fits
      obtain ⟨record, resolved⟩ := (resolve_passes named).mpr passes
      exact ⟨cursorId, named, map_eq_ok.mpr ⟨record, mapError_eq_ok.mpr resolved, rfl⟩⟩

end Cursor

/-! ### The answer -/

section Answer

variable (py : Interpreter) (arguments : JsonObject) (sha256 : Bytes → Text)

theorem refuses_engine {α : Type} (result : Except QueryModelError α) : Refuses (engine py result) := by
  refine .mapError result fun error => ?_
  unfold translateQuery
  split <;> exact isGateway_refusal _ _ _

/-- What a search lists is pinned. -/
theorem candidateNodes_ok {scope : GraphSet} {query : Text} {maxNodes : Option ℤ}
    {result : SymbolSearchResult} (searched : searchSymbols py scope query { maxNodes } = .ok result) :
    ∃ nodes, candidateNodes scope result = .ok nodes := by
  obtain ⟨request, accepted, searched⟩ := bind_eq_ok.mp searched
  obtain ⟨⟨ranked, scanned⟩, _, searched⟩ := bind_eq_ok.mp searched
  obtain ⟨candidates, listed, searched⟩ := bind_eq_ok.mp searched
  obtain rfl := Except.ok.inj searched
  have pinned : request.pinned = scope := by
    unfold searchRequest at accepted
    split at accepted
    · cases accepted
    · obtain ⟨narrowed, same, accepted⟩ := bind_eq_ok.mp accepted
      obtain rfl := Except.ok.inj same
      obtain ⟨_, _, accepted⟩ := bind_eq_ok.mp accepted
      obtain ⟨_, _, accepted⟩ := bind_eq_ok.mp accepted
      obtain ⟨_, _, accepted⟩ := bind_eq_ok.mp accepted
      obtain rfl := Except.ok.inj accepted
      rfl
  have looked : ∀ candidate ∈ candidates, ∃ node, scope.node candidate.nodeId = .ok node := by
    intro candidate member
    obtain ⟨items, found, rfl⟩ := map_eq_ok.mp listed
    rw [mem_sortedBy, List.mem_map] at member
    obtain ⟨item, inside, rfl⟩ := member
    obtain ⟨entry, _, here⟩ := forall₂_right (mapM_ok.mp found) (List.mem_filter.mp inside).1
    obtain ⟨node, found, rfl⟩ := map_eq_ok.mp here
    obtain ⟨known, named⟩ := GraphSet.node_ok.mp found
    exact ⟨node, pinned ▸ GraphSet.node_ok.mpr ⟨known, rfl⟩⟩
  refine mapM_of_ok fun candidate member => ?_
  have taken : candidate ∈ candidates := by
    rw [searchAnswer_candidates] at member
    exact List.mem_of_mem_take member
  obtain ⟨node, found⟩ := looked candidate taken
  exact ⟨_, map_eq_ok.mpr ⟨node, found, rfl⟩⟩

theorem refuses_traversal (operation : QueryOperation) (scope : GraphSet) (target : Text)
    (options : QueryOptions) : Refuses (traversal arguments py operation scope target options) := by
  unfold traversal
  split
  · exact (refuses_requireText arguments _).bind fun _ => (refuses_engine py _).map
  all_goals exact (refuses_engine py _).map

/-- The comparison of a scope escapes exactly if its baseline cannot be printed. -/
theorem changesAnswer_escapes_iff (scope : GraphSet) :
    Escapes (changesAnswer arguments py sha256 scope) ↔
      Unprintable py arguments "baseline_catalog_generation_id" := by
  unfold changesAnswer Unprintable
  split
  · next absent =>
    refine iff_of_false (refuses_engine py _).not_escapes fun ⟨_, there, _⟩ => ?_
    cases absent.symm.trans there
  · next baseline there =>
    rw [there]
    constructor
    · rintro ⟨raised, failed, other⟩
      rcases bind_eq_error.mp failed with first | ⟨baselineId, _, failed⟩
      · exact ⟨baseline, rfl, (digestArgument_escapes_iff py _ _).mp ⟨raised, first, other⟩⟩
      · split at failed
        · exact (other (refuses_engine py _ raised failed)).elim
        · exact (other (refuses_engine py _ raised failed)).elim
    · rintro ⟨value, same, escaped⟩
      obtain rfl := Option.some.inj same
      obtain ⟨raised, failed, other⟩ := (digestArgument_escapes_iff py _ _).mpr escaped
      exact ⟨raised, bind_eq_error.mpr (Or.inl failed), other⟩

/-- Of the answers only a comparison may escape. -/
theorem answer_escapes_iff {operation : QueryOperation} (scope : GraphSet)
    (closed : closedArguments arguments (globalArguments ++ operation.arguments) = .ok ())
    (bounded : ∃ bounds, budgets arguments = .ok bounds) :
    Escapes (answer arguments py sha256 operation scope) ↔
      operation = .changes ∧ Unprintable py arguments "baseline_catalog_generation_id" := by
  obtain ⟨bounds, bounded⟩ := bounded
  unfold answer
  rw [escapes_bind (refuses_budgets arguments)]
  constructor
  · rintro ⟨_, _, escaped⟩
    obtain ⟨projection, _, escaped⟩ := (escapes_bind (refuses_choiceListArgument arguments _ _)).mp escaped
    obtain ⟨edgeKinds, _, escaped⟩ := (escapes_bind (refuses_choiceListArgument arguments _ _)).mp escaped
    obtain ⟨direction, _, escaped⟩ := (escapes_bind (refuses_directionArgument py arguments)).mp escaped
    split at escaped
    · obtain ⟨query, _, escaped⟩ := (escapes_bind (refuses_requireText arguments _)).mp escaped
      obtain ⟨result, searched, escaped⟩ := (escapes_bind (refuses_engine py _)).mp escaped
      obtain ⟨nodes, listed⟩ := candidateNodes_ok py (mapError_eq_ok.mp searched)
      rw [listed] at escaped
      exact (not_escapes_ok _ escaped).elim
    · exact ⟨rfl, (changesAnswer_escapes_iff py arguments sha256 scope).mp (escapes_map.mp escaped)⟩
    · obtain ⟨target, _, escaped⟩ := (escapes_bind (refuses_requireText arguments _)).mp escaped
      exact ((refuses_traversal py arguments _ _ _ _).not_escapes escaped).elim
  · rintro ⟨rfl, unprintable⟩
    have projection : choiceListArgument arguments "projection" projectionNames = .ok none := by
      unfold choiceListArgument
      rw [argument_none_of_closed arguments closed (by decide)]
    have edgeKinds : choiceListArgument arguments "edge_kinds" (EdgeKind.all.map EdgeKind.name) =
        .ok none := by
      unfold choiceListArgument
      rw [argument_none_of_closed arguments closed (by decide)]
    have direction : directionArgument py arguments = .ok none := by
      unfold directionArgument
      rw [argument_none_of_closed arguments closed (by decide)]
    refine ⟨bounds, bounded, ?_⟩
    rw [projection, edgeKinds, direction]
    exact escapes_map.mpr ((changesAnswer_escapes_iff py arguments sha256 scope).mpr unprintable)

end Answer

/-! ### The packed answer -/

section Packed

variable (py : Interpreter) {arguments : JsonObject}

/-- The bytes that a request allows are a cap of the packer. -/
theorem budgets_cap {bounds : Budgets} (bounded : budgets arguments = .ok bounds) :
    ∃ cap, boundedInt (some bounds.maxBytes) "max_bytes" minBytes maxBytes defaultMaxBytes = .ok cap := by
  obtain ⟨depth, _, bounded⟩ := bind_eq_ok.mp bounded
  obtain ⟨nodes, _, bounded⟩ := bind_eq_ok.mp bounded
  obtain ⟨edges, _, bounded⟩ := bind_eq_ok.mp bounded
  obtain ⟨bytes, given, bounded⟩ := bind_eq_ok.mp bounded
  obtain rfl := Except.ok.inj bounded
  have range : (minBytes : ℤ) ≤ bytes ∧ bytes ≤ (maxBytes : ℤ) := by
    obtain ⟨value, chosen, rfl⟩ := map_eq_ok.mp given
    unfold optionalInt at chosen
    split at chosen
    · obtain rfl := Except.ok.inj chosen
      exact ⟨by decide, by decide⟩
    · obtain ⟨checked, inside, rfl⟩ := map_eq_ok.mp chosen
      unfold checkRange at inside
      split at inside
      · cases inside
      · split at inside
        · cases inside
        · next low high =>
          obtain rfl := Except.ok.inj inside
          exact ⟨not_lt.mp low, not_lt.mp high⟩
    · cases chosen
  refine ⟨bytes.toNat, ?_⟩
  unfold boundedInt
  dsimp only
  rw [if_neg]
  rintro (low | high)
  · exact absurd range.1 (not_le.mpr low)
  · exact absurd range.2 (not_le.mpr high)

/-- A packed envelope escapes exactly if its text cannot be encoded. -/
theorem packed_escapes_iff {bounds : Budgets} (bounded : budgets arguments = .ok bounds)
    (envelope : Envelope) :
    Escapes ((packResponse py envelope.document (some bounds.maxBytes)).mapError (translatePack py)) ↔
      encodedSize py envelope.document = .error .surrogate := by
  obtain ⟨cap, admitted⟩ := budgets_cap bounded
  have listed : envelope.document.get? "warnings" = some (.arr (envelope.warnings.map .str)) := rfl
  constructor
  · rintro ⟨raised, failed, other⟩
    obtain ⟨error, refused, rfl⟩ := mapError_eq_error.mp failed
    rcases packResponse_error admitted listed refused with rfl | rfl | ⟨rfl, measured⟩
    · exact (other (isGateway_refusal _ _ _)).elim
    · exact (other (isGateway_refusal _ _ _)).elim
    · exact measured
  · intro measured
    refine ⟨_, mapError_eq_error.mpr ⟨_, packResponse_surrogate admitted measured, rfl⟩, ?_⟩
    exact fun ⟨_, wrong⟩ => nomatch wrong

end Packed

end AxiomMcp.Tools
