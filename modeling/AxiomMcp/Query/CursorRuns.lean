/-
**A cursor store over its runs.**

`CursorRun` is a store together with what it has issued so far; `reached` is the run after any sequence of
calls. What a cursor may be used for is said without the store: `Differs` compares a request with the
request that a cursor was issued for, reason by reason, and `documented` is their order.

* `RunInv`: the records are those issued, each under an id of its own sequence number. It holds after every
  sequence of calls (`runInv_reached`);
* `resolve_reached`: **a cursor resolves exactly if nothing differs**, and otherwise the first reason that
  does is raised; calls in between change neither.
-/

import AxiomMcp.Query.Cursor

namespace AxiomMcp.Query

open Lib

/-! ### Runs -/

/-- An issued cursor, with the request it was issued for and its sequence number. -/
structure Issued (Time : Type) where
  request : IssueRequest
  sequence : ℕ
  record : CursorRecord Time

/-- A call on a store, at the moment it reads from the clock or is given. -/
inductive CursorCall (Time : Type)
  | issue (request : IssueRequest) (moment : Time)
  | resolve (request : ResolveRequest) (moment : Time)

/-- A store and its history. -/
structure CursorRun (Time : Type) where
  store : CursorStore Time
  issued : List (Issued Time)

/-- A query of JSON values, whose floats are printed so that they are read back. -/
structure IsJson (py : Interpreter) (binding : CursorBinding) : Prop where
  formed : binding.parameters.WellFormed
  floats : binding.parameters.FloatsRead py

/-- The binding of a call. -/
def CursorCall.binding {Time : Type} : CursorCall Time → CursorBinding
  | .issue request _ => request.toCursorBinding
  | .resolve request _ => request.toCursorBinding

section Runs

variable (py : Interpreter) (sha256 : Bytes → Text) {Time : Type} [LinearOrder Time] (clock : Clock Time)

/-- One call: its answer, and the store after it. -/
def CursorStore.answer (store : CursorStore Time) :
    CursorCall Time → Except CursorFault (CursorRecord Time) × CursorStore Time
  | .issue request moment => store.issue py sha256 clock request moment
  | .resolve request moment => (store.resolve py sha256 clock request moment, store)

/-- The cursor that a call has issued. -/
def issuedBy (answer : Except CursorFault (CursorRecord Time) × CursorStore Time) :
    CursorCall Time → List (Issued Time)
  | .issue request _ =>
    match answer.1 with
    | .ok record => [⟨request, answer.2.sequence, record⟩]
    | .error _ => []
  | .resolve _ _ => []

/-- The run after one more call. -/
def CursorRun.step (run : CursorRun Time) (call : CursorCall Time) : CursorRun Time :=
  let answer := run.store.answer py sha256 clock call
  ⟨answer.2, run.issued ++ issuedBy answer call⟩

/-- The run after these calls. -/
def reached (calls : List (CursorCall Time)) : CursorRun Time :=
  calls.foldl (CursorRun.step py sha256 clock) ⟨.empty, []⟩

/-- What was hashed for an issued cursor. -/
def Issued.inputs (entry : Issued Time) : List Bytes :=
  [match checkIssue entry.request with
    | .ok checked => encoded py (tokenPayload entry.request checked entry.sequence)
    | .error _ => none,
    encoded py entry.request.queryPayload].reduceOption

/-- What was hashed for the cursors of a run. -/
def CursorRun.inputs (run : CursorRun Time) : List Bytes := run.issued.flatMap (Issued.inputs py)

end Runs

/-! ### What a cursor may be used for -/

/-- Why a cursor is refused. -/
inductive Reason
  | unknown | expired | generation | scope | query | capability
  deriving DecidableEq

/-- The name of a reason. -/
def Reason.name : Reason → Text
  | .unknown => "unknown"
  | .expired => "expired"
  | .generation => "generation"
  | .scope => "scope"
  | .query => "query"
  | .capability => "capability"

/-- The reasons in their documented order. -/
def documented : List Reason := [.unknown, .expired, .generation, .scope, .query, .capability]

/-- The capability a binding asks for. -/
def CursorBinding.asks (binding : CursorBinding) : Text := binding.capability.getD "read"

/-- The same operation with the same JSON query, its keys in any order. -/
def SameQuery (one other : CursorBinding) : Prop :=
  one.operation = other.operation ∧ Json.Same one.parameters other.parameters

section Spec

variable {Time : Type} [LinearOrder Time]

/-- Where a request differs from an issued cursor of its id. -/
def Issued.differs (entry : Issued Time) (asked : ResolveRequest) (moment : Time) : Reason → Prop
  | .unknown => False
  | .expired => entry.record.expiresAt < moment
  | .generation => entry.request.catalogGenerationId ≠ asked.catalogGenerationId
  | .scope => ¬ ∀ projectId, projectId ∈ entry.request.scope ↔ projectId ∈ asked.scope
  | .query => ¬ SameQuery entry.request.toCursorBinding asked.toCursorBinding
  | .capability => entry.request.asks ≠ asked.asks

/-- Where a request differs from what was issued. -/
def Differs (issued : List (Issued Time)) (asked : ResolveRequest) (moment : Time) (reason : Reason) :
    Prop :=
  (reason = .unknown ∧ ∀ entry ∈ issued, entry.record.cursorId ≠ asked.cursorId) ∨
    ∃ entry ∈ issued, entry.record.cursorId = asked.cursorId ∧ entry.differs asked moment reason

/-- The first reason, in the documented order, that differs. -/
def FirstDiffers (issued : List (Issued Time)) (asked : ResolveRequest) (moment : Time) (reason : Reason) :
    Prop :=
  Differs issued asked moment reason ∧
    ∀ earlier, documented.idxOf earlier < documented.idxOf reason → ¬ Differs issued asked moment earlier

/-- What a store does with a request: the record of the cursor if nothing differs, and else the first
reason that does. -/
def Resolves (issued : List (Issued Time)) (asked : ResolveRequest) (moment : Time)
    (outcome : Except CursorFault (CursorRecord Time)) : Prop :=
  (∀ record, outcome = .ok record ↔
    (∃ entry ∈ issued, entry.record = record ∧ record.cursorId = asked.cursorId) ∧
      ∀ reason, ¬ Differs issued asked moment reason) ∧
  ∀ fault, outcome = .error fault →
    ∃ reason message, fault = .cursor reason.name message ∧ FirstDiffers issued asked moment reason

/-- A request with well-formed arguments. -/
structure ResolveRequest.WellFormed (py : Interpreter) (asked : ResolveRequest) : Prop where
  cursorId : isSha256 asked.cursorId = true
  generation : isSha256 asked.catalogGenerationId = true
  scope : ∀ projectId ∈ asked.scope, isIdentifier projectId = true
  operation : isIdentifier asked.operation = true
  json : IsJson py asked.toCursorBinding
  sendable : Json.Sendable py asked.parameters
  capability : ∀ name, asked.capability = some name → name ∈ capabilities

end Spec

/-! ### Framed texts -/

section Framing

variable {py : Interpreter} {sha256 : Bytes → Text}

theorem encoded_eq_some {payload : Json} {bytes : Bytes} : encoded py payload = some bytes ↔
    payload.digitsFit py = true ∧ Utf8.encode (payload.compactText py) = some bytes := by
  unfold encoded Json.dumps
  split
  · next fits => exact (and_iff_right fits).symm
  · next large => exact iff_of_false (fun none => nomatch none) fun both => large both.1

/-- Only the same value is encoded to the same bytes. -/
theorem encoded_injective {v w : Json} {bytes : Bytes} (formed : v.WellFormed ∧ w.WellFormed)
    (floats : v.FloatsRead py ∧ w.FloatsRead py) (left : encoded py v = some bytes)
    (right : encoded py w = some bytes) : Json.Same v w := by
  obtain ⟨fits, bytes⟩ := encoded_eq_some.mp left
  obtain ⟨fits', bytes'⟩ := encoded_eq_some.mp right
  exact Json.compactText_injective formed floats ⟨fits, fits'⟩ (Utf8.encode_injective bytes bytes')

/-- The same value is encoded to the same bytes. -/
theorem encoded_congr {v w : Json} {bytes bytes' : Bytes} (same : Json.Same v w)
    (left : encoded py v = some bytes) (right : encoded py w = some bytes') : bytes = bytes' := by
  have one := (encoded_eq_some.mp left).2
  have other := (encoded_eq_some.mp right).2
  rw [Json.compactText_congr same, other] at one
  exact (Option.some.inj one).symm

theorem digestOf_ok {fault : CursorFault} {payload : Json} {digest : Text} :
    digestOf py sha256 fault payload = .ok digest ↔
      ∃ bytes, encoded py payload = some bytes ∧ digest = sha256 bytes := by
  unfold digestOf encoded
  cases payload.dumps py with
  | none => exact iff_of_false (by rintro ⟨⟩) (by rintro ⟨_, ⟨⟩, _⟩)
  | some text =>
    dsimp only [Option.bind_some]
    cases Utf8.encode text with
    | none => exact iff_of_false (by rintro ⟨⟩) (by rintro ⟨_, ⟨⟩, _⟩)
    | some bytes =>
      constructor
      · exact fun done => ⟨bytes, rfl, (Except.ok.inj done).symm⟩
      · rintro ⟨_, ⟨rfl⟩, rfl⟩
        rfl

theorem identifierText_ok {value what checked : Text} :
    (identifierText value what).mapError CursorFault.refused = .ok checked ↔
      isIdentifier value = true ∧ value = checked := by
  unfold identifierText
  split
  · next named => exact ⟨fun done => ⟨named, Except.ok.inj done⟩, fun both => congrArg _ both.2⟩
  · next other => exact iff_of_false (fun error => nomatch error) fun both => other both.1

theorem hash_ok {binding : CursorBinding} {hash : Text} : binding.hash py sha256 = .ok hash ↔
    isIdentifier binding.operation = true ∧
      ∃ bytes, encoded py binding.queryPayload = some bytes ∧ hash = sha256 bytes := by
  refine bind_eq_ok.trans ?_
  simp only [identifierText_ok, digestOf_ok]
  exact ⟨fun ⟨_, named, digest⟩ => ⟨named.1, digest⟩, fun ⟨named, digest⟩ => ⟨_, ⟨named, rfl⟩, digest⟩⟩

theorem cursorToken_ok {request : IssueRequest} {checked : CheckedIssue} {sequence : ℕ} {token : Text}
    (made : cursorToken py sha256 request checked sequence = .ok token) :
    ∃ bytes, encoded py (tokenPayload request checked sequence) = some bytes ∧ token = sha256 bytes := by
  obtain ⟨_, _, digest⟩ := bind_eq_ok.mp made
  exact digestOf_ok.mp digest

/-- An object whose keys are distinct, as given by their list. -/
theorem object_json {entries : JsonObject} {keys : List Text} (named : entries.map Prod.fst = keys)
    (distinct : keys.Nodup) (each : ∀ item ∈ entries, item.2.WellFormed ∧ item.2.FloatsRead py) :
    (Json.obj entries).WellFormed ∧ (Json.obj entries).FloatsRead py :=
  ⟨Json.wellFormed_obj.mpr ⟨named ▸ distinct, fun item here => (each item here).1⟩,
    Json.floatsRead_obj.mpr fun item here => (each item here).2⟩

/-- The keys of what `query_hash` hashes. -/
def queryKeys : List Text := ["operation", "query"]

/-- The keys of what a cursor id is the digest of. -/
def tokenKeys : List Text :=
  ["generation", "operation", "query", "scope", "capability", "offset", "sequence"]

theorem queryKeys_nodup : queryKeys.Nodup := by decide

theorem tokenKeys_nodup : tokenKeys.Nodup := by decide

/-- The payload of a query hash is JSON when its query is. -/
theorem queryPayload_json {binding : CursorBinding} (json : IsJson py binding) :
    binding.queryPayload.WellFormed ∧ binding.queryPayload.FloatsRead py := by
  refine object_json rfl queryKeys_nodup fun item here => ?_
  simp only [List.mem_cons, List.not_mem_nil, or_false] at here
  rcases here with rfl | rfl
  · exact ⟨trivial, trivial⟩
  · exact ⟨json.formed, json.floats⟩

theorem tokenPayload_json {request : IssueRequest} (checked : CheckedIssue) (sequence : ℕ)
    (json : IsJson py request.toCursorBinding) :
    (tokenPayload request checked sequence).WellFormed ∧
      (tokenPayload request checked sequence).FloatsRead py := by
  have texts : ∀ item ∈ checked.scope.map Json.str, item.WellFormed ∧ item.FloatsRead py := by
    intro item here
    obtain ⟨projectId, _, rfl⟩ := List.mem_map.mp here
    exact ⟨trivial, trivial⟩
  refine object_json rfl tokenKeys_nodup fun item here => ?_
  simp only [List.mem_cons, List.not_mem_nil, or_false] at here
  rcases here with rfl | rfl | rfl | rfl | rfl | rfl | rfl
  · exact ⟨trivial, trivial⟩
  · exact ⟨trivial, trivial⟩
  · exact ⟨json.formed, json.floats⟩
  · exact ⟨Json.wellFormed_arr.mpr fun item here => (texts item here).1,
      Json.floatsRead_arr.mpr fun item here => (texts item here).2⟩
  · exact ⟨trivial, trivial⟩
  · exact ⟨trivial, trivial⟩
  · exact ⟨trivial, trivial⟩

theorem sorted_queryPayload (binding : CursorBinding) : binding.queryPayload.sorted =
    .obj (sortedBy Prod.fst [("operation", .str binding.operation), ("query", binding.parameters.sorted)]) := by
  rw [CursorBinding.queryPayload, Json.sorted_obj,
    map_sortedBy Json.sortedItem Prod.fst Prod.fst _ fun _ _ => rfl]
  rfl

/-- The framing of a query hash keeps the operation and the query apart. -/
theorem sameQuery_iff {one other : CursorBinding} :
    Json.Same one.queryPayload other.queryPayload ↔ SameQuery one other := by
  constructor
  · intro same
    have distinct : ∀ binding : CursorBinding, (([("operation", Json.str binding.operation),
        ("query", binding.parameters)] : JsonObject).map Prod.fst).Nodup := fun _ => queryKeys_nodup
    have keyed := (Json.same_obj (distinct one) (distinct other)).mp same
    exact ⟨Json.str.inj (Option.some.inj (keyed "operation")), Option.some.inj (keyed "query")⟩
  · rintro ⟨operation, query⟩
    show one.queryPayload.sorted = other.queryPayload.sorted
    rw [sorted_queryPayload, sorted_queryPayload, operation,
      show one.parameters.sorted = other.parameters.sorted from query]

/-- An id is made for one sequence number. -/
theorem sequence_eq {request request' : IssueRequest} {checked checked' : CheckedIssue}
    {sequence sequence' : ℕ} (same : Json.Same (tokenPayload request checked sequence)
      (tokenPayload request' checked' sequence')) : sequence = sequence' := by
  unfold tokenPayload at same
  have keyed := (Json.same_obj (by exact tokenKeys_nodup) (by exact tokenKeys_nodup)).mp same "sequence"
  exact Int.ofNat.inj (Json.int.inj (Option.some.inj keyed))

end Framing

/-! ### What was issued -/

section Issuing

variable {py : Interpreter} {sha256 : Bytes → Text} {Time : Type} {clock : Clock Time}

theorem checkedScope_ok {scope projects : List Text} : checkedScope scope = .ok projects ↔
    (∀ projectId ∈ scope, isIdentifier projectId = true) ∧ projects = sortedSet id scope := by
  have one : ∀ projectId checked : Text, identifierText projectId "project_id" = .ok checked ↔
      isIdentifier projectId = true ∧ projectId = checked := by
    intro projectId checked
    unfold identifierText
    split
    · next named => exact ⟨fun done => ⟨named, Except.ok.inj done⟩, fun both => congrArg _ both.2⟩
    · next other => exact iff_of_false (fun error => nomatch error) fun both => other both.1
  have all : ∀ checked : List Text, scope.mapM (fun projectId => identifierText projectId "project_id") =
      .ok checked ↔ (∀ projectId ∈ scope, isIdentifier projectId = true) ∧ checked = scope := by
    intro checked
    rw [mapM_ok]
    simp only [one]
    induction scope generalizing checked with
    | nil => simp
    | cons projectId rest ih =>
      rw [List.forall₂_cons_left_iff, List.forall_mem_cons]
      constructor
      · rintro ⟨_, later, ⟨named, rfl⟩, each, rfl⟩
        obtain ⟨names, rfl⟩ := (ih later).mp each
        exact ⟨⟨named, names⟩, rfl⟩
      · rintro ⟨⟨named, names⟩, rfl⟩
        exact ⟨_, _, ⟨named, rfl⟩, (ih rest).mpr ⟨names, rfl⟩, rfl⟩
  refine bind_eq_ok.trans ?_
  simp only [all]
  constructor
  · rintro ⟨_, ⟨names, rfl⟩, done⟩
    exact ⟨names, (Except.ok.inj done).symm⟩
  · rintro ⟨names, rfl⟩
    exact ⟨scope, ⟨names, rfl⟩, rfl⟩

theorem chosenCapability_ok {binding : CursorBinding} {capability : Text}
    (chosen : binding.chosenCapability = .ok capability) : capability = binding.asks := by
  unfold CursorBinding.chosenCapability choice at chosen
  unfold CursorBinding.asks
  cases named : binding.capability with
  | none =>
    rw [named] at chosen
    exact (Except.ok.inj chosen).symm
  | some value =>
    rw [named] at chosen
    dsimp only at chosen
    split at chosen
    · next found =>
      rw [← Except.ok.inj chosen]
      simpa using List.find?_some found
    · cases chosen

/-- The checks of `issue` keep what they check. -/
theorem checkIssue_ok {request : IssueRequest} {checked : CheckedIssue}
    (accepted : checkIssue request = .ok checked) :
    checked.generation = request.catalogGenerationId ∧ checked.scope = sortedSet id request.scope ∧
      checked.capability = request.asks := by
  obtain ⟨generation, named, accepted⟩ := bind_eq_ok.mp accepted
  obtain ⟨capability, chosen, accepted⟩ := bind_eq_ok.mp accepted
  obtain ⟨scope, within, accepted⟩ := bind_eq_ok.mp accepted
  obtain ⟨offset, _, accepted⟩ := bind_eq_ok.mp accepted
  obtain ⟨ttl, _, accepted⟩ := bind_eq_ok.mp accepted
  cases accepted
  refine ⟨?_, (checkedScope_ok.mp within).2, chosenCapability_ok chosen⟩
  unfold sha256Text at named
  split at named
  · exact (Except.ok.inj named).symm
  · cases named

/-- An entry of the history was made for its request, under its sequence number. -/
def Made (py : Interpreter) (sha256 : Bytes → Text) (clock : Clock Time) (entry : Issued Time) : Prop :=
  ∃ checked moment, checkIssue entry.request = .ok checked ∧
    makeRecord py sha256 clock entry.request checked entry.sequence moment = .ok entry.record

/-- What the record of an entry says of its request. -/
structure Records (py : Interpreter) (sha256 : Bytes → Text) (entry : Issued Time) : Prop where
  generation : entry.record.catalogGenerationId = entry.request.catalogGenerationId
  scope : entry.record.scope = sortedSet id entry.request.scope
  capability : entry.record.capability = entry.request.asks
  query : ∃ bytes ∈ entry.inputs py, encoded py entry.request.queryPayload = some bytes ∧
    entry.record.queryHash = sha256 bytes
  token : ∃ bytes ∈ entry.inputs py, ∃ checked,
    encoded py (tokenPayload entry.request checked entry.sequence) = some bytes ∧
      entry.record.cursorId = sha256 bytes

theorem Made.records {entry : Issued Time} (made : Made py sha256 clock entry) :
    Records py sha256 entry := by
  obtain ⟨checked, moment, accepted, made⟩ := made
  obtain ⟨generation, scope, capability⟩ := checkIssue_ok accepted
  obtain ⟨cursorId, tokened, made⟩ := bind_eq_ok.mp made
  obtain ⟨queryHash, hashed, made⟩ := bind_eq_ok.mp made
  obtain ⟨token, framed, digest⟩ := cursorToken_ok tokened
  obtain ⟨_, bytes, encodes, digest'⟩ := hash_ok.mp hashed
  have record : CursorRecord.mk cursorId checked.generation queryHash entry.request.operation checked.scope
    checked.capability checked.offset moment (clock.plus moment checked.ttl) = entry.record :=
      Except.ok.inj made
  have inputs : entry.inputs py = [some token, some bytes].reduceOption := by
    unfold Issued.inputs
    rw [accepted, encodes]
    exact congrArg (fun first => [first, some bytes].reduceOption) framed
  refine ⟨record ▸ generation, record ▸ scope, record ▸ capability, ⟨bytes, ?_, encodes, record ▸ digest'⟩,
    ⟨token, ?_, checked, framed, record ▸ digest⟩⟩
  · rw [inputs]
    exact List.mem_cons_of_mem _ List.mem_cons_self
  · rw [inputs]
    exact List.mem_cons_self

/-- Two entries under one id have one sequence number. -/
theorem Records.sequence_eq {entry other : Issued Time} {inputs : List Bytes}
    (free : CollisionFree sha256 inputs) (records : Records py sha256 entry)
    (records' : Records py sha256 other) (within : entry.inputs py ⊆ inputs ∧ other.inputs py ⊆ inputs)
    (json : IsJson py entry.request.toCursorBinding ∧ IsJson py other.request.toCursorBinding)
    (same : entry.record.cursorId = other.record.cursorId) : entry.sequence = other.sequence := by
  obtain ⟨bytes, here, checked, framed, digest⟩ := records.token
  obtain ⟨bytes', here', checked', framed', digest'⟩ := records'.token
  obtain rfl := free bytes (within.1 here) bytes' (within.2 here')
    (digest.symm.trans (same.trans digest'))
  have formed := tokenPayload_json checked entry.sequence json.1
  have formed' := tokenPayload_json checked' other.sequence json.2
  exact Query.sequence_eq (encoded_injective ⟨formed.1, formed'.1⟩ ⟨formed.2, formed'.2⟩ framed framed')

end Issuing

/-! ### The invariant -/

section Invariant

variable (py : Interpreter) (sha256 : Bytes → Text) {Time : Type} [LinearOrder Time] (clock : Clock Time)

/-- The records of a store are those issued, each under an id of its own sequence number. -/
structure RunInv (run : CursorRun Time) : Prop where
  made : ∀ entry ∈ run.issued, Made py sha256 clock entry
  json : ∀ entry ∈ run.issued, IsJson py entry.request.toCursorBinding
  distinct : (run.issued.map Issued.sequence).Nodup
  below : ∀ entry ∈ run.issued, entry.sequence ≤ run.store.sequence
  stored : ∀ token record, run.store.records.get? token = some record ↔
    ∃ entry ∈ run.issued, entry.record = record ∧ record.cursorId = token

variable {py sha256 clock} {run : CursorRun Time}

omit [LinearOrder Time] in
theorem mem_inputs {entry : Issued Time} (here : entry ∈ run.issued) : entry.inputs py ⊆ run.inputs py :=
  fun _ input => List.mem_flatMap.mpr ⟨entry, here, input⟩

omit [LinearOrder Time] in
/-- One id, one cursor. -/
theorem RunInv.entry_eq (inv : RunInv py sha256 clock run) (free : CollisionFree sha256 (run.inputs py))
    {entry other : Issued Time} (here : entry ∈ run.issued) (there : other ∈ run.issued)
    (same : entry.record.cursorId = other.record.cursorId) : entry = other := by
  refine List.inj_on_of_nodup_map inv.distinct here there ?_
  exact (inv.made entry here).records.sequence_eq free (inv.made other there).records
    ⟨mem_inputs here, mem_inputs there⟩ ⟨inv.json entry here, inv.json other there⟩ same

omit [LinearOrder Time] in
theorem runInv_empty : RunInv py sha256 clock (⟨.empty, []⟩ : CursorRun Time) where
  made _ none := nomatch none
  json _ none := nomatch none
  distinct := List.nodup_nil
  below _ none := nomatch none
  stored _ _ := iff_of_false (fun found => nomatch found) fun ⟨_, absent, _⟩ => nomatch absent

/-- What `issue` comes to: it refuses, or makes a record under the next sequence number. -/
inductive IssueOutcome (py : Interpreter) (sha256 : Bytes → Text) (clock : Clock Time)
    (store : CursorStore Time) (request : IssueRequest) :
    Except CursorFault (CursorRecord Time) × CursorStore Time → Prop
  | refused (fault : CursorFault) (sequence : ℕ) (later : store.sequence ≤ sequence) :
      IssueOutcome py sha256 clock store request (.error fault, ⟨store.records, sequence⟩)
  | issued (record : CursorRecord Time)
      (made : Made py sha256 clock ⟨request, store.sequence + 1, record⟩) :
      IssueOutcome py sha256 clock store request
        (.ok record, ⟨store.records.set record.cursorId record, store.sequence + 1⟩)

variable (py sha256 clock) in
omit [LinearOrder Time] in
theorem issue_outcome (store : CursorStore Time) (request : IssueRequest) (moment : Time) :
    IssueOutcome py sha256 clock store request (store.issue py sha256 clock request moment) := by
  unfold CursorStore.issue
  cases accepted : checkIssue request with
  | error error => exact .refused _ _ le_rfl
  | ok checked =>
    dsimp only
    cases made : makeRecord py sha256 clock request checked (store.sequence + 1) moment with
    | error fault => exact .refused _ _ (Nat.le_succ _)
    | ok record => exact .issued record ⟨checked, moment, accepted, made⟩

omit [LinearOrder Time] in
/-- A refused `issue` moves the sequence number at most. -/
theorem RunInv.refused (inv : RunInv py sha256 clock run) {sequence : ℕ}
    (later : run.store.sequence ≤ sequence) :
    RunInv py sha256 clock ⟨⟨run.store.records, sequence⟩, run.issued⟩ :=
  ⟨inv.made, inv.json, inv.distinct, fun entry here => (inv.below entry here).trans later, inv.stored⟩

omit [LinearOrder Time] in
/-- An issued cursor joins the others under an id of its own. -/
theorem RunInv.issued (inv : RunInv py sha256 clock run) {entry : Issued Time}
    (number : entry.sequence = run.store.sequence + 1) (made : Made py sha256 clock entry)
    (json : IsJson py entry.request.toCursorBinding) {after : CursorRun Time}
    (store : after.store = ⟨run.store.records.set entry.record.cursorId entry.record, entry.sequence⟩)
    (history : after.issued = run.issued ++ [entry]) (free : CollisionFree sha256 (after.inputs py)) :
    RunInv py sha256 clock after := by
  have last : entry ∈ after.issued := history ▸ List.mem_append_right _ List.mem_cons_self
  have each : ∀ {P : Issued Time → Prop}, (∀ old ∈ run.issued, P old) → P entry →
      ∀ other ∈ after.issued, P other := by
    intro P old new other here
    rw [history] at here
    rcases List.mem_append.mp here with earlier | here
    · exact old other earlier
    · obtain rfl := List.mem_singleton.mp here
      exact new
  have made' := each inv.made made
  have json' := each inv.json json
  have distinct : (after.issued.map Issued.sequence).Nodup := by
    rw [history, List.map_append]
    refine List.nodup_append.mpr ⟨inv.distinct, List.nodup_singleton _, fun one old other new => ?_⟩
    obtain ⟨earlier, here, rfl⟩ := List.mem_map.mp old
    rw [List.mem_singleton.mp new, number]
    exact (Nat.lt_succ_of_le (inv.below earlier here)).ne
  have below : ∀ other ∈ after.issued, other.sequence ≤ after.store.sequence := by
    rw [store]
    exact each (fun other here => (inv.below other here).trans (number ▸ Nat.le_succ _)) le_rfl
  refine ⟨made', json', distinct, below, fun token record => ?_⟩
  rw [store, Dict.get?_set]
  split
  · next same =>
    rw [same]
    constructor
    · rintro ⟨rfl⟩
      exact ⟨entry, last, rfl, rfl⟩
    · rintro ⟨other, here, rfl, named⟩
      -- the new id belongs to no earlier cursor
      have numbers := (made' other here).records.sequence_eq free made.records
        ⟨mem_inputs here, mem_inputs last⟩ ⟨json' other here, json⟩ named
      rw [List.inj_on_of_nodup_map distinct here last numbers]
  · next apart =>
    rw [inv.stored]
    constructor
    · rintro ⟨other, here, rest⟩
      exact ⟨other, history ▸ List.mem_append_left _ here, rest⟩
    · rintro ⟨other, here, rfl, named⟩
      rw [history] at here
      rcases List.mem_append.mp here with earlier | new
      · exact ⟨other, earlier, rfl, named⟩
      · obtain rfl := List.mem_singleton.mp new
        exact (apart named.symm).elim

/-- One call keeps the invariant. -/
theorem RunInv.step (inv : RunInv py sha256 clock run) {call : CursorCall Time}
    (json : IsJson py call.binding)
    (free : CollisionFree sha256 ((run.step py sha256 clock call).inputs py)) :
    RunInv py sha256 clock (run.step py sha256 clock call) := by
  cases call with
  | resolve request moment =>
    show RunInv py sha256 clock ⟨run.store, run.issued ++ []⟩
    rw [List.append_nil]
    exact inv
  | issue request moment =>
    have outcome := issue_outcome py sha256 clock run.store request moment
    change CollisionFree sha256 (CursorRun.inputs py ⟨(run.store.issue py sha256 clock request moment).2,
      run.issued ++ issuedBy (run.store.issue py sha256 clock request moment) (.issue request moment)⟩) at free
    show RunInv py sha256 clock ⟨(run.store.issue py sha256 clock request moment).2,
      run.issued ++ issuedBy (run.store.issue py sha256 clock request moment) (.issue request moment)⟩
    generalize run.store.issue py sha256 clock request moment = answer at outcome free ⊢
    cases outcome with
    | refused fault sequence later =>
      show RunInv py sha256 clock ⟨_, run.issued ++ []⟩
      rw [List.append_nil]
      exact inv.refused later
    | issued record made => exact inv.issued rfl made json rfl rfl free

/-- What a call adds to the inputs. -/
theorem inputs_step (call : CursorCall Time) :
    run.inputs py ⊆ (run.step py sha256 clock call).inputs py := by
  intro input here
  obtain ⟨entry, member, input⟩ := List.mem_flatMap.mp here
  exact List.mem_flatMap.mpr ⟨entry, List.mem_append_left _ member, input⟩

theorem reached_append (calls : List (CursorCall Time)) (call : CursorCall Time) :
    reached py sha256 clock (calls ++ [call]) = (reached py sha256 clock calls).step py sha256 clock call := by
  unfold reached
  rw [List.foldl_append]
  rfl

/-- **The invariant holds after every sequence of calls.** -/
theorem runInv_reached {calls : List (CursorCall Time)} (json : ∀ call ∈ calls, IsJson py call.binding)
    (free : CollisionFree sha256 ((reached py sha256 clock calls).inputs py)) :
    RunInv py sha256 clock (reached py sha256 clock calls) := by
  induction calls using List.reverseRecOn with
  | nil => exact runInv_empty
  | append_singleton calls call ih =>
    rw [reached_append] at free ⊢
    have earlier := ih (fun other here => json other (List.mem_append_left _ here))
      (free.mono (inputs_step call))
    exact earlier.step (json call (List.mem_append_right _ List.mem_cons_self)) free

/-! ### Resolving -/

variable {asked : ResolveRequest} {moment : Time}

/-- A check for one reason: it passes, or it is this reason that differs. -/
def ChecksFor (reason : Reason) (differs : Prop) (check : Except CursorFault Unit) : Prop :=
  (check = .ok () ∧ ¬ differs) ∨ ∃ message, check = .error (.cursor reason.name message) ∧ differs

/-- A sequence of checks: all pass, or it is the first reason that differs. -/
inductive FirstOf (differs : Reason → Prop) (reasons : List Reason) : Except CursorFault Unit → Prop
  | passes (nowhere : ∀ reason ∈ reasons, ¬ differs reason) : FirstOf differs reasons (.ok ())
  | refuses (reason : Reason) (message : Text) (here : differs reason)
      (earlier : ∀ other, reasons.idxOf other < reasons.idxOf reason → ¬ differs other) :
      FirstOf differs reasons (.error (.cursor reason.name message))

/-- A single check. -/
theorem ChecksFor.alone {differs : Reason → Prop} {reason : Reason} {check : Except CursorFault Unit}
    (checks : ChecksFor reason (differs reason) check) : FirstOf differs [reason] check := by
  rcases checks with ⟨rfl, same⟩ | ⟨message, rfl, here⟩
  · exact .passes (List.forall_mem_singleton.mpr same)
  · refine .refuses reason message here fun other less => ?_
    rw [List.idxOf_cons_self] at less
    exact (Nat.not_lt_zero _ less).elim

/-- One more check in front. -/
theorem FirstOf.cons {differs : Reason → Prop} {reason : Reason} {reasons : List Reason}
    {check next : Except CursorFault Unit} (first : ChecksFor reason (differs reason) check)
    (later : FirstOf differs reasons next) : FirstOf differs (reason :: reasons) (check >>= fun _ => next) := by
  rcases first with ⟨rfl, same⟩ | ⟨message, rfl, here⟩
  · cases later with
    | passes nowhere => exact .passes (List.forall_mem_cons.mpr ⟨same, nowhere⟩)
    | refuses other message here earlier =>
      have apart : reason ≠ other := fun equal => same (equal ▸ here)
      refine .refuses other message here fun before less => ?_
      by_cases equal : reason = before
      · exact equal ▸ same
      · rw [List.idxOf_cons_ne _ equal, List.idxOf_cons_ne _ apart] at less
        exact earlier before (Nat.succ_lt_succ_iff.mp less)
  · refine .refuses reason message here fun before less => ?_
    rw [List.idxOf_cons_self] at less
    exact (Nat.not_lt_zero _ less).elim

/-- A check that compares two texts. -/
theorem checksFor_compare {reason : Reason} {differs : Prop} {one other message : Text}
    (same : one = other ↔ ¬ differs) :
    ChecksFor reason differs (if one ≠ other then .error (.cursor reason.name message) else .ok ()) := by
  by_cases equal : one = other
  · rw [if_neg (not_not.mpr equal)]
    exact Or.inl ⟨rfl, same.mp equal⟩
  · rw [if_pos equal]
    exact Or.inr ⟨message, rfl, not_not.mp (mt same.mpr equal)⟩

theorem checkExpiry_for (entry : Issued Time) :
    ChecksFor .expired (entry.differs asked moment .expired) (checkExpiry clock entry.record moment) := by
  unfold checkExpiry
  split
  · next late => exact Or.inr ⟨_, rfl, late⟩
  · next early => exact Or.inl ⟨rfl, early⟩

theorem checkGeneration_for {entry : Issued Time} (records : Records py sha256 entry)
    (formed : asked.WellFormed py) :
    ChecksFor .generation (entry.differs asked moment .generation) (checkGeneration entry.record asked) := by
  unfold checkGeneration sha256Text
  rw [if_pos formed.generation]
  refine checksFor_compare ?_
  rw [records.generation]
  exact ⟨fun same differs => differs same.symm, fun same => (not_not.mp same).symm⟩

theorem checkScope_for {entry : Issued Time} (records : Records py sha256 entry)
    (formed : asked.WellFormed py) :
    ChecksFor .scope (entry.differs asked moment .scope) (checkScope py entry.record asked) := by
  unfold checkScope
  rw [checkedScope_ok.mpr ⟨formed.scope, rfl⟩]
  show ChecksFor _ _ (if sortedSet id asked.scope ≠ entry.record.scope then _ else _)
  have same : sortedSet id asked.scope = entry.record.scope ↔ ¬ entry.differs asked moment .scope := by
    have listed : ∀ {scope : List Text} {projectId : Text},
        projectId ∈ sortedSet id scope ↔ projectId ∈ scope := mem_sortedSet
    rw [records.scope]
    refine Iff.trans ⟨fun same projectId => ?_, fun same => ?_⟩ not_not.symm
    · rw [← listed, ← same, listed]
    · exact sortedSet_eq_of_mem_iff Function.injective_id fun projectId => (same projectId).symm
  by_cases equal : sortedSet id asked.scope = entry.record.scope
  · rw [if_neg (not_not.mpr equal)]
    exact Or.inl ⟨rfl, same.mp equal⟩
  · rw [if_pos equal]
    exact Or.inr ⟨_, rfl, not_not.mp (mt same.mpr equal)⟩

/-- An identifier holds no surrogate. -/
theorem clean_identifier {value : Text} (named : isIdentifier value = true) : Utf8.Clean value := by
  have ascii : ∀ c : CodePoint, c.val < 0x80 → CodePoint.isSurrogate c = false := by
    intro c small
    unfold CodePoint.isSurrogate
    rw [Bool.and_eq_false_iff, decide_eq_false_iff_not]
    exact Or.inl (by omega)
  have lower : ∀ c : CodePoint, Text.isLowerAscii c = true → c.val < 0x80 := by
    intro c inside
    have : c.val ≤ 0x7a := by simpa using (Bool.and_eq_true_iff.mp inside).2
    omega
  have word : ∀ (first : CodePoint) (rest : Text), (Text.isLowerAscii first && rest.length ≤ 62 &&
      rest.all fun c => Text.isLowerAscii c || Text.isDigitAscii c || c == codePoint '-') = true →
        Utf8.Clean (first :: rest) := by
    intro first rest named
    simp only [Bool.and_eq_true, List.all_eq_true, Bool.or_eq_true, beq_iff_eq] at named
    refine List.forall_mem_cons.mpr ⟨ascii first (lower first named.1.1), fun c here => ascii c ?_⟩
    rcases named.2 c here with (letter | digit) | rfl
    · exact lower c letter
    · have : c.val ≤ 0x39 := by simpa using (Bool.and_eq_true_iff.mp digit).2
      omega
    · decide
  unfold isIdentifier Text.matchesToEnd at named
  rcases Bool.or_eq_true_iff.mp named with whole | line
  · cases value with
    | nil => cases whole
    | cons first rest => exact word first rest whole
  · obtain ⟨ends, body⟩ := Bool.and_eq_true_iff.mp line
    have last : value.getLast? = some (codePoint '\n') := by simpa using ends
    obtain ⟨front, rfl⟩ := List.getLast?_eq_some_iff.mp last
    rw [List.dropLast_concat] at body
    refine Utf8.clean_append.mpr ⟨?_, Utf8.clean_ofString "\n"⟩
    cases front with
    | nil => cases body
    | cons first rest => exact word first rest body

/-- What is hashed for a request. -/
def ResolveRequest.inputs (py : Interpreter) (asked : ResolveRequest) : List Bytes :=
  [encoded py asked.queryPayload].reduceOption

theorem ResolveRequest.WellFormed.encodes (formed : asked.WellFormed py) :
    ∃ bytes ∈ asked.inputs py, encoded py asked.queryPayload = some bytes := by
  have sendable : Json.Sendable py asked.queryPayload := by
    refine Json.sendable_obj.mpr fun item here => ?_
    simp only [List.mem_cons, List.not_mem_nil, or_false] at here
    rcases here with rfl | rfl
    · exact ⟨Utf8.clean_ofString _, Json.sendable_str.mpr (clean_identifier formed.operation)⟩
    · exact ⟨Utf8.clean_ofString _, formed.sendable⟩
  have encodes := encoded_eq_some.mpr ⟨sendable.1, Utf8.encode_of_clean sendable.2⟩
  refine ⟨_, ?_, encodes⟩
  unfold ResolveRequest.inputs
  rw [encodes]
  exact List.mem_cons_self

theorem checkQuery_for {entry : Issued Time} (records : Records py sha256 entry)
    (json : IsJson py entry.request.toCursorBinding) (formed : asked.WellFormed py)
    (free : CollisionFree sha256 (entry.inputs py ++ asked.inputs py)) :
    ChecksFor .query (entry.differs asked moment .query) (checkQuery py sha256 entry.record asked) := by
  obtain ⟨bytes, here, encodes, digest⟩ := records.query
  obtain ⟨bytes', here', encodes'⟩ := formed.encodes
  unfold checkQuery
  rw [hash_ok.mpr ⟨formed.operation, bytes', encodes', rfl⟩]
  refine checksFor_compare (Iff.trans ?_ not_not.symm)
  rw [digest, ← sameQuery_iff]
  constructor
  · intro same
    obtain rfl := free bytes' (List.mem_append_right _ here') bytes (List.mem_append_left _ here) same
    have framed := queryPayload_json json
    have framed' := queryPayload_json formed.json
    exact encoded_injective ⟨framed.1, framed'.1⟩ ⟨framed.2, framed'.2⟩ encodes encodes'
  · intro same
    rw [encoded_congr same encodes encodes']

theorem checkCapability_for {entry : Issued Time} (records : Records py sha256 entry)
    (formed : asked.WellFormed py) :
    ChecksFor .capability (entry.differs asked moment .capability)
      (checkCapability py entry.record asked) := by
  have chosen : asked.chosenCapability = .ok asked.asks := by
    unfold CursorBinding.chosenCapability CursorBinding.asks
    cases named : asked.capability with
    | none => rfl
    | some value => exact choice_label Function.injective_id (formed.capability value named)
  unfold checkCapability
  rw [chosen]
  refine checksFor_compare ?_
  rw [records.capability]
  exact ⟨fun same differs => differs same.symm, fun same => (not_not.mp same).symm⟩

/-! ### The outcome -/

/-- An entry under the id of a request decides where the request differs. -/
theorem differs_iff {issued : List (Issued Time)} {entry : Issued Time} (here : entry ∈ issued)
    (named : entry.record.cursorId = asked.cursorId)
    (alone : ∀ other ∈ issued, other.record.cursorId = asked.cursorId → other = entry) (reason : Reason) :
    Differs issued asked moment reason ↔ entry.differs asked moment reason := by
  constructor
  · rintro (⟨_, none⟩ | ⟨other, there, same, differs⟩)
    · exact (none entry here named).elim
    · exact alone other there same ▸ differs
  · exact fun differs => Or.inr ⟨entry, here, named, differs⟩

/-- A request that differs nowhere is answered by the record. -/
theorem resolves_ok {issued : List (Issued Time)} {entry : Issued Time} (here : entry ∈ issued)
    (named : entry.record.cursorId = asked.cursorId)
    (alone : ∀ other ∈ issued, other.record.cursorId = asked.cursorId → other = entry)
    (nowhere : ∀ reason, ¬ Differs issued asked moment reason) :
    Resolves issued asked moment (.ok entry.record) := by
  refine ⟨fun record => ⟨?_, ?_⟩, fun _ none => nomatch none⟩
  · rintro ⟨rfl⟩
    exact ⟨⟨entry, here, rfl, named⟩, nowhere⟩
  · rintro ⟨⟨other, there, rfl, same⟩, _⟩
    rw [alone other there same]

/-- A request that differs is refused by the first reason. -/
theorem resolves_error {issued : List (Issued Time)} {reason : Reason} {message : Text}
    (first : FirstDiffers issued asked moment reason) :
    Resolves issued asked moment (.error (.cursor reason.name message)) := by
  refine ⟨fun record => iff_of_false (fun none => nomatch none) fun both => both.2 reason first.1, ?_⟩
  rintro _ ⟨rfl⟩
  exact ⟨reason, message, rfl, first⟩

/-- The checks of a record that was found. -/
theorem checkBinding_first {entry : Issued Time} (records : Records py sha256 entry)
    (json : IsJson py entry.request.toCursorBinding) (formed : asked.WellFormed py)
    (free : CollisionFree sha256 (entry.inputs py ++ asked.inputs py)) :
    FirstOf (entry.differs asked moment) documented
      (checkBinding py sha256 clock entry.record asked moment) := by
  let differs := entry.differs asked moment
  have known : ChecksFor .unknown (differs .unknown) (.ok ()) := Or.inl ⟨rfl, id⟩
  have expiry : ChecksFor .expired (differs .expired) (checkExpiry clock entry.record moment) :=
    checkExpiry_for entry
  have generation : ChecksFor .generation (differs .generation) (checkGeneration entry.record asked) :=
    checkGeneration_for records formed
  have scope : ChecksFor .scope (differs .scope) (checkScope py entry.record asked) :=
    checkScope_for records formed
  have query : ChecksFor .query (differs .query) (checkQuery py sha256 entry.record asked) :=
    checkQuery_for records json formed free
  have capability : ChecksFor .capability (differs .capability) (checkCapability py entry.record asked) :=
    checkCapability_for records formed
  have all := FirstOf.cons known (FirstOf.cons expiry (FirstOf.cons generation (FirstOf.cons scope
    (FirstOf.cons query capability.alone))))
  exact all

/-- **A store answers by what it has issued.** -/
theorem RunInv.resolves (inv : RunInv py sha256 clock run) (formed : asked.WellFormed py)
    (free : CollisionFree sha256 (run.inputs py ++ asked.inputs py)) :
    Resolves run.issued asked moment (run.store.resolve py sha256 clock asked moment) := by
  unfold CursorStore.resolve sha256Text
  rw [if_pos formed.cursorId]
  show Resolves run.issued asked moment (run.store.find asked.cursorId >>= fun record =>
    checkBinding py sha256 clock record asked moment >>= fun _ => .ok record)
  unfold CursorStore.find
  cases found : run.store.records.get? asked.cursorId with
  | none =>
    have absent : ∀ entry ∈ run.issued, entry.record.cursorId ≠ asked.cursorId := by
      intro entry here named
      have stored := (inv.stored asked.cursorId entry.record).mpr ⟨entry, here, rfl, named⟩
      rw [found] at stored
      cases stored
    have first : FirstDiffers run.issued asked moment .unknown :=
      ⟨Or.inl ⟨rfl, absent⟩, fun earlier before => (Nat.not_lt_zero _ before).elim⟩
    exact resolves_error first
  | some record =>
    obtain ⟨entry, here, rfl, named⟩ := (inv.stored asked.cursorId record).mp found
    have within := free.mono (List.subset_append_left _ _)
    have alone : ∀ other ∈ run.issued, other.record.cursorId = asked.cursorId → other = entry :=
      fun other there same => inv.entry_eq within there here (same.trans named.symm)
    have both : CollisionFree sha256 (entry.inputs py ++ asked.inputs py) :=
      free.mono (List.append_subset.mpr ⟨fun input there =>
        List.mem_append_left _ (mem_inputs here there), List.subset_append_right _ _⟩)
    have first : FirstOf (entry.differs asked moment) documented
        (checkBinding py sha256 clock entry.record asked moment) :=
      checkBinding_first (inv.made entry here).records (inv.json entry here) formed both
    show Resolves run.issued asked moment
      (checkBinding py sha256 clock entry.record asked moment >>= fun _ => .ok entry.record)
    generalize checkBinding py sha256 clock entry.record asked moment = outcome at first ⊢
    cases first with
    | passes nowhere =>
      refine resolves_ok here named alone fun reason differs => ?_
      refine nowhere reason ?_ ((differs_iff here named alone reason).mp differs)
      cases reason <;> decide
    | refuses reason message differs earlier =>
      refine resolves_error ⟨(differs_iff here named alone reason).mpr differs, fun other before => ?_⟩
      exact mt (differs_iff here named alone other).mp (earlier other before)

/-! ### Over a run -/

/-- What is issued later joins what was issued before. -/
theorem issued_reached (calls later : List (CursorCall Time)) :
    (reached py sha256 clock calls).issued ⊆ (reached py sha256 clock (calls ++ later)).issued := by
  induction later using List.reverseRecOn with
  | nil =>
    rw [List.append_nil]
    exact List.Subset.refl _
  | append_singleton later call ih =>
    rw [← List.append_assoc, reached_append]
    exact List.Subset.trans ih (List.subset_append_left _ _)

/-- **A cursor resolves exactly if nothing differs** from the request it was issued for, to the record that
was issued, and otherwise the first reason in the documented order is raised. The store stays as it is, and
no later call changes what an earlier cursor resolves to. -/
theorem resolve_reached {calls : List (CursorCall Time)} (json : ∀ call ∈ calls, IsJson py call.binding)
    (formed : asked.WellFormed py)
    (free : CollisionFree sha256 ((reached py sha256 clock calls).inputs py ++ asked.inputs py)) :
    (Resolves (reached py sha256 clock calls).issued asked moment
        ((reached py sha256 clock calls).store.answer py sha256 clock (.resolve asked moment)).1 ∧
      ((reached py sha256 clock calls).store.answer py sha256 clock (.resolve asked moment)).2 =
        (reached py sha256 clock calls).store) ∧
      ∀ later : List (CursorCall Time), (∀ call ∈ later, IsJson py call.binding) →
        CollisionFree sha256 ((reached py sha256 clock (calls ++ later)).inputs py) →
        (∃ entry ∈ (reached py sha256 clock calls).issued, entry.record.cursorId = asked.cursorId) →
          (reached py sha256 clock (calls ++ later)).store.resolve py sha256 clock asked moment =
            (reached py sha256 clock calls).store.resolve py sha256 clock asked moment := by
  have inv := runInv_reached json (free.mono (List.subset_append_left _ _))
  refine ⟨⟨inv.resolves formed free, rfl⟩, fun later json' free' ⟨entry, here, named⟩ => ?_⟩
  have inv' : RunInv py sha256 clock (reached py sha256 clock (calls ++ later)) := runInv_reached
    (fun call here => (List.mem_append.mp here).elim (json call) (json' call)) free'
  have found := (inv.stored asked.cursorId entry.record).mpr ⟨entry, here, rfl, named⟩
  have found' := (inv'.stored asked.cursorId entry.record).mpr
    ⟨entry, issued_reached calls later here, rfl, named⟩
  unfold CursorStore.resolve sha256Text CursorStore.find
  rw [if_pos formed.cursorId]
  dsimp only [Except.mapError, bind, Except.bind]
  rw [found, found']

end Invariant

/-! ### A page and its continuation -/

/-- A clock of whole seconds. -/
def seconds : Clock ℕ := ⟨fun moment ttl => moment + ttl, Text.ofNat⟩

/-- A digest that tells the inputs of the sample apart. -/
def sampleHash (bytes : Bytes) : Text := if bytes.length < 100 then digest 'b' else digest 'a'

/-- A search by two projects. -/
def pageRequest : IssueRequest where
  catalogGenerationId := digest 'c'
  operation := "search"
  query := some [("query", .str "login"), ("limit", .int 20)]
  scope := ["auth-api", "web-app"]
  offset := some 20

/-- The same search, its parameters and projects named in another order. -/
def pageAsked : ResolveRequest where
  cursorId := digest 'a'
  catalogGenerationId := digest 'c'
  operation := "search"
  query := some [("limit", .int 20), ("query", .str "login")]
  scope := ["web-app", "auth-api", "auth-api"]

/-- The next page is found under its cursor. -/
theorem resolve_page :
    Resolves (reached .ascii sampleHash seconds [.issue pageRequest 100]).issued pageAsked 110
      ((reached .ascii sampleHash seconds [.issue pageRequest 100]).store.answer .ascii sampleHash seconds
        (.resolve pageAsked 110)).1 ∧
    ((reached .ascii sampleHash seconds [.issue pageRequest 100]).store.resolve .ascii sampleHash seconds
        pageAsked 110).toOption.map CursorRecord.offset = some 20 := by
  have pair : ∀ a b : Text × Json, a.1 ≠ b.1 → a.2.noFloat = true ∧ a.2.WellFormed →
      b.2.noFloat = true ∧ b.2.WellFormed →
        (Json.obj [a, b]).WellFormed ∧ (Json.obj [a, b]).FloatsRead .ascii := by
    intro a b apart left right
    refine object_json rfl (by simpa using apart) fun item here => ?_
    rcases List.mem_cons.mp here with rfl | here
    · exact ⟨left.2, Json.floatsRead_of_noFloat left.1⟩
    · obtain rfl := List.mem_singleton.mp here
      exact ⟨right.2, Json.floatsRead_of_noFloat right.1⟩
  have issued : IsJson .ascii pageRequest.toCursorBinding :=
    have both := pair ("query", .str "login") ("limit", .int 20) (by decide) ⟨rfl, trivial⟩ ⟨rfl, trivial⟩
    ⟨both.1, both.2⟩
  have again : IsJson .ascii pageAsked.toCursorBinding :=
    have both := pair ("limit", .int 20) ("query", .str "login") (by decide) ⟨rfl, trivial⟩ ⟨rfl, trivial⟩
    ⟨both.1, both.2⟩
  have formed : pageAsked.WellFormed .ascii := by
    refine ⟨by decide, by decide, by decide, by decide, again, ?_, ?_⟩
    · exact ⟨by decide +kernel, (Json.clean_compactText (by decide) (by decide +kernel)).mpr (by decide +kernel)⟩
    · rintro _ ⟨rfl⟩
      decide
  have free : CollisionFree sampleHash ((reached .ascii sampleHash seconds
      [.issue pageRequest 100]).inputs .ascii ++ pageAsked.inputs .ascii) := by
    unfold CollisionFree
    decide +kernel
  refine ⟨(resolve_reached (List.forall_mem_singleton.mpr issued) formed free).1.1, ?_⟩
  decide +kernel

end AxiomMcp.Query
