/-
**The cursor store (`query/cursor.py`).**

A cursor is an opaque id under which the store keeps what the cursor was issued for: a catalog generation,
the hash of an operation with its query, a set of projects and a capability. `resolve` re-checks every part
of that binding, in the documented order.

* `issue`: the arguments are checked, the sequence number moves on, and the id and the query hash are digests
  of two framed JSON texts (`tokenPayload`, `queryPayload`);
* `resolve`: one check for each part of the binding. It returns the record it found and changes nothing.

The clock is a parameter: a linear order of readings with the addition of a number of seconds.
-/

import AxiomMcp.Lib.JsonRound
import AxiomMcp.Query.Model

namespace AxiomMcp.Query

open Lib

/-! ### Constants and errors -/

/-- The constant `CAPABILITIES`. -/
def capabilities : List Text := ["read", "verify", "reconcile"]

def defaultTtlSeconds : ℕ := 300
def minTtlSeconds : ℕ := 1
def maxTtlSeconds : ℕ := 3600

/-- What a cursor store raises. -/
inductive CursorFault
  /-- A `CursorError`. -/
  | cursor (reason message : Text)
  /-- Any other `QueryModelError`. -/
  | refused (error : QueryModelError)
  /-- The `ValueError` of an integer of too many digits. -/
  | unprintable
  /-- The `UnicodeEncodeError` of a lone surrogate. -/
  | unicodeEncode
  deriving DecidableEq

/-- `sha256_text(value, what=what)` -/
def sha256Text (value what : Text) : Except QueryModelError Text :=
  if isSha256 value then .ok value else .error (.notDigest what value)

/-- `identifier_text(value, what=what)` -/
def identifierText (value what : Text) : Except QueryModelError Text :=
  if isIdentifier value then .ok value else .error (.notIdentifier what value)

/-! ### Records and requests -/

/-- The clock of a store: what it adds to a reading, and how it prints one. -/
structure Clock (Time : Type) where
  /-- `issued_at + ttl` -/
  plus : Time → ℕ → Time
  text : Time → Text

/-- One issued cursor and the binding it is only valid for. -/
structure CursorRecord (Time : Type) where
  cursorId : Text
  catalogGenerationId : Text
  queryHash : Text
  operation : Text
  scope : List Text
  capability : Text
  offset : ℕ
  issuedAt : Time
  expiresAt : Time
  deriving DecidableEq

/-- The arguments that bind a cursor. -/
structure CursorBinding where
  catalogGenerationId : Text
  operation : Text
  query : Option JsonObject := none
  scope : List Text := []
  capability : Option Text := some "read"

/-- The query of a binding: `dict(query or {})`. -/
def CursorBinding.parameters (binding : CursorBinding) : Json := .obj (binding.query.getD [])

/-- The arguments of `issue`. -/
structure IssueRequest extends CursorBinding where
  offset : Option ℤ := some 0
  ttlSeconds : Option ℤ := none

/-- The arguments of `resolve`. -/
structure ResolveRequest extends CursorBinding where
  cursorId : Text

/-- A cursor store. -/
structure CursorStore (Time : Type) where
  records : Dict Text (CursorRecord Time)
  sequence : ℕ

/-- `CursorStore()` -/
def CursorStore.empty {Time : Type} : CursorStore Time := ⟨.empty, 0⟩

/-! ### Digests -/

section Store

variable (py : Interpreter) (sha256 : Bytes → Text)

/-- The UTF-8 bytes of the compact JSON text of a value, where neither step raises. -/
def encoded (payload : Json) : Option Bytes := (payload.dumps py).bind Utf8.encode

/-- What `query_hash` hashes. -/
def CursorBinding.queryPayload (binding : CursorBinding) : Json :=
  .obj [("operation", .str binding.operation), ("query", binding.parameters)]

/-- The hex digest of the text of a payload; `fault` is raised where `json.dumps` raises. -/
def digestOf (fault : CursorFault) (payload : Json) : Except CursorFault Text :=
  match payload.dumps py with
  | none => .error fault
  | some text =>
    match Utf8.encode text with
    | none => .error .unicodeEncode
    | some bytes => .ok (sha256 bytes)

/-- The `CursorError` of a query that `json.dumps` does not print. -/
def notSerialisable : CursorFault :=
  .cursor "query" (Text.format ["the query parameters are not JSON-serialisable: ",
    "Exceeds the limit (", Text.ofNat py.maxStrDigits, " digits) for integer string conversion; ",
    "use sys.set_int_max_str_digits() to increase the limit"])

/-- `query_hash(operation, query)` -/
def CursorBinding.hash (binding : CursorBinding) : Except CursorFault Text := do
  let _ ← (identifierText binding.operation "operation").mapError .refused
  digestOf py sha256 (notSerialisable py) binding.queryPayload

/-- The arguments of `issue` after their checks. -/
structure CheckedIssue where
  generation : Text
  capability : Text
  scope : List Text
  offset : ℕ
  ttl : ℕ

/-- The project ids of a scope, sorted and each once. -/
def checkedScope (scope : List Text) : Except QueryModelError (List Text) := do
  let projects ← scope.mapM fun projectId => identifierText projectId "project_id"
  return sortedSet id projects

/-- The capability of a binding. -/
def CursorBinding.chosenCapability (binding : CursorBinding) : Except QueryModelError Text :=
  choice id binding.capability "capability" capabilities "read"

/-- The checks of `issue` before its sequence number moves on. -/
def checkIssue (request : IssueRequest) : Except QueryModelError CheckedIssue := do
  let generation ← sha256Text request.catalogGenerationId "catalog_generation_id"
  let capability ← request.chosenCapability
  let scope ← checkedScope request.scope
  let offset ← boundedInt request.offset "offset" 0 1000000 0
  let ttl ← boundedInt request.ttlSeconds "ttl_seconds" minTtlSeconds maxTtlSeconds defaultTtlSeconds
  return ⟨generation, capability, scope, offset, ttl⟩

/-- What a cursor id is the digest of. -/
def tokenPayload (request : IssueRequest) (checked : CheckedIssue) (sequence : ℕ) : Json :=
  .obj [("generation", .str checked.generation), ("operation", .str request.operation),
    ("query", request.parameters), ("scope", .arr (checked.scope.map .str)),
    ("capability", .str checked.capability), ("offset", .int checked.offset), ("sequence", .int sequence)]

/-- The id of a cursor. -/
def cursorToken (request : IssueRequest) (checked : CheckedIssue) (sequence : ℕ) : Except CursorFault Text := do
  let _ ← (identifierText request.operation "operation").mapError .refused
  digestOf py sha256 .unprintable (tokenPayload request checked sequence)

/-! ### Issuing -/

variable {Time : Type} (clock : Clock Time)

/-- The record of `issue`, under its sequence number. -/
def makeRecord (request : IssueRequest) (checked : CheckedIssue) (sequence : ℕ) (issuedAt : Time) :
    Except CursorFault (CursorRecord Time) := do
  let cursorId ← cursorToken py sha256 request checked sequence
  let queryHash ← request.hash py sha256
  return {
    cursorId, queryHash, issuedAt
    catalogGenerationId := checked.generation
    operation := request.operation
    scope := checked.scope
    capability := checked.capability
    offset := checked.offset
    expiresAt := clock.plus issuedAt checked.ttl }

/-- `self.issue(...)` at a moment, with the store after it. -/
def CursorStore.issue (store : CursorStore Time) (request : IssueRequest) (moment : Time) :
    Except CursorFault (CursorRecord Time) × CursorStore Time :=
  match checkIssue request with
  | .error error => (.error (.refused error), store)
  | .ok checked =>
    match makeRecord py sha256 clock request checked (store.sequence + 1) moment with
    | .error fault => (.error fault, { store with sequence := store.sequence + 1 })
    | .ok record => (.ok record, ⟨store.records.set record.cursorId record, store.sequence + 1⟩)

/-! ### Resolving -/

variable [LinearOrder Time]

/-- `record.expired(now)` -/
def CursorRecord.expired (record : CursorRecord Time) (now : Time) : Prop := record.expiresAt < now

instance (record : CursorRecord Time) (now : Time) : Decidable (record.expired now) :=
  inferInstanceAs (Decidable (record.expiresAt < now))

/-- The expiry of a record. -/
def checkExpiry (record : CursorRecord Time) (moment : Time) : Except CursorFault Unit :=
  if record.expired moment then
    .error (.cursor "expired" (Text.format ["the cursor expired at ", clock.text record.expiresAt,
      " and was used at ", clock.text moment]))
  else .ok ()

/-- The generation a cursor is used against. -/
def checkGeneration (record : CursorRecord Time) (request : ResolveRequest) : Except CursorFault Unit := do
  let generation ← (sha256Text request.catalogGenerationId "catalog_generation_id").mapError .refused
  if generation ≠ record.catalogGenerationId then
    .error (.cursor "generation" (Text.format ["the cursor was issued against another catalog ",
      "generation; a pinned walk cannot continue against a different one"]))
  else .ok ()

/-- `list(names)`, printed. -/
def printedList (names : List Text) : Text := (Json.arr (names.map .str)).pyRepr py

/-- The projects a cursor is used for. -/
def checkScope (record : CursorRecord Time) (request : ResolveRequest) : Except CursorFault Unit := do
  let expected ← (checkedScope request.scope).mapError .refused
  if expected ≠ record.scope then
    .error (.cursor "scope" (Text.format ["the cursor is bound to scope ", printedList py record.scope,
      ", not ", printedList py expected, "; authorization is part of the binding"]))
  else .ok ()

/-- The query a cursor is used for. -/
def checkQuery (record : CursorRecord Time) (request : ResolveRequest) : Except CursorFault Unit := do
  let hash ← request.hash py sha256
  if hash ≠ record.queryHash then
    .error (.cursor "query" "the cursor was issued for a different operation or parameters")
  else .ok ()

/-- The capability a cursor is used with. -/
def checkCapability (record : CursorRecord Time) (request : ResolveRequest) : Except CursorFault Unit := do
  let capability ← request.chosenCapability.mapError .refused
  if capability ≠ record.capability then
    .error (.cursor "capability" (Text.format ["the cursor requires capability ",
      record.capability.pyRepr py.isPrintable, ", not ", capability.pyRepr py.isPrintable]))
  else .ok ()

/-- `self._records.get(token)` -/
def CursorStore.find (store : CursorStore Time) (token : Text) : Except CursorFault (CursorRecord Time) :=
  match store.records.get? token with
  | none => .error (.cursor "unknown" "this store has no such cursor")
  | some record => .ok record

/-- The checks of a record that was found, in their documented order. -/
def checkBinding (record : CursorRecord Time) (request : ResolveRequest) (moment : Time) :
    Except CursorFault Unit := do
  checkExpiry clock record moment
  checkGeneration record request
  checkScope py record request
  checkQuery py sha256 record request
  checkCapability py record request

/-- `self.resolve(...)` at a moment. -/
def CursorStore.resolve (store : CursorStore Time) (request : ResolveRequest) (moment : Time) :
    Except CursorFault (CursorRecord Time) := do
  let token ← (sha256Text request.cursorId "cursor").mapError .refused
  let record ← store.find token
  checkBinding py sha256 clock record request moment
  return record

end Store

end AxiomMcp.Query
