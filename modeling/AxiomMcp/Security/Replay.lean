/-
**The middleware reads a request body and replays it (`security.py`, `_replay_receive` to `SecurityMiddleware`).**

`Stream` is what a receive channel still delivers: body chunks, each announcing more, and then the last chunk or a
disconnect. `Channel` is such a stream behind chunks that wait to be replayed, and `received` what an application
gets of it, message after message.

* `bufferBody_ok`: within the limit the channel that is handed on holds the chunks of the stream;
* `received_replay`: the chunks come out as they went in, if the last one ends the body;
* `replay_transparent_iff` — **what the application receives is what was sent, and no body that was cut off looks
  complete, unless a request that is buffered is cut off behind a chunk**.
-/

import AxiomMcp.Security.Origins
import AxiomMcp.Tools.Dispatch

namespace AxiomMcp.Security

open AxiomMcp.Lib

/-! ### Receive channels -/

/-- A message of a receive channel, with the keys it may lack. -/
inductive Message
  | request (body : Option Bytes) (moreBody : Option Bool)
  | disconnect
  deriving DecidableEq

/-- What a receive channel still delivers. Behind the end of a body, and after a disconnect, every
further message is a disconnect. -/
inductive Stream
  | disconnected
  | last (body : Option Bytes) (flagged : Bool)
  | chunk (body : Option Bytes) (rest : Stream)
  deriving DecidableEq

/-- `await receive()` -/
def Stream.receive : Stream → Message × Stream
  | .disconnected => (.disconnect, .disconnected)
  | .last body flagged => (.request body (if flagged then some false else none), .disconnected)
  | .chunk body rest => (.request body (some true), rest)

/-- A stream behind chunks that wait to be replayed. -/
structure Channel where
  buffered : List Bytes
  rest : Stream
  deriving DecidableEq

/-- `await replay()`; a channel that buffers nothing is the receive channel itself. -/
def Channel.receive (channel : Channel) : Message × Channel :=
  match channel.buffered with
  | body :: buffered => (.request (some body) (some !buffered.isEmpty), ⟨buffered, channel.rest⟩)
  | [] => (channel.rest.receive.1, ⟨[], channel.rest.receive.2⟩)

/-- The first messages of a channel. -/
def Channel.received : ℕ → Channel → List Message
  | 0, _ => []
  | count + 1, channel => channel.receive.1 :: Channel.received count channel.receive.2

/-- The loop of `_buffer_body`. -/
def bufferFrom (limit : ℕ) (chunks : List Bytes) (total : ℕ) : Stream → Option Bytes × Channel
  | .disconnected => (some chunks.flatten, ⟨chunks, .disconnected⟩)
  | .last body _ =>
    -- `body = message.get("body") or b""`
    if limit < total + (body.getD []).length then (none, ⟨chunks ++ [body.getD []], .disconnected⟩)
    else (some (chunks ++ [body.getD []]).flatten, ⟨chunks ++ [body.getD []], .disconnected⟩)
  | .chunk body rest =>
    if limit < total + (body.getD []).length then (none, ⟨chunks ++ [body.getD []], rest⟩)
    else bufferFrom limit (chunks ++ [body.getD []]) (total + (body.getD []).length) rest

/-- `_buffer_body(receive, limit)` -/
def bufferBody (limit : ℕ) (stream : Stream) : Option Bytes × Channel := bufferFrom limit [] 0 stream

/-! ### The middleware -/

/-- What the middleware reads of an ASGI scope. -/
structure Scope where
  type : Text
  path : Option Text
  method : Option Text
  headers : List (Text × Text)

/-- What the interpreter provides: `text.upper()`, SHA-256 in hexadecimal, and `json.loads` of bytes, which answers
nothing where it raises a `JSONDecodeError` or a `UnicodeDecodeError`. -/
structure Runtime where
  py : Interpreter
  chars : Characters
  upper : Text → Text
  digest : Bytes → Text
  loads : Bytes → Except Failure (Option Json)

/-- A `SecurityMiddleware`, without the application behind it. -/
structure Middleware (chars : Characters) where
  policy : SecurityPolicy chars
  authenticator : TokenRegistry
  protectedPath : Text
  maxBodyBytes : ℕ
  maxBodyBytes_pos : 0 < maxBodyBytes

/-- How a request ends: an error is sent, an exception leaves the middleware, or the application is called with a
channel. -/
inductive Handled
  | refused (code message : Text)
  | raised (failure : Failure)
  | forwarded (channel : Channel)
  deriving DecidableEq

section Code

variable (run : Runtime)

/-- `headers.get(name)` -/
def header? (headers : List (Text × Text)) (name : Text) : Option Text := headers.lookup name

/-- `parse_authorization(headers)` -/
def parseAuthorization (headers : List (Text × Text)) : Except Failure (Option Text) :=
  match headers.find? fun item => decide (run.chars.lower item.1 = ("authorization" : Text)) with
  | none => .ok none
  | some (_, raw) =>
    let (scheme, credentials) := (cutAt " " raw).getD (raw, [])
    if run.chars.lower scheme.strip ≠ ("bearer" : Text) ∨ credentials.strip = [] then
      .error (.security "UNAUTHENTICATED" "authorization must use the Bearer scheme")
    else .ok (some credentials.strip)

/-- `required_capability(payload)` -/
def requiredCapability (payload : JsonObject) : Option Text :=
  match Json.get? payload "method" with
  | some (.str method) =>
    if method ≠ ("tools/call" : Text) then none
    else
      match (Json.get? payload "params").bind fun params => Json.field? params "name" with
      | some (.str name) => if name = [] then none else some (Tools.toolCapability name)
      | _ => none
  | _ => none

/-- A text that is given and not empty. -/
def givenText (entries : JsonObject) (name : Text) : Option Text :=
  match Json.get? entries name with
  | some (.str value) => if value = [] then none else some value
  | _ => none

/-- `call_scope(payload)` -/
def callScope (payload : JsonObject) : Option Text × List Text :=
  match (Json.get? payload "params").bind fun params => Json.field? params "arguments" with
  | some (.obj arguments) =>
    let many := match Json.get? arguments "project_ids" with
      | some (.arr items) => (items.map (Json.pyStr run.py)).filter fun item => item ≠ []
      | _ => []
    (givenText arguments "solution_id", (givenText arguments "project_id").toList ++ many)
  | _ => (none, [])

/-- Whether a byte is one `bytes.strip` removes. -/
def isByteSpace (byte : Byte) : Bool := (0x09 ≤ byte.val && byte.val ≤ 0x0d) || byte.val == 0x20

/-- `_decode_json(body)` -/
def decodeJson (body : Bytes) : Except Failure (Option JsonObject) :=
  if body.all isByteSpace then .ok none
  else do
    match ← run.loads body with
    | some (.obj document) => return some document
    | _ => return none

/-- The part of `_authorize` behind the body: what is wrong with a call, if anything. -/
def checkPayload (token : ScopedToken) (body : Bytes) : Except Failure (Option (Text × Text)) := do
  match ← decodeJson run body with
  | none => return none
  | some payload =>
    match requiredCapability payload with
    | none => return none
    | some capability =>
      let (solutionId, projectIds) := callScope run payload
      if ∃ id ∈ solutionId, id ∉ token.solutionIds then
        return some ("FORBIDDEN", "the bearer token is not scoped to this solution")
      else if ∃ ids ∈ token.projectIds, ∃ id ∈ projectIds, id ∉ ids then
        return some ("FORBIDDEN", "the bearer token is not scoped to this project")
      else if capability ∉ token.capabilities then
        return some ("FORBIDDEN", "the bearer token lacks the required capability")
      else return none

/-- The methods whose body is read. -/
def bodyMethods : List Text := ["POST", "PUT", "PATCH"]

/-- `str(scope.get("method") or "GET").upper()` -/
def Scope.verb (scope : Scope) : Text :=
  run.upper (match scope.method with
    | none => "GET"
    | some method => if method = [] then "GET" else method)

variable (middleware : Middleware run.chars) (scope : Scope) (stream : Stream)

/-- `self._is_protected(path)` -/
def isProtected (path : Text) : Bool :=
  decide (path = middleware.protectedPath) ||
    Text.startsWith path (middleware.protectedPath.rdropWhile (· = codePoint '/') ++ ("/" : Text))

/-- `self._check_host_origin(headers)` -/
def checkHostOrigin : Option (Text × Text) :=
  if hostAllowed run.chars ((header? scope.headers "host").getD []) middleware.policy.allowedHosts = false then
    some ("FORBIDDEN", "the Host header is not on the transport allowlist")
  else if originAllowed run.chars (header? scope.headers "origin") middleware.policy.allowedOrigins = false then
    some ("FORBIDDEN", "the Origin header is not on the transport allowlist")
  else none

/-- The token of a request. -/
def presentedToken : Except Failure ScopedToken := do
  let presented ← parseAuthorization run scope.headers
  middleware.authenticator.authenticate run.digest presented

/-- `self._authorize(scope, headers, receive)`, and what the middleware does with its answer. -/
def authorize : Handled :=
  match presentedToken run middleware scope with
  | .error (.security code message) => .refused code message
  | .error failure => .raised failure
  | .ok token =>
    if scope.verb run ∉ bodyMethods then .forwarded ⟨[], stream⟩
    else
      match bufferBody middleware.maxBodyBytes stream with
      | (none, _) => .refused "VALIDATION_ERROR" "request body exceeds the configured bound"
      | (some body, replay) =>
        match checkPayload run token body with
        | .error failure => .raised failure
        | .ok (some (code, message)) => .refused code message
        | .ok none => .forwarded replay

/-- `middleware(scope, receive, send)` -/
def handle : Handled :=
  if scope.type ≠ ("http" : Text) then .forwarded ⟨[], stream⟩
  else
    match checkHostOrigin run middleware scope with
    | some (code, message) => .refused code message
    | none =>
      if isProtected run middleware (scope.path.getD []) = true then authorize run middleware scope stream
      else .forwarded ⟨[], stream⟩

/-- A request whose body the middleware reads. -/
def buffers : Bool :=
  decide (scope.type = ("http" : Text)) && isProtected run middleware (scope.path.getD []) &&
    decide (scope.verb run ∈ bodyMethods)

end Code

/-! ### Streams -/

/-- How many bytes a stream delivers. -/
def Stream.total : Stream → ℕ
  | .disconnected => 0
  | .last body _ => (body.getD []).length
  | .chunk body rest => (body.getD []).length + rest.total

/-- The chunks a stream delivers. -/
def Stream.chunks : Stream → List Bytes
  | .disconnected => []
  | .last body _ => [body.getD []]
  | .chunk body rest => body.getD [] :: rest.chunks

/-- A body that is cut off by a disconnect. -/
def Stream.cutOff : Stream → Bool
  | .disconnected => true
  | .last _ _ => false
  | .chunk _ rest => rest.cutOff

/-- What a message says: a chunk and whether more follow. -/
def Message.seen : Message → Option (Bytes × Bool)
  | .request body moreBody => some (body.getD [], moreBody.getD false)
  | .disconnect => none

/-- The application receives the chunks that were sent, in order, and the same end. -/
def SameMessages (channel : Channel) (stream : Stream) : Prop :=
  ∀ count, (channel.received count).map Message.seen =
    ((Channel.mk [] stream).received count).map Message.seen

/-- Some message ends the body. -/
def EndsBody (channel : Channel) : Prop :=
  ∃ count, ∃ message ∈ channel.received count, ∃ body, message.seen = some (body, false)

/-- A replay is transparent: the messages are the same, and a body that was cut off does not look complete. -/
def Transparent (channel : Channel) (stream : Stream) : Prop :=
  SameMessages channel stream ∧ (stream.cutOff = true → ¬ EndsBody channel)

section Streams

variable {limit : ℕ} {stream : Stream} {chunks : List Bytes} {total : ℕ}

/-- Within the limit the loop reads all chunks. -/
theorem bufferFrom_ok (within : total + stream.total ≤ limit) :
    bufferFrom limit chunks total stream =
      (some (chunks ++ stream.chunks).flatten, ⟨chunks ++ stream.chunks, .disconnected⟩) := by
  induction stream generalizing chunks total with
  | disconnected => rw [bufferFrom, Stream.chunks, List.append_nil]
  | last body flagged =>
    rw [Stream.total] at within
    rw [bufferFrom, if_neg (not_lt.mpr within), Stream.chunks]
  | chunk body rest ih =>
    rw [Stream.total, ← Nat.add_assoc] at within
    have room : ¬ limit < total + (body.getD []).length :=
      not_lt.mpr ((Nat.le_add_right _ _).trans within)
    rw [bufferFrom, if_neg room, ih within, Stream.chunks, List.append_assoc, List.singleton_append]

theorem bufferBody_ok (within : stream.total ≤ limit) :
    bufferBody limit stream = (some stream.chunks.flatten, ⟨stream.chunks, .disconnected⟩) := by
  refine bufferFrom_ok ?_
  rwa [Nat.zero_add]

/-- A body that ends has a chunk. -/
theorem chunks_ne_nil (ends : stream.cutOff = false) : stream.chunks ≠ [] := by
  cases stream with
  | disconnected => cases ends
  | last body flagged => exact List.cons_ne_nil _ _
  | chunk body rest => exact List.cons_ne_nil _ _

/-- The chunks of a body that ends are replayed as they came. -/
theorem received_replay (ends : stream.cutOff = false) :
    SameMessages ⟨stream.chunks, .disconnected⟩ stream := by
  intro count
  induction stream generalizing count with
  | disconnected => cases ends
  | last body flagged =>
    cases count with
    | zero => rfl
    | succ count => cases flagged <;> rfl
  | chunk body rest ih =>
    cases count with
    | zero => rfl
    | succ count =>
      have ends : rest.cutOff = false := ends
      have more : (!rest.chunks.isEmpty) = true := by
        rw [List.isEmpty_eq_false_iff.mpr (chunks_ne_nil ends)]
        rfl
      have here : (Channel.mk (body.getD [] :: rest.chunks) .disconnected).received (count + 1) =
          .request (some (body.getD [])) (some !rest.chunks.isEmpty) ::
            (Channel.mk rest.chunks .disconnected).received count := rfl
      have there : (Channel.mk [] (.chunk body rest)).received (count + 1) =
          .request body (some true) :: (Channel.mk [] rest).received count := rfl
      rw [Stream.chunks, here, there, more, List.map_cons, List.map_cons, ih ends count]
      rfl

/-- What is sent of a body that is cut off never ends it. -/
theorem cutOff_open (cut : stream.cutOff = true) : ¬ EndsBody ⟨[], stream⟩ := by
  rintro ⟨count, message, member, body, ended⟩
  induction count generalizing stream with
  | zero => exact List.not_mem_nil member
  | succ count ih =>
    cases stream with
    | disconnected =>
      rcases List.mem_cons.mp member with rfl | later
      · cases ended
      · exact ih cut later
    | last body flagged => cases cut
    | chunk body rest =>
      have cut : rest.cutOff = true := cut
      rcases List.mem_cons.mp member with rfl | later
      · cases ended
      · exact ih cut later

/-- The last chunk that is replayed ends the body. -/
theorem replay_ends (given : chunks ≠ []) (rest : Stream) : EndsBody ⟨chunks, rest⟩ := by
  induction chunks with
  | nil => exact (given rfl).elim
  | cons body more ih =>
    by_cases empty : more = []
    · subst empty
      exact ⟨1, _, List.mem_cons_self, body, rfl⟩
    · obtain ⟨count, message, member, last, ended⟩ := ih empty
      exact ⟨count + 1, message, List.mem_cons_of_mem _ member, last, ended⟩

/-- A replayed body is transparent exactly if it was not cut off behind a chunk. -/
theorem transparent_replay_iff : Transparent ⟨stream.chunks, .disconnected⟩ stream ↔
    ¬ (stream.cutOff = true ∧ stream.chunks ≠ []) := by
  constructor
  · rintro ⟨_, unfinished⟩ ⟨cut, given⟩
    exact unfinished cut (replay_ends given _)
  · intro whole
    by_cases cut : stream.cutOff = true
    · cases stream with
      | disconnected => exact ⟨fun count => rfl, cutOff_open⟩
      | last body flagged => cases cut
      | chunk body rest => exact (whole ⟨cut, List.cons_ne_nil _ _⟩).elim
    · exact ⟨received_replay (Bool.eq_false_iff.mpr cut), fun again => (cut again).elim⟩

theorem transparent_unread : Transparent ⟨[], stream⟩ stream := ⟨fun _ => rfl, cutOff_open⟩

end Streams

/-! ### Requests -/

section Requests

variable {run : Runtime} {middleware : Middleware run.chars} {scope : Scope} {stream : Stream} {channel : Channel}

/-- Within the limit an application gets the chunks of a body that was read, and else the channel itself. -/
theorem handle_forwarded (within : stream.total ≤ middleware.maxBodyBytes)
    (called : handle run middleware scope stream = .forwarded channel) :
    channel = if buffers run middleware scope = true then ⟨stream.chunks, .disconnected⟩ else ⟨[], stream⟩ := by
  unfold handle at called
  unfold buffers
  by_cases http : scope.type = ("http" : Text)
  · rw [if_neg (not_not.mpr http)] at called
    split at called
    · cases called
    · split at called
      · next guarded =>
        unfold authorize at called
        split at called
        · cases called
        · cases called
        · split at called
          · next unread =>
            rw [decide_eq_false unread, Bool.and_false, if_neg Bool.false_ne_true]
            exact (Handled.forwarded.inj called).symm
          · next read =>
            rw [bufferBody_ok within] at called
            dsimp only at called
            rw [decide_eq_true http, guarded, decide_eq_true (not_not.mp read)]
            split at called
            · cases called
            · cases called
            · exact (Handled.forwarded.inj called).symm
      · next unguarded =>
        rw [Bool.eq_false_iff.mpr unguarded, Bool.and_false, Bool.false_and, if_neg Bool.false_ne_true]
        exact (Handled.forwarded.inj called).symm
  · rw [if_pos http] at called
    rw [decide_eq_false http, Bool.false_and, Bool.false_and, if_neg Bool.false_ne_true]
    exact (Handled.forwarded.inj called).symm

end Requests

/-- **The application behind the middleware receives what was sent, and no body that was cut off as a complete one,
unless a request whose body is read is cut off behind a chunk.** -/
theorem replay_transparent_iff (run : Runtime) (middleware : Middleware run.chars) (scope : Scope)
    (stream : Stream) (channel : Channel) (within : stream.total ≤ middleware.maxBodyBytes)
    (called : handle run middleware scope stream = .forwarded channel) :
    Transparent channel stream ↔
      ¬ (buffers run middleware scope = true ∧ stream.cutOff = true ∧ stream.chunks ≠ []) := by
  rw [handle_forwarded within called]
  by_cases read : buffers run middleware scope = true
  · rw [if_pos read, transparent_replay_iff]
    exact not_congr ⟨fun both => ⟨read, both⟩, And.right⟩
  · rw [if_neg read]
    exact iff_of_true transparent_unread fun all => read all.1

/-! ### A body cut off -/

/-- An interpreter that hashes one secret and finds no document in a lone brace. -/
def oneSecret : Runtime where
  py := .ascii
  chars := .ascii
  upper text := text.map fun c => if 0x61 ≤ c.val ∧ c.val ≤ 0x7a then Fin.ofNat 0x110000 (c.val - 0x20) else c
  digest _ := "2bb80d537b1da3e38bd30361aa855686bde0eacd7162fef6a25fe97bd527a25b"
  loads _ := .ok none

/-- A principal that may read one solution. -/
def reader : ScopedToken where
  tokenId := "t1"
  audience := mcpAudience
  capabilities := {capabilityRead}
  solutionIds := {("s1" : Text)}
  projectIds := none
  tokenId_present := by decide
  audience_present := mcpAudience_present
  capable := by decide
  capabilities_known := by decide
  solutionIds_given := by decide
  solutionIds_present := by decide
  projectIds_present := by decide

/-- A middleware that knows the secret. -/
def oneReader : Middleware oneSecret.chars where
  policy := loopbackPolicy
  authenticator :=
    { expectedAudience := mcpAudience
      tokenIdsByDigest := Dict.empty.set (oneSecret.digest []) "t1"
      tokensById := Dict.empty.set "t1" reader }
  protectedPath := "/mcp"
  maxBodyBytes := 262144
  maxBodyBytes_pos := by decide

/-- A tool call with the secret. -/
def toolCall : Scope where
  type := "http"
  path := some "/mcp"
  method := some "POST"
  headers := [("host", "[::1]"), ("authorization", "Bearer secret")]

/-- A lone brace, and then a disconnect. -/
def halfBody : Stream := .chunk (some [0x7b]) .disconnected

theorem halfBody_forwarded :
    handle oneSecret oneReader toolCall halfBody = .forwarded ⟨[[0x7b]], .disconnected⟩ := by
  decide +kernel

theorem replay_transparent_half : Transparent ⟨[[0x7b]], .disconnected⟩ halfBody ↔
    ¬ (buffers oneSecret oneReader toolCall = true ∧ halfBody.cutOff = true ∧ halfBody.chunks ≠ []) :=
  replay_transparent_iff oneSecret oneReader toolCall halfBody _ (by decide) halfBody_forwarded

/-- Half a body is replayed as a complete one. -/
theorem half_body_completed : ∃ channel, handle oneSecret oneReader toolCall halfBody = .forwarded channel ∧
    halfBody.total ≤ oneReader.maxBodyBytes ∧ ¬ Transparent channel halfBody := by
  refine ⟨_, halfBody_forwarded, by decide, ?_⟩
  rintro ⟨_, unfinished⟩
  exact unfinished rfl (replay_ends (List.cons_ne_nil _ _) _)

end AxiomMcp.Security
