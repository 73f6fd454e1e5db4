/-
**Where the transport listens (`http.py`, `is_loopback_host` and `HttpTransportSettings`).**

Settings that are not acknowledged bind the loopback interface only: that is `isLoopbackHost`, a test of the text
of a host. `Loopback` says of a host what the test stands for.

* `settings_host`: what is accepted without acknowledgement passes the test, and `httpArguments_host`: a planner
  renders no other host;
* `settings_loopback_iff` — **a host is bound only if it is a loopback one, unless it begins with `127.` and is no
  address**.
-/

import AxiomMcp.Lib.JsonRound
import AxiomMcp.Security.Origins

namespace AxiomMcp.Security

open AxiomMcp.Lib

/-- A transport configuration failure with a stable code. -/
structure HttpTransportError where
  code : Text
  detail : Text
  deriving DecidableEq

/-- The constant `LOOPBACK_BIND_HOSTS`. -/
def loopbackBindHosts : List Text := ["127.0.0.1", "::1", "localhost"]

/-- The constants `MCP_ENDPOINT_PATH`, `HEALTH_PATH` and `READY_PATH`. -/
def mcpEndpointPath : Text := "/mcp"

def healthPath : Text := "/healthz"

def readyPath : Text := "/readyz"

/-- The constants `DEFAULT_HOST` and `DEFAULT_PORT`. -/
def defaultHost : Text := "127.0.0.1"

def defaultPort : ℤ := 8765

section Code

variable (py : Interpreter) (chars : Characters)

/-- The host `is_loopback_host` looks at: trimmed, in lower case, without one pair of brackets. -/
def bareHost (host : Text) : Text :=
  let candidate := trimLower chars host
  if Text.startsWith candidate "[" && Text.endsWith candidate "]" then (candidate.drop 1).dropLast else candidate

/-- `is_loopback_host(host)` -/
def isLoopbackHost (host : Text) : Bool :=
  if bareHost chars host ∈ loopbackBindHosts then true
  else Text.startsWith (bareHost chars host) "127."

/-- `_PATH_PATTERN.fullmatch(value)` -/
def isTransportPath (value : Text) : Bool :=
  match value with
  | [] => false
  | slash :: rest =>
    slash == codePoint '/' && decide (rest ≠ []) && rest.all fun c =>
      Text.isLetterAscii c || Text.isDigitAscii c || decide (c ∈ ("._~-" : Text))

/-- The first of the three paths that is none, with the name of its field. -/
def invalidPath (path health ready : Text) : Option (Text × Text) :=
  [(("path" : Text), path), ("health_path", health), ("ready_path", ready)].find? fun named =>
    !isTransportPath named.2

/-- `HttpTransportSettings`: the checks of `__post_init__` are its fields. -/
structure HttpTransportSettings where
  host : Text
  port : ℤ
  path : Text
  health : Text
  ready : Text
  allowNonLoopbackBind : Bool
  host_given : host.strip ≠ []
  port_range : 0 ≤ port ∧ port ≤ 65535
  paths_formed : invalidPath path health ready = none
  paths_distinct : [path, health, ready].Nodup
  bind : isLoopbackHost chars host = true ∨ allowNonLoopbackBind = true

/-- `HttpTransportSettings(host=..., port=..., ...)` -/
def HttpTransportSettings.make (host : Text) (port : Json) (path health ready : Text)
    (allowNonLoopbackBind : Bool) : Except HttpTransportError (HttpTransportSettings chars) :=
  if host_given : host.strip = [] then .error ⟨"bind_host_empty", []⟩
  else
    match port with
    | .int port =>
      if port_range : 0 ≤ port ∧ port ≤ 65535 then
        if formed : invalidPath path health ready = none then
          if distinct : [path, health, ready].Nodup then
            if bind : isLoopbackHost chars host = true ∨ allowNonLoopbackBind = true then
              .ok ⟨host, port, path, health, ready, allowNonLoopbackBind, host_given, port_range, formed,
                distinct, bind⟩
            else .error ⟨"non_loopback_bind_refused", host⟩
          else .error ⟨"transport_path_conflict", []⟩
        else .error ⟨"transport_path_invalid", ((invalidPath path health ready).map fun named =>
          Text.format [named.1, ":", named.2]).getD []⟩
      else .error ⟨"bind_port_out_of_range", Text.ofInt port⟩
    | other => .error ⟨"bind_port_not_an_integer", other.pyRepr py⟩

/-- `settings.loopback_only` -/
def HttpTransportSettings.loopbackOnly (settings : HttpTransportSettings chars) : Bool :=
  isLoopbackHost chars settings.host

/-! ### The planner of an entry point -/

/-- The request was refused before producing a plan. -/
structure EntrypointRefused where
  code : Text
  detail : Text
  deriving DecidableEq

/-- The constant `DETAIL_LIMIT`. -/
def detailLimit : ℕ := 300

/-- `_bind_host_header(host, port)` -/
def bindHostHeader (host : Text) (port : ℤ) : Text :=
  if Text.contains host ":" then Text.format ["[", host, "]:", Text.ofInt port]
  else Text.format [host, ":", Text.ofInt port]

/-- The command line that binds some settings. -/
def renderArguments (name : Text) (settings : HttpTransportSettings chars)
    (hosts origins : List Text) : List Text :=
  [("-m" : Text), "axiom_mcp.http", "--name", name, "--host", settings.host, "--port", Text.ofInt settings.port] ++
    (if settings.allowNonLoopbackBind then [("--allow-non-loopback-bind" : Text)] else []) ++
    hosts.flatMap (fun entry => [("--allow-host" : Text), entry]) ++
    origins.flatMap fun entry => [("--allow-origin" : Text), entry]

/-- `http_arguments(name=..., host=..., ...)`, the texts of its lists as `str` makes them. -/
def httpArguments (name : Text) (host : Option Text) (port : Option Json) (allowHosts allowOrigins : List Text)
    (allowNonLoopbackBind : Bool) : Except EntrypointRefused (List Text) := do
  let settings ← (HttpTransportSettings.make py chars (host.getD defaultHost) (port.getD (.int defaultPort))
    mcpEndpointPath healthPath readyPath allowNonLoopbackBind).mapError fun raised =>
      EntrypointRefused.mk raised.code raised.detail
  let hosts := (allowHosts.map Text.strip).filter fun entry => entry ≠ []
  let origins := (allowOrigins.map Text.strip).filter fun entry => entry ≠ []
  let bindHost := bindHostHeader settings.host settings.port
  let bindOrigin := Text.format ["http://", bindHost]
  if hosts = [] ∨ origins = [] then
    .error ⟨"transport_allowlist_required", Text.format [settings.host, ":", Text.ofInt settings.port]⟩
  else
    match (hosts ++ origins).find? hasWildcard with
    | some entry => .error ⟨"wildcard_allowlist_refused", entry.take detailLimit⟩
    | none =>
      if hostAllowed chars bindHost hosts = false then .error ⟨"bind_host_not_allowed", bindHost⟩
      else if originAllowed chars (some bindOrigin) origins = false then
        .error ⟨"bind_origin_not_allowed", bindOrigin⟩
      else return renderArguments chars name settings hosts origins

end Code

/-! ### What a loopback host is -/

/-- An address of 127.0.0.0/8, in dotted form. -/
def loopbackAddress (b c d : Fin 256) : Text :=
  Text.format ["127.", Text.ofNat b, ".", Text.ofNat c, ".", Text.ofNat d]

/-- A host that names the loopback interface. -/
def Loopback (host : Text) : Prop :=
  host = ("localhost" : Text) ∨ host = ("::1" : Text) ∨ ∃ b c d, host = loopbackAddress b c d

section Bound

variable {py : Interpreter} {chars : Characters} {host : Text}

/-- What is accepted is what was asked for. -/
theorem make_fields {port : Json} {path health ready : Text} {allow : Bool}
    {settings : HttpTransportSettings chars}
    (accepted : HttpTransportSettings.make py chars host port path health ready allow = .ok settings) :
    settings.host = host ∧ settings.allowNonLoopbackBind = allow := by
  unfold HttpTransportSettings.make at accepted
  split at accepted
  · cases accepted
  · split at accepted
    · split at accepted
      · split at accepted
        · split at accepted
          · split at accepted
            · cases accepted
              exact ⟨rfl, rfl⟩
            · cases accepted
          · cases accepted
        · cases accepted
      · cases accepted
    · cases accepted

/-- Without acknowledgement only a host that passes the test is accepted. -/
theorem settings_host {port : Json} {path health ready : Text} {settings : HttpTransportSettings chars}
    (accepted : HttpTransportSettings.make py chars host port path health ready false = .ok settings) :
    isLoopbackHost chars host = true := by
  obtain ⟨rfl, unacknowledged⟩ := make_fields accepted
  refine settings.bind.resolve_right fun acknowledged => ?_
  rw [unacknowledged] at acknowledged
  cases acknowledged

/-- **A planner renders a command line of a host that passes the test**, unless another is acknowledged. -/
theorem httpArguments_host {name : Text} {asked : Option Text} {port : Option Json}
    {allowHosts allowOrigins arguments : List Text}
    (planned : httpArguments py chars name asked port allowHosts allowOrigins false = .ok arguments) :
    isLoopbackHost chars (asked.getD defaultHost) = true ∧
      ∃ port rest, arguments =
        [("-m" : Text), "axiom_mcp.http", "--name", name, "--host", asked.getD defaultHost, "--port",
        Text.ofInt port] ++ rest := by
  obtain ⟨settings, accepted, planned⟩ := bind_eq_ok.mp planned
  have made := mapError_eq_ok.mp accepted
  have host : settings.host = asked.getD defaultHost := (make_fields made).1
  refine ⟨settings_host made, ?_⟩
  dsimp only at planned
  split at planned
  · cases planned
  split at planned
  · cases planned
  split at planned
  · cases planned
  split at planned
  · cases planned
  obtain rfl := Except.ok.inj planned
  unfold renderArguments
  rw [host, List.append_assoc, List.append_assoc]
  exact ⟨_, _, rfl⟩

/-- With the defaults for the rest, every host that passes the test is accepted. -/
theorem settings_accepted (py : Interpreter) (given : host.strip ≠ []) (passes : isLoopbackHost chars host = true) :
    ∃ settings, HttpTransportSettings.make py chars host (.int defaultPort) mcpEndpointPath healthPath readyPath
      false = .ok settings := by
  have range : 0 ≤ defaultPort ∧ defaultPort ≤ 65535 := by decide
  have formed : invalidPath mcpEndpointPath healthPath readyPath = none := by decide +kernel
  have distinct : [mcpEndpointPath, healthPath, readyPath].Nodup := by decide
  refine ⟨⟨host, defaultPort, mcpEndpointPath, healthPath, readyPath, false, given, range, formed, distinct,
    Or.inl passes⟩, ?_⟩
  rw [HttpTransportSettings.make, dif_neg given]
  dsimp only
  rw [dif_pos range, dif_pos formed, dif_pos distinct, dif_pos (Or.inl passes)]

end Bound

/-- **Without acknowledgement a host is bound only if it names the loopback interface, as long as one that begins
with `127.` is an address.** -/
theorem settings_loopback_iff (py : Interpreter) (chars : Characters) (host : Text) :
    (∀ port path health ready settings,
      HttpTransportSettings.make py chars host port path health ready false = .ok settings →
        Loopback (bareHost chars host)) ↔
      (Text.startsWith (bareHost chars host) "127." = true →
        ∃ b c d, bareHost chars host = loopbackAddress b c d) := by
  constructor
  · intro bound starts
    have given : host.strip ≠ [] := by
      intro empty
      have nothing : bareHost chars host = [] := by
        rw [bareHost, trimLower, empty, chars.lower_nil]
        rfl
      rw [nothing] at starts
      exact absurd starts (by decide)
    have passes : isLoopbackHost chars host = true := by
      unfold isLoopbackHost
      split
      · rfl
      · exact starts
    obtain ⟨settings, accepted⟩ := settings_accepted py given passes
    rcases bound _ _ _ _ settings accepted with name | address | dotted
    · rw [name] at starts
      exact absurd starts (by decide)
    · rw [address] at starts
      exact absurd starts (by decide)
    · exact dotted
  · intro addressed port path health ready settings accepted
    have passes := settings_host accepted
    unfold isLoopbackHost at passes
    split at passes
    · next listed =>
      rcases List.mem_cons.mp listed with first | listed
      · exact Or.inr (Or.inr (addressed (by rw [first]; decide)))
      · rcases List.mem_cons.mp listed with second | listed
        · exact Or.inr (Or.inl second)
        · exact Or.inl (List.mem_singleton.mp listed)
    · exact Or.inr (Or.inr (addressed passes))

/-- The name `127.evil.example` is bound. -/
theorem loopback_name_bound :
    (∃ settings, HttpTransportSettings.make .ascii .ascii "127.evil.example" (.int 8765) "/mcp" "/healthz" "/readyz"
      false = .ok settings) ∧ ¬ Loopback (bareHost .ascii "127.evil.example") := by
  have bare : bareHost .ascii "127.evil.example" = "127.evil.example" := by decide +kernel
  refine ⟨settings_accepted .ascii (by decide +kernel) (by decide +kernel), ?_⟩
  rw [bare]
  rintro (name | address | ⟨b, c, d, dotted⟩)
  · exact absurd name (by decide +kernel)
  · exact absurd address (by decide +kernel)
  · have letter : codePoint 'e' ∈ ("127.evil.example" : Text) := by decide
    have digits : ∀ n, codePoint 'e' ∉ Text.ofNat n := by
      intro n member
      exact absurd (Text.ofNat_digits _ member) (by decide)
    rw [dotted, loopbackAddress, Text.format] at letter
    simp only [List.flatten_cons, List.flatten_nil, List.append_nil, List.mem_append, digits, or_false,
      false_or] at letter
    exact absurd letter (by decide)

end AxiomMcp.Security
