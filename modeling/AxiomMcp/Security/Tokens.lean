/-
**Bearer tokens and their registry (`security.py`, `ScopedToken` to `TokenRegistry`).**

A `ScopedToken` is a principal: the checks of `__post_init__` are its fields. The registry keeps two
tables, from the digest of a secret to a token id and from a token id to its scope.

* `TokenReference.resolve` reads a secret out of the environment or a credential file;
* `TokenRegistry.register` and `TokenRegistry.authenticate` as the source has them;
* `Tables` says what both tables hold after the registrations a registry has accepted, and
  `tables_register` that one call keeps it, **accepting exactly a fresh usable secret of its audience**;
* `authenticate_of_tables`: a secret opens the scope **last registered under its token id**.
-/

import AxiomMcp.Lib.Dict
import AxiomMcp.Lib.Fallible
import AxiomMcp.Lib.Utf8
import Mathlib.Data.Finset.Basic
import Mathlib.Data.List.DropRight

namespace AxiomMcp.Security

open Lib

/-! ### Capabilities and failures -/

/-- The constant `MCP_AUDIENCE`. -/
def mcpAudience : Text := "axiom-mcp"

theorem mcpAudience_present : mcpAudience.strip ≠ [] := by decide

/-- The constant `CAPABILITY_READ`. -/
def capabilityRead : Text := "read"

/-- The constant `CAPABILITY_RECONCILE`. -/
def capabilityReconcile : Text := "reconcile"

/-- The constant `CAPABILITY_CHECKPOINT`. -/
def capabilityCheckpoint : Text := "checkpoint"

/-- The constant `KNOWN_CAPABILITIES`. -/
def knownCapabilities : Finset Text := {capabilityRead, capabilityReconcile, capabilityCheckpoint}

/-- What a call of this module raises. -/
inductive Failure
  /-- A `SecurityError`. -/
  | security (code message : Text)
  | typeError
  /-- A `ValueError`: text that UTF-8 cannot hold, bytes that are not UTF-8, a path no system takes. -/
  | valueError
  | attributeError
  | keyError
  | recursion
  deriving DecidableEq

/-! ### `ScopedToken` -/

/-- One authenticated principal, scoped to solutions and capabilities. -/
structure ScopedToken where
  tokenId : Text
  audience : Text
  capabilities : Finset Text
  solutionIds : Finset Text
  projectIds : Option (Finset Text)
  tokenId_present : tokenId.strip ≠ []
  audience_present : audience.strip ≠ []
  capable : capabilities ≠ ∅
  capabilities_known : capabilities ⊆ knownCapabilities
  solutionIds_given : solutionIds ≠ ∅
  solutionIds_present : ∀ solutionId ∈ solutionIds, solutionId.strip ≠ []
  projectIds_present : ∀ ids ∈ projectIds, ∀ projectId ∈ ids, projectId.strip ≠ []
  deriving DecidableEq

/-- `token.allows(capability, solution_id=solution_id, project_id=project_id)` -/
def ScopedToken.allows (token : ScopedToken) (capability : Text) (solutionId projectId : Option Text) :
    Bool :=
  if capability ∉ token.capabilities then false
  else if ∃ id ∈ solutionId, id ∉ token.solutionIds then false
  else
    match projectId, token.projectIds with
    | some id, some ids => decide (id ∈ ids)
    | _, _ => true

/-! ### References to a secret -/

/-- Where secrets are kept, at one moment: `environ.get(name)`, and the bytes of a file, with nothing
where opening it raises an `OSError`. -/
structure Credentials where
  environ : Text → Except Failure (Option Text)
  file : Text → Except Failure (Option Bytes)

/-- A `TokenReference`. -/
inductive TokenReference
  | env (name : Text) (present : name.strip ≠ [])
  | file (path : Text) (present : path.strip ≠ [])
  deriving DecidableEq

/-- Where `str.splitlines` ends a line. -/
def isLineBreak (c : CodePoint) : Bool :=
  (0x0a ≤ c.val && c.val ≤ 0x0d) || (0x1c ≤ c.val && c.val ≤ 0x1e) || c.val == 0x85 ||
    c.val == 0x2028 || c.val == 0x2029

/-- `lines[0] if lines else ""`, of `lines = text.splitlines()`. -/
def firstLine (text : Text) : Text := text.takeWhile fun c => !isLineBreak c

/-- `text.strip() or None` -/
def stripped? (text : Text) : Option Text := if text.strip = [] then none else some text.strip

/-- `reference.resolve(env)` -/
def TokenReference.resolve (credentials : Credentials) :
    TokenReference → Except Failure (Option Text)
  | .env name _ => do
    match ← credentials.environ name with
    | none => return none
    | some value => return stripped? value
  | .file path _ => do
    match ← credentials.file path with
    | none => return none
    | some bytes =>
      match Utf8.decode bytes with
      | .error _ => .error .valueError
      | .ok text => return stripped? (firstLine text)

/-! ### `TokenRegistry` -/

/-- A `TokenRegistry`. -/
structure TokenRegistry where
  expectedAudience : Text
  tokenIdsByDigest : Dict Text Text
  tokensById : Dict Text ScopedToken

/-- `TokenRegistry(expected_audience=audience)`, of an audience that is not blank. -/
def TokenRegistry.new (audience : Text) : TokenRegistry := ⟨audience, Dict.empty, Dict.empty⟩

/-- One call of `register`, with the secrets as they are when it is made. -/
structure RegisterCall where
  reference : TokenReference
  scope : ScopedToken
  credentials : Credentials

section Registry

variable (digest : Bytes → Text)

/-- `_digest(value)`, with SHA-256 in hexadecimal for `digest`. -/
def digestOf (value : Text) : Except Failure Text :=
  match Utf8.encode value with
  | none => .error .valueError
  | some bytes => .ok (digest bytes)

/-- The key of a call's secret, where `register` gets as far as storing it. -/
def TokenRegistry.admit (registry : TokenRegistry) (call : RegisterCall) : Except Failure Text :=
  if call.scope.audience ≠ registry.expectedAudience then
    .error (.security "VALIDATION_ERROR" "registered token audience does not match the registry audience")
  else do
    match ← call.reference.resolve call.credentials with
    | none => .error (.security "UNAUTHENTICATED" "token reference did not resolve to a value")
    | some value =>
      let key ← digestOf digest value
      if registry.tokenIdsByDigest.has key then
        .error (.security "VALIDATION_ERROR" "token reference is already registered")
      else
        .ok key

/-- `registry.register(reference, scope, env=env)`: what it answers and the registry it leaves. -/
def TokenRegistry.register (registry : TokenRegistry) (call : RegisterCall) :
    Except Failure Text × TokenRegistry :=
  match registry.admit digest call with
  | .error failure => (.error failure, registry)
  | .ok key =>
    (.ok call.scope.tokenId,
      { registry with
        tokenIdsByDigest := registry.tokenIdsByDigest.set key call.scope.tokenId
        tokensById := registry.tokensById.set call.scope.tokenId call.scope })

/-- `registry.authenticate(presented)` -/
def TokenRegistry.authenticate (registry : TokenRegistry) (presented : Option Text) :
    Except Failure ScopedToken :=
  match presented.bind stripped? with
  | none => .error (.security "UNAUTHENTICATED" "a bearer token is required")
  | some value => do
    match registry.tokenIdsByDigest.get? (← digestOf digest value) with
    | none => .error (.security "UNAUTHENTICATED" "the presented bearer token is not recognised")
    | some tokenId =>
      match registry.tokensById.get? tokenId with
      | none => .error .keyError
      | some scope => .ok scope

/-- The registry after a sequence of calls. -/
def TokenRegistry.registerAll (registry : TokenRegistry) (calls : List RegisterCall) : TokenRegistry :=
  calls.foldl (fun registry call => (registry.register digest call).2) registry

end Registry

/-! ### What a sequence of calls registers -/

/-- The secret a call brings, where it can be hashed. -/
def RegisterCall.secret? (call : RegisterCall) : Option Text :=
  match call.reference.resolve call.credentials with
  | .ok (some value) => if (Utf8.encode value).isSome then some value else none
  | _ => none

/-- A secret and the scope it was registered with. -/
structure Registration where
  secret : Text
  scope : ScopedToken

/-- The registrations of a sequence of calls: those that `register` answers with a token id. -/
def accepted (digest : Bytes → Text) (registry : TokenRegistry) : List RegisterCall → List Registration
  | [] => []
  | call :: rest =>
    match registry.register digest call, call.secret? with
    | (.ok _, next), some secret => ⟨secret, call.scope⟩ :: accepted digest next rest
    | (_, next), _ => accepted digest next rest

/-- The last scope of these under a token id. -/
def lastScope (history : List Registration) (tokenId : Text) : Option ScopedToken :=
  (history.reverse.find? fun entry => entry.scope.tokenId == tokenId).map Registration.scope

/-- **Both tables of a registry, after these registrations.** -/
structure Tables (digest : Bytes → Text) (registry : TokenRegistry) (history : List Registration) :
    Prop where
  hashed : ∀ entry ∈ history, ∃ key, digestOf digest entry.secret = .ok key
  stripped : ∀ entry ∈ history, stripped? entry.secret = some entry.secret
  keyed : ∀ key tokenId, registry.tokenIdsByDigest.get? key = some tokenId ↔
    ∃ entry ∈ history, digestOf digest entry.secret = .ok key ∧ entry.scope.tokenId = tokenId
  named : ∀ tokenId, registry.tokensById.get? tokenId = lastScope history tokenId

/-! ### Secrets are stripped -/

theorem strip_strip (text : Text) : text.strip.strip = text.strip := by
  have front : text.strip.dropWhile Text.isSpace = text.strip := by
    rw [List.dropWhile_eq_self_iff]
    intro long
    have within : text.strip <+: text.dropWhile Text.isSpace := List.rdropWhile_prefix Text.isSpace _
    have longer : 0 < (text.dropWhile Text.isSpace).length := long.trans_le within.length_le
    rw [within.getElem long]
    exact List.dropWhile_get_zero_not _ _ longer
  rw [Text.strip, front]
  exact List.rdropWhile_idempotent Text.isSpace (text.dropWhile Text.isSpace)

theorem stripped?_eq_some {text value : Text} :
    stripped? text = some value ↔ text.strip = value ∧ value ≠ [] := by
  unfold stripped?
  constructor
  · split
    · exact fun absent => nomatch absent
    · next present =>
      rintro ⟨rfl⟩
      exact ⟨rfl, present⟩
  · rintro ⟨rfl, present⟩
    exact if_neg present

/-- What a strip leaves is stripped already. -/
theorem stripped?_again {text value : Text} (found : stripped? text = some value) :
    stripped? value = some value := by
  obtain ⟨rfl, present⟩ := stripped?_eq_some.mp found
  exact stripped?_eq_some.mpr ⟨strip_strip text, present⟩

theorem resolve_stripped {credentials : Credentials} {reference : TokenReference} {value : Text}
    (resolved : reference.resolve credentials = .ok (some value)) : stripped? value = some value := by
  cases reference with
  | env name present =>
    obtain ⟨held, read, after⟩ := bind_eq_ok.mp resolved
    cases held with
    | none => cases after
    | some text => exact stripped?_again (Except.ok.inj after)
  | file path present =>
    obtain ⟨held, read, after⟩ := bind_eq_ok.mp resolved
    cases held with
    | none => cases after
    | some bytes =>
      dsimp only at after
      split at after
      · cases after
      · exact stripped?_again (Except.ok.inj after)

theorem secret?_eq_some {call : RegisterCall} {secret : Text} :
    call.secret? = some secret ↔
      call.reference.resolve call.credentials = .ok (some secret) ∧
        (Utf8.encode secret).isSome = true := by
  unfold RegisterCall.secret?
  split
  · next value resolved =>
    rw [resolved]
    constructor
    · split
      · next encodable =>
        rintro ⟨rfl⟩
        exact ⟨rfl, encodable⟩
      · exact fun absent => nomatch absent
    · rintro ⟨same, encodable⟩
      cases same
      exact if_pos encodable
  · next other =>
    refine ⟨(fun absent => nomatch absent), fun both => ?_⟩
    exact (other secret both.1).elim

theorem digestOf_eq_ok {digest : Bytes → Text} {value key : Text} :
    digestOf digest value = .ok key ↔ ∃ bytes, Utf8.encode value = some bytes ∧ digest bytes = key := by
  unfold digestOf
  cases encoded : Utf8.encode value with
  | none =>
    refine ⟨(fun wrong => nomatch wrong), ?_⟩
    rintro ⟨_, wrong, _⟩
    cases wrong
  | some bytes =>
    constructor
    · intro same
      exact ⟨bytes, rfl, Except.ok.inj same⟩
    · rintro ⟨_, same, rfl⟩
      cases same
      rfl

/-! ### One call -/

section Step

variable {digest : Bytes → Text} {registry : TokenRegistry} {call : RegisterCall}

theorem admit_eq_ok {key : Text} :
    registry.admit digest call = .ok key ↔
      call.scope.audience = registry.expectedAudience ∧ ∃ secret, call.secret? = some secret ∧
        digestOf digest secret = .ok key ∧ key ∉ registry.tokenIdsByDigest.keys := by
  unfold TokenRegistry.admit
  constructor
  · split
    · exact fun wrong => nomatch wrong
    next audience =>
    intro admitted
    obtain ⟨found, resolved, admitted⟩ := bind_eq_ok.mp admitted
    cases found with
    | none => cases admitted
    | some secret =>
      obtain ⟨stored, hashed, admitted⟩ := bind_eq_ok.mp admitted
      split at admitted
      · cases admitted
      next fresh =>
      cases admitted
      obtain ⟨bytes, encoded, -⟩ := digestOf_eq_ok.mp hashed
      refine ⟨not_not.mp audience, secret, secret?_eq_some.mpr ⟨resolved, ?_⟩, hashed, ?_⟩
      · rw [encoded, Option.isSome_some]
      · rwa [Dict.has_iff] at fresh
  · rintro ⟨audience, secret, brought, hashed, fresh⟩
    rw [if_neg (not_not.mpr audience), (secret?_eq_some.mp brought).1, ok_bind]
    dsimp only
    rw [hashed, ok_bind]
    exact if_neg (Dict.has_iff.not.mpr fresh)

theorem register_of_ok {key : Text} (admitted : registry.admit digest call = .ok key) :
    registry.register digest call = (.ok call.scope.tokenId,
      { registry with
        tokenIdsByDigest := registry.tokenIdsByDigest.set key call.scope.tokenId
        tokensById := registry.tokensById.set call.scope.tokenId call.scope }) := by
  rw [TokenRegistry.register, admitted]

theorem register_of_error {failure : Failure} (refused : registry.admit digest call = .error failure) :
    registry.register digest call = (.error failure, registry) := by
  rw [TokenRegistry.register, refused]

/-- **A rejected registration changes nothing.** -/
theorem register_rejected {failure : Failure}
    (rejected : (registry.register digest call).1 = .error failure) :
    (registry.register digest call).2 = registry := by
  cases admitted : registry.admit digest call with
  | error other => rw [register_of_error admitted]
  | ok key =>
    rw [register_of_ok admitted] at rejected
    cases rejected

@[simp] theorem register_expectedAudience :
    (registry.register digest call).2.expectedAudience = registry.expectedAudience := by
  cases admitted : registry.admit digest call with
  | error failure => rw [register_of_error admitted]
  | ok key => rw [register_of_ok admitted]

theorem accepted_cons_of_ok {key secret : Text} (admitted : registry.admit digest call = .ok key)
    (brought : call.secret? = some secret) (rest : List RegisterCall) :
    accepted digest registry (call :: rest) =
      ⟨secret, call.scope⟩ :: accepted digest (registry.register digest call).2 rest := by
  rw [accepted, register_of_ok admitted, brought]

theorem accepted_cons_of_error {failure : Failure}
    (refused : registry.admit digest call = .error failure) (rest : List RegisterCall) :
    accepted digest registry (call :: rest) = accepted digest registry rest := by
  rw [accepted, register_of_error refused]

/-! ### The tables -/

variable {history : List Registration}

theorem lastScope_snoc (entry : Registration) (tokenId : Text) :
    lastScope (history ++ [entry]) tokenId =
      if entry.scope.tokenId = tokenId then some entry.scope else lastScope history tokenId := by
  unfold lastScope
  rw [List.reverse_append, List.reverse_singleton, List.singleton_append, List.find?_cons]
  by_cases same : entry.scope.tokenId = tokenId
  · rw [if_pos same, beq_iff_eq.mpr same]
    rfl
  · rw [if_neg same, beq_false_of_ne same]

theorem lastScope_of_mem {entry : Registration} (member : entry ∈ history) :
    ∃ other ∈ history, lastScope history entry.scope.tokenId = some other.scope ∧
      other.scope.tokenId = entry.scope.tokenId := by
  unfold lastScope
  cases found : history.reverse.find? fun other => other.scope.tokenId == entry.scope.tokenId with
  | none =>
    have differs := List.find?_eq_none.mp found entry (List.mem_reverse.mpr member)
    exact (differs (beq_self_eq_true _)).elim
  | some other =>
    have here := List.mem_reverse.mp (List.mem_of_find?_eq_some found)
    have passes := List.find?_some found
    exact ⟨other, here, rfl, beq_iff_eq.mp passes⟩

theorem tables_new (audience : Text) : Tables digest (TokenRegistry.new audience) [] where
  hashed _ member := nomatch member
  stripped _ member := nomatch member
  keyed key tokenId := by
    refine ⟨(fun found => nomatch found), ?_⟩
    rintro ⟨_, member, _⟩
    cases member
  named _ := rfl

/-- **One call that `register` answers adds its secret with its scope.** -/
theorem tables_register (tables : Tables digest registry history) {key secret : Text}
    (brought : call.secret? = some secret) (hashed : digestOf digest secret = .ok key)
    (fresh : key ∉ registry.tokenIdsByDigest.keys) (admitted : registry.admit digest call = .ok key) :
    Tables digest (registry.register digest call).2 (history ++ [⟨secret, call.scope⟩]) := by
  rw [register_of_ok admitted]
  constructor
  · intro entry member
    rcases List.mem_append.mp member with before | now
    · exact tables.hashed entry before
    · cases List.mem_singleton.mp now
      exact ⟨key, hashed⟩
  · intro entry member
    rcases List.mem_append.mp member with before | now
    · exact tables.stripped entry before
    · cases List.mem_singleton.mp now
      exact resolve_stripped (secret?_eq_some.mp brought).1
  · intro other tokenId
    rw [Dict.get?_set]
    by_cases same : other = key
    · subst same
      rw [if_pos rfl]
      constructor
      · rintro ⟨rfl⟩
        exact ⟨⟨secret, call.scope⟩, List.mem_append_right _ (List.mem_singleton.mpr rfl), hashed, rfl⟩
      · rintro ⟨entry, member, sameKey, rfl⟩
        rcases List.mem_append.mp member with before | now
        · have stored := (tables.keyed other _).mpr ⟨entry, before, sameKey, rfl⟩
          rw [Dict.get?_eq_none.mpr fresh] at stored
          cases stored
        · cases List.mem_singleton.mp now
          rfl
    · rw [if_neg same, tables.keyed]
      constructor
      · rintro ⟨entry, member, rest⟩
        exact ⟨entry, List.mem_append_left _ member, rest⟩
      · rintro ⟨entry, member, sameKey, sameId⟩
        rcases List.mem_append.mp member with before | now
        · exact ⟨entry, before, sameKey, sameId⟩
        · cases List.mem_singleton.mp now
          exact (same (Except.ok.inj (sameKey.symm.trans hashed))).elim
  · intro tokenId
    rw [Dict.get?_set, lastScope_snoc, tables.named]
    by_cases same : tokenId = call.scope.tokenId
    · rw [if_pos same, if_pos same.symm]
    · rw [if_neg same, if_neg (Ne.symm same)]

theorem tables_registerAll (tables : Tables digest registry history) (calls : List RegisterCall) :
    Tables digest (registry.registerAll digest calls) (history ++ accepted digest registry calls) := by
  induction calls generalizing registry history with
  | nil => rwa [accepted, List.append_nil]
  | cons call rest ih =>
    cases admitted : registry.admit digest call with
    | error failure =>
      have same : (registry.register digest call).2 = registry := by rw [register_of_error admitted]
      rw [accepted_cons_of_error admitted, TokenRegistry.registerAll, List.foldl_cons, same]
      exact ih tables
    | ok key =>
      obtain ⟨_, secret, brought, hashed, fresh⟩ := admit_eq_ok.mp admitted
      rw [accepted_cons_of_ok admitted brought, List.append_cons]
      exact ih (tables_register tables brought hashed fresh admitted)

theorem accepted_append (before later : List RegisterCall) :
    accepted digest registry (before ++ later) =
      accepted digest registry before ++ accepted digest (registry.registerAll digest before) later := by
  induction before generalizing registry with
  | nil => rfl
  | cons call rest ih =>
    cases admitted : registry.admit digest call with
    | error failure =>
      have same : (registry.register digest call).2 = registry := by rw [register_of_error admitted]
      rw [List.cons_append, accepted_cons_of_error admitted, accepted_cons_of_error admitted, ih,
        TokenRegistry.registerAll, TokenRegistry.registerAll, List.foldl_cons, same]
    | ok key =>
      obtain ⟨_, secret, brought, _⟩ := admit_eq_ok.mp admitted
      rw [List.cons_append, accepted_cons_of_ok admitted brought, accepted_cons_of_ok admitted brought,
        ih, List.cons_append]
      rfl

/-! ### What a presented secret opens -/

theorem authenticate_some (presented : Text) {value key : Text} (given : stripped? presented = some value)
    (hashed : digestOf digest value = .ok key) :
    registry.authenticate digest (some presented) =
      match registry.tokenIdsByDigest.get? key with
      | none => .error (.security "UNAUTHENTICATED" "the presented bearer token is not recognised")
      | some tokenId =>
        match registry.tokensById.get? tokenId with
        | none => .error .keyError
        | some scope => .ok scope := by
  unfold TokenRegistry.authenticate
  rw [Option.bind_some, given]
  dsimp only
  rw [hashed]
  rfl

/-- **A secret opens the scope last registered under its token id.** -/
theorem authenticate_of_tables (tables : Tables digest registry history) {entry : Registration}
    (member : entry ∈ history) {presented : Text} (same : presented.strip = entry.secret)
    {scope : ScopedToken} (last : lastScope history entry.scope.tokenId = some scope) :
    registry.authenticate digest (some presented) = .ok scope := by
  obtain ⟨key, hashed⟩ := tables.hashed entry member
  have present := (stripped?_eq_some.mp (tables.stripped entry member)).2
  have given : stripped? presented = some entry.secret := stripped?_eq_some.mpr ⟨same, present⟩
  have stored := (tables.keyed key entry.scope.tokenId).mpr ⟨entry, member, hashed, rfl⟩
  rw [authenticate_some presented given hashed, stored]
  dsimp only
  rw [tables.named, last]

/-- A principal is only given to a secret whose digest was registered. -/
theorem registered_of_authenticate (tables : Tables digest registry history) {presented : Option Text}
    {scope : ScopedToken} (opened : registry.authenticate digest presented = .ok scope) :
    ∃ text value key, presented = some text ∧ stripped? text = some value ∧
      digestOf digest value = .ok key ∧ ∃ entry ∈ history, digestOf digest entry.secret = .ok key ∧
        lastScope history entry.scope.tokenId = some scope := by
  unfold TokenRegistry.authenticate at opened
  split at opened
  · cases opened
  next value given =>
  obtain ⟨text, rfl, given⟩ := Option.bind_eq_some_iff.mp given
  obtain ⟨key, hashed, opened⟩ := bind_eq_ok.mp opened
  split at opened
  · cases opened
  next tokenId stored =>
  obtain ⟨entry, member, sameKey, rfl⟩ := (tables.keyed key tokenId).mp stored
  split at opened
  · cases opened
  next found last =>
  cases opened
  exact ⟨text, value, key, rfl, given, hashed, entry, member, sameKey, tables.named _ ▸ last⟩

/-- What a refused secret gets. -/
def Refused (outcome : Except Failure ScopedToken) : Prop :=
  outcome = .error .valueError ∨ ∃ message, outcome = .error (.security "UNAUTHENTICATED" message)

/-- What is not opened is refused as unauthenticated, or cannot be hashed. -/
theorem refused_of_tables (tables : Tables digest registry history) {presented : Option Text}
    (closed : ∀ scope, registry.authenticate digest presented ≠ .ok scope) :
    Refused (registry.authenticate digest presented) := by
  cases given : presented.bind stripped? with
  | none =>
    right
    unfold TokenRegistry.authenticate
    rw [given]
    exact ⟨_, rfl⟩
  | some value =>
    obtain ⟨text, rfl, trimmed⟩ := Option.bind_eq_some_iff.mp given
    cases hashed : digestOf digest value with
    | error failure =>
      left
      unfold digestOf at hashed
      split at hashed
      · next unencodable =>
        unfold TokenRegistry.authenticate digestOf
        rw [given]
        dsimp only
        rw [unencodable]
        rfl
      · cases hashed
    | ok key =>
      right
      rw [authenticate_some text trimmed hashed] at closed ⊢
      cases stored : registry.tokenIdsByDigest.get? key with
      | none => exact ⟨_, rfl⟩
      | some tokenId =>
        obtain ⟨entry, member, _, rfl⟩ := (tables.keyed key tokenId).mp stored
        obtain ⟨other, _, last, _⟩ := lastScope_of_mem member
        rw [stored] at closed
        dsimp only at closed
        rw [tables.named, last] at closed
        exact (closed other.scope rfl).elim

end Step

end AxiomMcp.Security
