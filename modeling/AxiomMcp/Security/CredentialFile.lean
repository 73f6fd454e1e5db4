/-
**What a registry grants, over whole sequences of registrations (`TokenRegistry`, `cli.load_registry`).**

`Binds`: after every prefix of a sequence of calls, a registered secret opens the scope it came with,
another secret is refused, a rejected call changes nothing and a later one changes no answer.

* `binds_iff`: that holds **exactly where no token id comes with two scopes** among the calls that bring
  a fresh usable secret;
* `loadRegistry_eq`: what `load_registry` returns is the registry after the `register` calls of the
  entries that make one, in the file's order (`callsOf`);
* `registry_binds_iff` says the law of both, with two secrets under one id as the sequence it fails on.
-/

import AxiomMcp.Lib.JsonParse
import AxiomMcp.Security.Tokens

namespace AxiomMcp.Security

open Lib

/-! ### The law of a registry -/

/-- The registrations after a call: a usable secret of the registry's audience counts once. -/
def record (audience : Text) (history : List Registration) (call : RegisterCall) : List Registration :=
  if call.scope.audience ≠ audience then history
  else
    match call.secret? with
    | none => history
    | some secret =>
      if secret ∈ history.map Registration.secret then history else history ++ [⟨secret, call.scope⟩]

/-- The registrations a sequence of calls asks for. -/
def registered (audience : Text) (calls : List RegisterCall) : List Registration :=
  calls.foldl (record audience) []

/-- No token id comes with two scopes. -/
def ScopesAgree (history : List Registration) : Prop :=
  ∀ one ∈ history, ∀ other ∈ history, one.scope.tokenId = other.scope.tokenId → one.scope = other.scope

/-- The encodings of these secrets. -/
def encodings (secrets : List Text) : List Bytes := secrets.filterMap Utf8.encode

/-- **A registry of this audience binds each secret of these calls to its own scope, all along.** -/
structure Binds (digest : Bytes → Text) (audience : Text) (calls : List RegisterCall) : Prop where
  grants : ∀ before later, calls = before ++ later →
    ∀ entry ∈ accepted digest (TokenRegistry.new audience) before, ∀ presented : Text,
      presented.strip = entry.secret →
        ((TokenRegistry.new audience).registerAll digest before).authenticate digest (some presented) =
          .ok entry.scope
  refuses : ∀ before later, calls = before ++ later → ∀ presented : Option Text,
    (∀ text ∈ presented,
      text.strip ∉ (accepted digest (TokenRegistry.new audience) before).map Registration.secret ∧
        CollisionFree digest (encodings (text.strip ::
          (accepted digest (TokenRegistry.new audience) before).map Registration.secret))) →
      Refused (((TokenRegistry.new audience).registerAll digest before).authenticate digest presented)
  rejected : ∀ before call later, calls = before ++ call :: later → ∀ failure,
    (((TokenRegistry.new audience).registerAll digest before).register digest call).1 =
        .error failure →
      (((TokenRegistry.new audience).registerAll digest before).register digest call).2 =
        (TokenRegistry.new audience).registerAll digest before
  lasting : ∀ before later rest, calls = before ++ later ++ rest → ∀ presented scope,
    ((TokenRegistry.new audience).registerAll digest before).authenticate digest presented = .ok scope →
      ((TokenRegistry.new audience).registerAll digest (before ++ later)).authenticate digest presented =
        .ok scope

section Law

variable {digest : Bytes → Text} {audience : Text} {history : List Registration}

theorem lastScope_of_agree (agree : ScopesAgree history) {entry : Registration}
    (member : entry ∈ history) : lastScope history entry.scope.tokenId = some entry.scope := by
  obtain ⟨other, there, last, same⟩ := lastScope_of_mem member
  rw [last, agree other there entry member same]

theorem ScopesAgree.left {later : List Registration} (agree : ScopesAgree (history ++ later)) :
    ScopesAgree history :=
  fun one here other there =>
    agree one (List.mem_append_left _ here) other (List.mem_append_left _ there)

theorem eq_of_collisionFree {secrets : List Text} (free : CollisionFree digest (encodings secrets))
    {one other key : Text} (here : one ∈ secrets) (there : other ∈ secrets)
    (left : digestOf digest one = .ok key) (right : digestOf digest other = .ok key) : one = other := by
  obtain ⟨bytes, encoded, hashed⟩ := digestOf_eq_ok.mp left
  obtain ⟨bytes', encoded', hashed'⟩ := digestOf_eq_ok.mp right
  have same := free bytes (List.mem_filterMap.mpr ⟨one, here, encoded⟩) bytes'
    (List.mem_filterMap.mpr ⟨other, there, encoded'⟩) (hashed.trans hashed'.symm)
  exact Utf8.encode_injective encoded (same ▸ encoded')

/-- A call is admitted exactly where it is recorded. -/
theorem record_of_tables {registry : TokenRegistry} (tables : Tables digest registry history)
    (call : RegisterCall)
    (free : CollisionFree digest
      (encodings (history.map Registration.secret ++ call.secret?.toList))) :
    record registry.expectedAudience history call = history ++ accepted digest registry [call] := by
  have known : ∀ secret key, call.secret? = some secret → digestOf digest secret = .ok key →
      (key ∈ registry.tokenIdsByDigest.keys ↔ secret ∈ history.map Registration.secret) := by
    intro secret key brought hashed
    rw [← Dict.get?_isSome, Option.isSome_iff_exists, List.mem_map]
    constructor
    · rintro ⟨tokenId, stored⟩
      obtain ⟨entry, member, sameKey, -⟩ := (tables.keyed key tokenId).mp stored
      refine ⟨entry, member, eq_of_collisionFree free ?_ ?_ sameKey hashed⟩
      · exact List.mem_append_left _ (List.mem_map.mpr ⟨entry, member, rfl⟩)
      · rw [brought]
        exact List.mem_append_right _ (List.mem_singleton.mpr rfl)
    · rintro ⟨entry, member, rfl⟩
      exact ⟨_, (tables.keyed key _).mpr ⟨entry, member, hashed, rfl⟩⟩
  unfold record
  cases admitted : registry.admit digest call with
  | ok key =>
    obtain ⟨sameAudience, secret, brought, hashed, fresh⟩ := admit_eq_ok.mp admitted
    rw [if_neg (not_not.mpr sameAudience), accepted_cons_of_ok admitted brought, brought]
    exact if_neg ((known secret key brought hashed).not.mp fresh)
  | error failure =>
    rw [accepted_cons_of_error admitted, accepted, List.append_nil]
    by_cases sameAudience : call.scope.audience = registry.expectedAudience
    · rw [if_neg (not_not.mpr sameAudience)]
      cases brought : call.secret? with
      | none => rfl
      | some secret =>
        obtain ⟨bytes, encoded⟩ := Option.isSome_iff_exists.mp (secret?_eq_some.mp brought).2
        have hashed : digestOf digest secret = .ok (digest bytes) :=
          digestOf_eq_ok.mpr ⟨bytes, encoded, rfl⟩
        refine if_pos ((known secret _ brought hashed).mp (not_not.mp fun fresh => ?_))
        have stored := admit_eq_ok.mpr ⟨sameAudience, secret, brought, hashed, fresh⟩
        rw [admitted] at stored
        cases stored
    · exact if_pos sameAudience

theorem secret_of_accepted {registry : TokenRegistry} {calls : List RegisterCall} {entry : Registration}
    (member : entry ∈ accepted digest registry calls) : entry.secret ∈ calls.filterMap (·.secret?) := by
  induction calls generalizing registry with
  | nil => cases member
  | cons call rest ih =>
    cases admitted : registry.admit digest call with
    | error failure =>
      rw [accepted_cons_of_error admitted] at member
      obtain ⟨later, there, brought⟩ := List.mem_filterMap.mp (ih member)
      exact List.mem_filterMap.mpr ⟨later, List.mem_cons_of_mem _ there, brought⟩
    | ok key =>
      obtain ⟨_, secret, brought, _⟩ := admit_eq_ok.mp admitted
      rw [accepted_cons_of_ok admitted brought] at member
      rw [List.filterMap_cons, brought]
      rcases List.mem_cons.mp member with rfl | later
      · exact List.mem_cons_self
      · exact List.mem_cons_of_mem _ (ih later)

/-- **What a run registers can be told from its calls.** -/
theorem foldl_record {registry : TokenRegistry} (tables : Tables digest registry history)
    (calls : List RegisterCall)
    (free : CollisionFree digest
      (encodings (history.map Registration.secret ++ calls.filterMap RegisterCall.secret?))) :
    calls.foldl (record registry.expectedAudience) history =
      history ++ accepted digest registry calls := by
  induction calls generalizing registry history with
  | nil => rw [accepted, List.append_nil, List.foldl_nil]
  | cons call rest ih =>
    have split : (call :: rest).filterMap RegisterCall.secret? =
        call.secret?.toList ++ rest.filterMap RegisterCall.secret? := by
      cases brought : call.secret? with
      | none => rw [List.filterMap_cons, brought]; rfl
      | some secret => rw [List.filterMap_cons, brought]; rfl
    rw [split, ← List.append_assoc] at free
    have now := record_of_tables tables call (free.mono fun bytes here => by
      obtain ⟨secret, member, encoded⟩ := List.mem_filterMap.mp here
      exact List.mem_filterMap.mpr ⟨secret, List.mem_append_left _ member, encoded⟩)
    have next := tables_registerAll tables [call]
    have one : registry.registerAll digest [call] = (registry.register digest call).2 := rfl
    have same : (registry.registerAll digest [call]).expectedAudience = registry.expectedAudience := by
      rw [one, register_expectedAudience]
    have later := ih next (free.mono fun bytes here => by
      obtain ⟨secret, member, encoded⟩ := List.mem_filterMap.mp here
      refine List.mem_filterMap.mpr ⟨secret, ?_, encoded⟩
      rw [List.map_append, List.append_assoc, List.mem_append, List.mem_append] at member
      rw [List.append_assoc, List.mem_append, List.mem_append]
      refine member.imp_right (Or.imp_left fun there => ?_)
      obtain ⟨entry, fresh, rfl⟩ := List.mem_map.mp there
      have brought := secret_of_accepted fresh
      rw [List.filterMap_cons] at brought
      cases found : call.secret? with
      | none =>
        rw [found] at brought
        cases brought
      | some secret =>
        rw [found] at brought
        exact brought)
    rw [List.foldl_cons, now, ← same, later, List.append_assoc, ← accepted_append]
    rfl

theorem registered_eq_accepted (calls : List RegisterCall)
    (free : CollisionFree digest (encodings (calls.filterMap RegisterCall.secret?))) :
    registered audience calls = accepted digest (TokenRegistry.new audience) calls :=
  foldl_record (tables_new audience) calls free

/-- **A registry binds every secret to its own scope exactly where no token id comes with two.** -/
theorem binds_iff (calls : List RegisterCall)
    (free : CollisionFree digest (encodings (calls.filterMap RegisterCall.secret?))) :
    Binds digest audience calls ↔ ScopesAgree (registered audience calls) := by
  rw [registered_eq_accepted calls free]
  have tablesOf (some : List RegisterCall) :
      Tables digest ((TokenRegistry.new audience).registerAll digest some)
        (accepted digest (TokenRegistry.new audience) some) :=
    tables_registerAll (tables_new audience) some
  constructor
  · intro binds one here other there sameId
    have opens (entry : Registration) (member : entry ∈ accepted digest (TokenRegistry.new audience) calls) :
        lastScope (accepted digest (TokenRegistry.new audience) calls) entry.scope.tokenId =
          some entry.scope := by
      obtain ⟨last, _, found, _⟩ := lastScope_of_mem member
      have own : entry.secret.strip = entry.secret :=
        (stripped?_eq_some.mp ((tablesOf calls).stripped entry member)).1
      have granted := binds.grants calls [] (List.append_nil calls).symm entry member _ own
      have stored := authenticate_of_tables (tablesOf calls) member own found
      rw [granted] at stored
      rw [found, Except.ok.inj stored]
    have left := opens one here
    rw [sameId, opens other there] at left
    exact (Option.some.inj left).symm
  · intro agree
    have agreeBefore {before later : List RegisterCall} (parts : calls = before ++ later) :
        ScopesAgree (accepted digest (TokenRegistry.new audience) before) := by
      rw [parts, accepted_append] at agree
      exact agree.left
    constructor
    · intro before later parts entry member presented same
      exact authenticate_of_tables (tablesOf before) member same
        (lastScope_of_agree (agreeBefore parts) member)
    · intro before later parts presented stranger
      refine refused_of_tables (tablesOf before) fun scope opened => ?_
      obtain ⟨text, value, key, rfl, given, hashed, entry, member, sameKey, -⟩ :=
        registered_of_authenticate (tablesOf before) opened
      obtain ⟨rfl, -⟩ := stripped?_eq_some.mp given
      obtain ⟨unknown, distinct⟩ := stranger text rfl
      have known : entry.secret ∈
          (accepted digest (TokenRegistry.new audience) before).map Registration.secret :=
        List.mem_map.mpr ⟨entry, member, rfl⟩
      have same := eq_of_collisionFree distinct List.mem_cons_self (List.mem_cons_of_mem _ known)
        hashed sameKey
      exact unknown (same ▸ known)
    · intro before call later _ failure rejected
      exact register_rejected rejected
    · intro before later rest parts presented scope opened
      obtain ⟨text, value, key, rfl, given, hashed, entry, member, sameKey, last⟩ :=
        registered_of_authenticate (tablesOf before) opened
      rw [List.append_assoc] at parts
      rw [lastScope_of_agree (agreeBefore parts) member] at last
      have kept : entry ∈ accepted digest (TokenRegistry.new audience) (before ++ later) := by
        rw [accepted_append]
        exact List.mem_append_left _ member
      rw [← List.append_assoc] at parts
      have stored := ((tablesOf (before ++ later)).keyed key entry.scope.tokenId).mpr
        ⟨entry, kept, sameKey, rfl⟩
      rw [authenticate_some text given hashed, stored]
      dsimp only
      rw [(tablesOf (before ++ later)).named, lastScope_of_agree (agreeBefore parts) kept, last]

end Law

/-! ### A credential file (`cli.load_registry`) -/

/-- The order in which a set of these elements is iterated. -/
structure SetOrder where
  arrange : List Json → List Json
  perm : ∀ elements, (arrange elements).Perm elements

/-- What can be an element of a set. -/
def hashable : Json → Bool
  | .arr _ | .obj _ => false
  | _ => true

/-- `frozenset(value)`, as it is iterated. -/
def frozensetOf (order : SetOrder) : Json → Except Failure (List Json)
  | .arr items => if items.all hashable then .ok (order.arrange items) else .error .typeError
  | .str text => .ok (order.arrange (text.map fun c => .str [c]))
  | .obj entries => .ok (order.arrange (entries.map fun item => .str item.1))
  | _ => .error .typeError

/-- `frozenset(config.get(name, ()))` -/
def frozensetField (order : SetOrder) (config : JsonObject) (name : Text) : Except Failure (List Json) :=
  match Json.get? config name with
  | none => .ok []
  | some value => frozensetOf order value

/-- Ids that are all text with something in it, or what looking for a blank one raises. -/
def presentIds (message : Text) :
    List Json → Except Failure (List { id : Text // id.strip ≠ [] })
  | [] => .ok []
  | .str id :: rest =>
    if present : id.strip ≠ [] then
      (presentIds message rest).map (⟨id, present⟩ :: ·)
    else
      .error (.security "VALIDATION_ERROR" message)
  | _ :: _ => .error .attributeError

/-- A registered capability. -/
def knownCapability? : Json → Option { capability : Text // capability ∈ knownCapabilities }
  | .str text => if known : text ∈ knownCapabilities then some ⟨text, known⟩ else none
  | _ => none

/-- The elements can be put in order: `sorted` compares text with text and numbers with numbers. -/
def sortable (elements : List Json) : Bool :=
  elements.all (fun element => match element with | .str _ => true | _ => false) ||
    elements.all (fun element => match element with | .bool _ | .int _ | .float _ => true | _ => false) ||
    elements.all (fun element => match element with | .null => true | _ => false)

/-- The set of these values. -/
def setOf {p : Text → Prop} (values : List { text : Text // p text }) : Finset Text :=
  (values.map Subtype.val).toFinset

theorem setOf_spec {p : Text → Prop} {values : List { text : Text // p text }} {text : Text}
    (member : text ∈ setOf values) : p text := by
  obtain ⟨value, -, rfl⟩ := List.mem_map.mp (List.mem_toFinset.mp member)
  exact value.2

/-- `ScopedToken(...)`, with the checks of `__post_init__` in their order. -/
def scopedToken (tokenId audience : Text) (capabilities solutionIds : List Json)
    (projectIds : Option (List Json)) : Except Failure ScopedToken :=
  if tokenPresent : tokenId.strip ≠ [] then
    if audiencePresent : audience.strip ≠ [] then
      match capabilities.mapM knownCapability? with
      | none =>
        if sortable (capabilities.filter fun element => (knownCapability? element).isNone) then
          .error (.security "VALIDATION_ERROR" "token carries an unregistered capability")
        else
          .error .typeError
      | some known =>
        if capable : setOf known ≠ ∅ then do
          let solutions ← presentIds "token must be scoped to at least one solution" solutionIds
          if given : setOf solutions ≠ ∅ then
            match projectIds with
            | none =>
              .ok ⟨tokenId, audience, setOf known, setOf solutions, none, tokenPresent, audiencePresent,
                capable, fun _ => setOf_spec, given, fun _ => setOf_spec, nofun⟩
            | some ids => do
              let projects ← presentIds "project scope entries must not be empty" ids
              .ok ⟨tokenId, audience, setOf known, setOf solutions, some (setOf projects), tokenPresent,
                audiencePresent, capable, fun _ => setOf_spec, given, fun _ => setOf_spec,
                fun _ same _ => Option.some.inj same ▸ setOf_spec⟩
          else
            .error (.security "VALIDATION_ERROR" "token must be scoped to at least one solution")
        else
          .error (.security "VALIDATION_ERROR" "token must carry at least one capability")
    else
      .error (.security "VALIDATION_ERROR" "token audience must not be empty")
  else
    .error (.security "VALIDATION_ERROR" "token_id must not be empty")

section File

variable (py : Interpreter) (digest : Bytes → Text) (order : SetOrder)

/-- `str(config.get(name, default))` -/
def textField (config : JsonObject) (name default : Text) : Text :=
  match Json.get? config name with
  | none => default
  | some value => value.pyStr py

/-- Lower case, as far as `kind` is compared with it: only ASCII letters become those of `env` and
`file`. -/
def lower (text : Text) : Text :=
  text.map fun c => if 0x41 ≤ c.val ∧ c.val ≤ 0x5a then Fin.ofNat 0x110000 (c.val + 0x20) else c

/-- `str(Path(text))` on a POSIX system. -/
def pathText (text : Text) : Text :=
  let root : Text :=
    if Text.startsWith text "//" && !Text.startsWith text "///" then "//"
    else if Text.startsWith text "/" then "/"
    else []
  let parts := (text.splitOn (codePoint '/')).filter fun part => part ≠ [] && part ≠ ("." : Text)
  let rendered := root ++ Text.join "/" parts
  if rendered = [] then "." else rendered

/-- The keys that would hold a secret itself. -/
def literalKeys : List Text := ["token", "value", "secret"]

/-- `token_reference_from_config(config)` -/
def tokenReferenceFromConfig (config : JsonObject) : Except Failure TokenReference :=
  if ∃ key ∈ literalKeys, key ∈ config.map Prod.fst then
    .error (.security "VALIDATION_ERROR" "configuration must carry a token reference, not a token value")
  else if lower (textField py config "kind" "").strip = ("env" : Text) then
    if present : (textField py config "variable" "").strip ≠ [] then .ok (.env _ present)
    else .error (.security "VALIDATION_ERROR" "token reference variable must not be empty")
  else if lower (textField py config "kind" "").strip = ("file" : Text) then
    if present : (pathText (textField py config "path" "")).strip ≠ [] then .ok (.file _ present)
    else .error (.security "VALIDATION_ERROR" "token reference path must not be empty")
  else
    .error (.security "VALIDATION_ERROR" "token reference kind must be 'env' or 'file'")

/-- `None if entry.get("project_ids") is None else frozenset(entry["project_ids"])` -/
def projectIdsField (entry : JsonObject) : Except Failure (Option (List Json)) :=
  match Json.get? entry "project_ids" with
  | none | some .null => .ok none
  | some value => (frozensetOf order value).map some

/-- The arguments of the `register` call an entry makes. -/
def entryCall (credentials : Credentials) (entry : JsonObject) : Except Failure RegisterCall := do
  let reference ← tokenReferenceFromConfig py entry
  let capabilities ← frozensetField order entry "capabilities"
  let solutionIds ← frozensetField order entry "solution_ids"
  let projectIds ← projectIdsField order entry
  let scope ← scopedToken (textField py entry "token_id" "").strip
    (textField py entry "audience" mcpAudience).strip capabilities solutionIds projectIds
  return ⟨reference, scope, credentials⟩

/-- What `except (SecurityError, TypeError, ValueError)` catches. -/
def Failure.caught : Failure → Bool
  | .security _ _ | .typeError | .valueError => true
  | _ => false

/-- A note on the entry at an index. -/
def entryNote (what : Text) (index : ℕ) : Text := what ++ (":" : Text) ++ Text.ofNat index

/-- The loop of `load_registry` over the entries from an index on. -/
def loadEntries (credentials : Credentials) (index : ℕ) (registry : TokenRegistry) (skipped : List Text) :
    List Json → Except Failure (TokenRegistry × List Text)
  | [] => .ok (registry, skipped)
  | .obj entry :: rest =>
    match entryCall py order credentials entry with
    | .error failure =>
      if failure.caught then
        loadEntries credentials (index + 1) registry
          (skipped ++ [entryNote "credential_registry_entry_rejected" index]) rest
      else
        .error failure
    | .ok call =>
      match registry.register digest call with
      | (.ok _, next) => loadEntries credentials (index + 1) next skipped rest
      | (.error failure, next) =>
        if failure.caught then
          loadEntries credentials (index + 1) next
            (skipped ++ [entryNote "credential_registry_entry_rejected" index]) rest
        else
          .error failure
  | _ :: rest =>
    loadEntries credentials (index + 1) registry
      (skipped ++ [entryNote "credential_registry_entry_invalid" index]) rest

/-- The document of a credential file, and nothing where it is unreadable. Reading a file as text turns
every line end into a line feed, which changes no JSON value. -/
def readDocument (credentials : Credentials) (path : Text) : Except Failure (Option Json) := do
  match ← credentials.file path with
  | none => return none
  | some bytes =>
    match Utf8.decode bytes with
    | .error _ => .error .valueError
    | .ok text =>
      match Json.loads py text with
      | .ok document => return some document
      | .error (.notJson _) => return none
      | .error (.tooManyDigits _) => .error .valueError
      | .error .exhausted => .error .recursion

/-- `document.get("tokens") if isinstance(document, dict) else None`, where that is a list. -/
def entriesOf (document : Json) : Option (List Json) :=
  match document.field? "tokens" with
  | some (.arr entries) => some entries
  | _ => none

/-- `load_registry(path, environ)` -/
def loadRegistry (credentials : Credentials) (path : Text) :
    Except Failure (TokenRegistry × List Text) := do
  match ← readDocument py credentials path with
  | none => return (TokenRegistry.new mcpAudience, ["credential_registry_unreadable"])
  | some document =>
    match entriesOf document with
    | none => return (TokenRegistry.new mcpAudience, ["credential_registry_malformed"])
    | some entries => loadEntries py digest order credentials 0 (TokenRegistry.new mcpAudience) [] entries

/-- The `register` call of an entry, where it makes one. -/
def callOf (credentials : Credentials) : Json → Option RegisterCall
  | .obj entry => (entryCall py order credentials entry).toOption
  | _ => none

/-- The `register` calls of a credential file. -/
def callsOf (credentials : Credentials) (path : Text) : List RegisterCall :=
  match readDocument py credentials path with
  | .ok (some document) => ((entriesOf document).getD []).filterMap (callOf py order credentials)
  | _ => []

variable {py digest order}

/-- The loop leaves the registry of its entries' calls. -/
theorem loadEntries_eq {credentials : Credentials} {entries : List Json} {index : ℕ}
    {registry last : TokenRegistry} {skipped notes : List Text}
    (loaded : loadEntries py digest order credentials index registry skipped entries =
      .ok (last, notes)) :
    last = registry.registerAll digest (entries.filterMap (callOf py order credentials)) := by
  induction entries generalizing index registry skipped with
  | nil =>
    cases loaded
    rfl
  | cons entry rest ih =>
    cases entry with
    | obj entry =>
      rw [loadEntries] at loaded
      rw [List.filterMap_cons, callOf]
      cases made : entryCall py order credentials entry with
      | error failure =>
        rw [made] at loaded
        dsimp only at loaded
        split at loaded
        · exact ih loaded
        · cases loaded
      | ok call =>
        rw [made] at loaded
        dsimp only at loaded
        have next : last = (registry.register digest call).2.registerAll digest
            (rest.filterMap (callOf py order credentials)) := by
          split at loaded
          · next after called =>
            rw [called]
            exact ih loaded
          · next failure after called =>
            rw [called]
            split at loaded
            · exact ih loaded
            · cases loaded
        exact next
    | _ => exact ih loaded

/-- **What is loaded from a file is the registry of the file's calls.** -/
theorem loadRegistry_eq {credentials : Credentials} {path : Text} {registry : TokenRegistry}
    {skipped : List Text}
    (loaded : loadRegistry py digest order credentials path = .ok (registry, skipped)) :
    registry = (TokenRegistry.new mcpAudience).registerAll digest (callsOf py order credentials path) := by
  obtain ⟨found, read, loaded⟩ := bind_eq_ok.mp loaded
  unfold callsOf
  rw [read]
  cases found with
  | none =>
    cases loaded
    rfl
  | some document =>
    dsimp only at loaded ⊢
    cases held : entriesOf document with
    | none =>
      rw [held] at loaded
      cases loaded
      rfl
    | some entries =>
      rw [held] at loaded
      exact loadEntries_eq loaded

end File

/-- **The registry binds a secret to its own scope unless a token id comes back with another scope**, for
every sequence of `register` calls and for every credential file that loads. -/
theorem registry_binds_iff (digest : Bytes → Text) :
    (∀ audience calls, CollisionFree digest (encodings (calls.filterMap RegisterCall.secret?)) →
      (Binds digest audience calls ↔ ScopesAgree (registered audience calls))) ∧
    ∀ py order credentials path registry skipped,
      loadRegistry py digest order credentials path = .ok (registry, skipped) →
        registry =
          (TokenRegistry.new mcpAudience).registerAll digest (callsOf py order credentials path) ∧
        (CollisionFree digest
            (encodings ((callsOf py order credentials path).filterMap RegisterCall.secret?)) →
          (Binds digest mcpAudience (callsOf py order credentials path) ↔
            ScopesAgree (registered mcpAudience (callsOf py order credentials path)))) :=
  ⟨fun _ calls free => binds_iff calls free, fun _ _ _ _ _ _ loaded =>
    ⟨loadRegistry_eq loaded, fun free => binds_iff _ free⟩⟩

/-! ### Two secrets under one token id -/

/-- The SHA-256 digests of two secrets. -/
def sampleDigest (bytes : Bytes) : Text :=
  if some bytes = Utf8.encode "alpha-secret" then
    "3f8ad42d6dc52445378196cb2e49281f812253eaea7830fe46f4756f2ca0a3d4"
  else if some bytes = Utf8.encode "beta-secret" then
    "d40ab4efae8afe82f0fda0f0fc785ff61bec7b5f329c6070c453594397e03568"
  else []

/-- Two variables that hold a secret each, and a credential file that names one of them. -/
def sampleCredentials : Credentials where
  environ name :=
    if name = ("ALPHA" : Text) then .ok (some "alpha-secret")
    else if name = ("BETA" : Text) then .ok (some " beta-secret\n")
    else .ok none
  file path :=
    if path = ("tokens.json" : Text) then
      .ok (Utf8.encode ("\x7b\"tokens\":[\x7b\"kind\":\"env\",\"variable\":\"ALPHA\",\"token_id\":\"agent\"," ++
        "\"capabilities\":[\"read\"],\"solution_ids\":[\"shop\"]\x7d]\x7d" : String))
    else
      .ok none

/-- A token of the shop with one capability. -/
def shopToken (tokenId capability : Text) (named : tokenId.strip ≠ []) (known : capability ∈ knownCapabilities) :
    ScopedToken :=
  ⟨tokenId, mcpAudience, {capability}, {("shop" : Text)}, none, named, mcpAudience_present,
    Finset.singleton_ne_empty _, Finset.singleton_subset_iff.mpr known, Finset.singleton_ne_empty _,
    by decide, nofun⟩

/-- A call that registers the secret of a variable. -/
def sampleCall (name : Text) (present : name.strip ≠ []) (scope : ScopedToken) : RegisterCall :=
  ⟨.env name present, scope, sampleCredentials⟩

def readerToken : ScopedToken := shopToken "agent" capabilityRead (by decide) (by decide)

def reconcilerToken : ScopedToken := shopToken "agent" capabilityReconcile (by decide) (by decide)

def checkpointToken : ScopedToken := shopToken "auditor" capabilityCheckpoint (by decide) (by decide)

/-- A reader's secret, then a reconciler's under the same token id. -/
def sharedIdCalls : List RegisterCall :=
  [sampleCall "ALPHA" (by decide) readerToken, sampleCall "BETA" (by decide) reconcilerToken]

/-- The reader's secret now reconciles. -/
theorem registry_rebinds : ¬ Binds sampleDigest mcpAudience sharedIdCalls := by
  intro binds
  have granted := binds.grants sharedIdCalls [] rfl ⟨"alpha-secret", readerToken⟩
    (by
      have first : accepted sampleDigest (TokenRegistry.new mcpAudience) sharedIdCalls =
          [⟨"alpha-secret", readerToken⟩, ⟨"beta-secret", reconcilerToken⟩] := rfl
      rw [first]
      exact List.mem_cons_self)
    "alpha-secret" rfl
  have opened : ((TokenRegistry.new mcpAudience).registerAll sampleDigest sharedIdCalls).authenticate
      sampleDigest (some "alpha-secret") = .ok reconcilerToken := by decide +kernel
  rw [opened] at granted
  exact absurd (Except.ok.inj granted) (by decide)

/-- A reader's secret and an auditor's, under ids of their own. -/
def ownIdCalls : List RegisterCall :=
  [sampleCall "ALPHA" (by decide) readerToken, sampleCall "BETA" (by decide) checkpointToken]

/-- The order in which a list lists its members. -/
def listOrder : SetOrder := ⟨id, fun _ => List.Perm.refl _⟩

theorem registry_binds_samples :
    Binds sampleDigest mcpAudience ownIdCalls ∧
      (Binds sampleDigest mcpAudience
          (callsOf Interpreter.ascii listOrder sampleCredentials "tokens.json") ↔
        ScopesAgree (registered mcpAudience
          (callsOf Interpreter.ascii listOrder sampleCredentials "tokens.json"))) := by
  have all := registry_binds_iff sampleDigest
  have free : CollisionFree sampleDigest (encodings (ownIdCalls.filterMap RegisterCall.secret?)) := by
    unfold CollisionFree
    decide +kernel
  have agree : ScopesAgree (registered mcpAudience ownIdCalls) := by
    unfold ScopesAgree
    decide +kernel
  have loads : (loadRegistry Interpreter.ascii sampleDigest listOrder sampleCredentials "tokens.json").isOk =
      true := by decide +kernel
  have secrets : (callsOf Interpreter.ascii listOrder sampleCredentials "tokens.json").filterMap
      RegisterCall.secret? = ["alpha-secret"] := by decide +kernel
  have free' : CollisionFree sampleDigest
      (encodings ((callsOf Interpreter.ascii listOrder sampleCredentials "tokens.json").filterMap
        RegisterCall.secret?)) := by
    rw [secrets]
    unfold CollisionFree
    decide +kernel
  cases loaded : loadRegistry Interpreter.ascii sampleDigest listOrder sampleCredentials "tokens.json" with
  | error failure =>
    rw [loaded] at loads
    cases loads
  | ok result =>
    exact ⟨(all.1 mcpAudience ownIdCalls free).mpr agree, (all.2 _ _ _ _ _ _ loaded).2 free'⟩

end AxiomMcp.Security
