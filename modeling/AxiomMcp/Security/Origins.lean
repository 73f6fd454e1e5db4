/-
**Origin headers and the allow-list (`security.py`, `normalize_host_header` to `SecurityPolicy`).**

A header is admitted where its normal form is that of an entry. An `Origin` is a scheme, a host and a port, and
its `text` is the normal form; `Spells` says that a text is that origin literally, up to an empty port.

* `originOf_eq`: the normal form of a text is that of the origin it spells, or of one it `Trails`: characters
  behind the bracket of a host are dropped;
* `Origin.text_injective`, `spells_unique`: two origins with one normal form are one origin;
* `originAllowed_spelled_iff` — **a header is admitted exactly if it is spelled as an entry, unless characters
  behind a bracketed host are dropped on the way**.
-/

import AxiomMcp.Security.Tokens

namespace AxiomMcp.Security

open AxiomMcp.Lib

/-- What `str` knows of Unicode. -/
structure Characters where
  /-- `text.lower()` -/
  lower : Text → Text
  /-- `c.isdigit()` -/
  isDigit : CodePoint → Bool
  lower_nil : lower [] = []

/-! ### Texts cut in two -/

/-- `text.partition(sep)`, where `sep` occurs. -/
def cutAt (sep : Text) : Text → Option (Text × Text)
  | [] => none
  | c :: rest =>
    if Text.startsWith (c :: rest) sep then some ([], (c :: rest).drop sep.length)
    else (cutAt sep rest).map fun parts => (c :: parts.1, parts.2)

/-- `text[:end + 1]` and `text[end + 1:]` for `end = text.find(c)`, which is -1 where `c` does not occur. -/
def cutAfter (c : CodePoint) (text : Text) : Text × Text :=
  let stop := if c ∈ text then (text.takeWhile (· ≠ c)).length + 1 else 0
  (text.take stop, text.drop stop)

section Cuts

variable {sep text before after : Text} {c : CodePoint}

theorem cutAt_eq_some (cut : cutAt sep text = some (before, after)) : text = before ++ sep ++ after := by
  induction text generalizing before with
  | nil => cases cut
  | cons c rest ih =>
    rw [cutAt] at cut
    split at cut
    · next starts =>
      obtain ⟨tail, whole⟩ := List.isPrefixOf_iff_prefix.mp starts
      cases cut
      rw [← whole, List.drop_left, List.nil_append]
    · obtain ⟨⟨front, back⟩, found, same⟩ := Option.map_eq_some_iff.mp cut
      cases same
      rw [ih found, List.cons_append, List.cons_append]

/-- A text is cut at the first of the characters. -/
theorem cutAt_single (fresh : c ∉ before) : cutAt [c] (before ++ c :: after) = some (before, after) := by
  induction before with
  | nil =>
    have starts : Text.startsWith (c :: after) [c] = true := by simp [Text.startsWith]
    rw [List.nil_append, cutAt, if_pos starts]
    rfl
  | cons d rest ih =>
    have different : c ≠ d := List.ne_of_not_mem_cons fresh
    have fresh : c ∉ rest := List.not_mem_of_not_mem_cons fresh
    have starts : ¬ Text.startsWith (d :: (rest ++ c :: after)) [c] = true := by
      simp [Text.startsWith, different]
    rw [List.cons_append, cutAt, if_neg starts, ih fresh]
    rfl

theorem cutAt_single_none (fresh : c ∉ text) : cutAt [c] text = none := by
  induction text with
  | nil => rfl
  | cons d rest ih =>
    have different : c ≠ d := List.ne_of_not_mem_cons fresh
    have fresh : c ∉ rest := List.not_mem_of_not_mem_cons fresh
    have starts : ¬ Text.startsWith (d :: rest) [c] = true := by
      simp [Text.startsWith, different]
    rw [cutAt, if_neg starts, ih fresh]
    rfl

/-- Every text with the character is cut at the first one. -/
theorem split_of_mem (member : c ∈ text) : ∃ before after, text = before ++ c :: after ∧ c ∉ before := by
  induction text with
  | nil => exact (List.not_mem_nil member).elim
  | cons d rest ih =>
    by_cases here : d = c
    · exact ⟨[], rest, by rw [here, List.nil_append], List.not_mem_nil⟩
    · obtain ⟨before, after, rfl, fresh⟩ := ih ((List.mem_cons.mp member).resolve_left (Ne.symm here))
      exact ⟨d :: before, after, rfl, List.not_mem_cons_of_ne_of_not_mem (Ne.symm here) fresh⟩

theorem cutAfter_eq (fresh : c ∉ before) : cutAfter c (before ++ c :: after) = (before ++ [c], after) := by
  have front : (before ++ c :: after).takeWhile (· ≠ c) = before := by
    rw [List.takeWhile_append_of_pos fun d member => decide_eq_true (ne_of_mem_of_not_mem member fresh)]
    simp
  have longer : before ++ c :: after = (before ++ [c]) ++ after := by rw [List.append_assoc, List.singleton_append]
  have stop : (before ++ [c]).length = before.length + 1 := List.length_append
  rw [cutAfter, if_pos (List.mem_append_right _ List.mem_cons_self), front, longer, ← stop,
    List.take_left, List.drop_left]

theorem cutAfter_fresh (fresh : c ∉ text) : cutAfter c text = ([], text) := by
  rw [cutAfter, if_neg fresh]
  rfl

end Cuts

/-! ### The code -/

section Code

variable (chars : Characters)

/-- `_has_wildcard(value)` -/
def hasWildcard (value : Text) : Bool := Text.contains value "*"

/-- `value.isdigit()` -/
def isDigits (value : Text) : Bool := decide (value ≠ []) && value.all chars.isDigit

/-- `value.strip().lower()` -/
def trimLower (value : Text) : Text := chars.lower value.strip

/-- `any(char in text for char in listed)` -/
def holdsOne (listed text : Text) : Bool := listed.any fun c => decide (c ∈ text)

/-- `normalize_host_header(value)` -/
def normalizeHostHeader (value : Text) : Text :=
  let candidate := trimLower chars value
  if candidate = [] then []
  else if Text.startsWith candidate "[" then
    if codePoint ']' ∉ candidate then []
    else
      let (host, rest) := cutAfter (codePoint ']') candidate
      if rest = [] then host
      else if Text.startsWith rest ":" && isDigits chars (rest.drop 1) then host ++ (":" : Text) ++ rest.drop 1
      else []
  else if holdsOne "@/\\?#" candidate then []
  else if 1 < candidate.count (codePoint ':') then []
  else
    let (host, port) := (cutAt ":" candidate).getD (candidate, [])
    if host = [] then []
    else if port ≠ [] ∧ isDigits chars port = false then []
    else candidate

/-- `_split_host_port(value)` -/
def splitHostPort (value : Text) : Text × Text :=
  if Text.startsWith value "[" then
    let (host, rest) := cutAfter (codePoint ']') value
    (host, if Text.startsWith rest ":" then rest.drop 1 else [])
  else (cutAt ":" value).getD (value, [])

/-- `host_allowed(host_header, allowed_hosts)` -/
def hostAllowed (hostHeader : Text) (allowedHosts : List Text) : Bool :=
  let normalized := normalizeHostHeader chars hostHeader
  if normalized = [] then false
  else
    let (host, port) := splitHostPort normalized
    allowedHosts.any fun entry =>
      let candidate := trimLower chars entry
      if candidate = [] ∨ hasWildcard candidate = true then false
      else
        let entryNorm := normalizeHostHeader chars candidate
        if entryNorm = [] then false
        else
          let (entryHost, entryPort) := splitHostPort entryNorm
          decide (entryHost = host ∧ (entryPort = [] ∨ entryPort = port))

/-- The end of `normalize_origin`: a scheme, and what the rest was split into. -/
def renderOrigin (scheme : Text) (parts : Text × Text) : Text :=
  if parts.1 = [] then []
  else if parts.2 ≠ [] ∧ isDigits chars parts.2 = false then []
  else if parts.2 = [] then Text.format [scheme, "://", parts.1]
  else Text.format [scheme, "://", parts.1, ":", parts.2]

/-- `normalize_origin(value)`, of a value trimmed and in lower case. -/
def originOf (candidate : Text) : Text :=
  if candidate = [] ∨ candidate = ("null" : Text) ∨ hasWildcard candidate = true then []
  else
    match cutAt "://" candidate with
    | none => []
    | some (scheme, rest) =>
      if scheme ≠ ("http" : Text) ∧ scheme ≠ ("https" : Text) then []
      else if rest = [] ∨ holdsOne "/?#@" rest = true then []
      else renderOrigin chars scheme (splitHostPort rest)

/-- `normalize_origin(value)` -/
def normalizeOrigin (value : Text) : Text := originOf chars (trimLower chars value)

/-- `origin_allowed(origin, allowed_origins)` -/
def originAllowed (origin : Option Text) (allowedOrigins : List Text) : Bool :=
  match origin with
  | none => true
  | some origin =>
    if origin.strip = [] then true
    else
      let normalized := normalizeOrigin chars origin
      if normalized = [] then false
      else allowedOrigins.any fun entry =>
        let candidate := normalizeOrigin chars entry
        decide (candidate ≠ [] ∧ candidate = normalized)

/-- `SecurityPolicy`: the checks of `__post_init__` are its fields. A `frozenset` is the list of its members, in the
order it iterates. -/
structure SecurityPolicy where
  allowedHosts : List Text
  allowedOrigins : List Text
  hosts_given : allowedHosts ≠ []
  origins_given : allowedOrigins ≠ []
  hosts_plain : ∀ host ∈ allowedHosts, hasWildcard host = false ∧ normalizeHostHeader chars host ≠ []
  origins_plain : ∀ origin ∈ allowedOrigins, hasWildcard origin = false ∧ normalizeOrigin chars origin ≠ []

/-- `SecurityPolicy(allowed_hosts=..., allowed_origins=...)` -/
def SecurityPolicy.make (allowedHosts allowedOrigins : List Text) : Except Failure (SecurityPolicy chars) :=
  if hosts_given : allowedHosts = [] then
    .error (.security "VALIDATION_ERROR" "host allowlist must not be empty")
  else if origins_given : allowedOrigins = [] then
    .error (.security "VALIDATION_ERROR" "origin allowlist must not be empty")
  else if hosts_plain :
      ∀ host ∈ allowedHosts, hasWildcard host = false ∧ normalizeHostHeader chars host ≠ [] then
    if origins_plain :
        ∀ origin ∈ allowedOrigins, hasWildcard origin = false ∧ normalizeOrigin chars origin ≠ [] then
      .ok ⟨allowedHosts, allowedOrigins, hosts_given, origins_given, hosts_plain, origins_plain⟩
    else .error (.security "VALIDATION_ERROR" "origin allowlist entry is not an origin")
  else .error (.security "VALIDATION_ERROR" "host allowlist entry is not a plain host")

/-- `SecurityPolicy.build(allowed_hosts=..., allowed_origins=...)` -/
def SecurityPolicy.build (allowedHosts allowedOrigins : List Text) : Except Failure (SecurityPolicy chars) :=
  let kept := fun entries : List Text =>
    ((entries.filter fun entry => entry.strip ≠ []).map (trimLower chars)).dedup
  SecurityPolicy.make chars (kept allowedHosts) (kept allowedOrigins)

/-- `policy.allows(host_header, origin)` -/
def SecurityPolicy.allows (policy : SecurityPolicy chars) (hostHeader origin : Option Text) : Bool :=
  hostAllowed chars (hostHeader.getD []) policy.allowedHosts && originAllowed chars origin policy.allowedOrigins

end Code

/-! ### Origins -/

/-- A host in brackets. -/
def Bracketed (host : Text) : Prop :=
  ∃ inside, host = codePoint '[' :: inside ++ [codePoint ']'] ∧ codePoint ']' ∉ inside

/-- A host that is not in brackets. -/
def PlainHost (host : Text) : Prop :=
  host ≠ [] ∧ codePoint ':' ∉ host ∧ Text.startsWith host "[" = false

/-- The characters no origin holds behind its scheme. -/
def forbidden : Text := "/?#@*"

/-- A text without such characters. -/
def Clean (text : Text) : Prop := ∀ c ∈ forbidden, c ∉ text

/-- A scheme, a host and a port, empty where there is none. -/
structure Origin (chars : Characters) where
  scheme : Text
  host : Text
  port : Text
  scheme_known : scheme = ("http" : Text) ∨ scheme = ("https" : Text)
  host_formed : Bracketed host ∨ PlainHost host
  host_clean : Clean host
  port_digits : port = [] ∨ isDigits chars port = true
  port_clean : Clean port

section Origins

variable {chars : Characters}

/-- The normal form of an origin. -/
def Origin.text (origin : Origin chars) : Text :=
  if origin.port = [] then Text.format [origin.scheme, "://", origin.host]
  else Text.format [origin.scheme, "://", origin.host, ":", origin.port]

/-- A text is an origin literally, up to an empty port. -/
def Spells (text : Text) (origin : Origin chars) : Prop :=
  text = origin.text ∨ origin.port = [] ∧ text = origin.text ++ (":" : Text)

/-- A text is an origin with a bracketed host and no port, followed by characters that are no port. -/
def Trails (text : Text) (origin : Origin chars) : Prop :=
  Bracketed origin.host ∧ origin.port = [] ∧ ∃ tail, text = origin.text ++ tail ∧ tail ≠ [] ∧
    Text.startsWith tail ":" = false ∧ Clean tail

/-- Two texts that are one origin literally. -/
def Alike (chars : Characters) (a b : Text) : Prop := ∃ origin : Origin chars, Spells a origin ∧ Spells b origin

/-- Two texts that are one origin only without what follows the bracket of one of them. -/
def Folded (chars : Characters) (a b : Text) : Prop :=
  ∃ origin : Origin chars, (Spells a origin ∨ Trails a origin) ∧ (Spells b origin ∨ Trails b origin) ∧
    (Trails a origin ∨ Trails b origin)

theorem Origin.text_ne_nil (origin : Origin chars) : origin.text ≠ [] := by
  have scheme : origin.scheme ≠ [] := by
    rcases origin.scheme_known with known | known <;> rw [known] <;> decide
  intro empty
  unfold Origin.text at empty
  split at empty
  · exact scheme (List.append_eq_nil_iff.mp empty).1
  · exact scheme (List.append_eq_nil_iff.mp empty).1

theorem hasWildcard_iff {text : Text} : hasWildcard text = true ↔ codePoint '*' ∈ text := by
  rw [hasWildcard, Text.contains, decide_eq_true_iff]
  change [codePoint '*'] <:+: text ↔ _
  exact List.singleton_infix_iff _ _

theorem Clean.append {a b : Text} : Clean (a ++ b) ↔ Clean a ∧ Clean b := by
  simp only [Clean, List.mem_append, not_or]
  exact ⟨fun both => ⟨fun c member => (both c member).1, fun c member => (both c member).2⟩,
    fun both c member => ⟨both.1 c member, both.2 c member⟩⟩

theorem mem_forbidden {c : CodePoint} : c ∈ forbidden ↔ c ∈ ("/?#@" : Text) ∨ c = codePoint '*' := by
  have whole : forbidden = ("/?#@" : Text) ++ [codePoint '*'] := rfl
  rw [whole, List.mem_append, List.mem_singleton]

theorem startsWith_cons {c : CodePoint} {text : Text} :
    Text.startsWith text [c] = true ↔ ∃ rest, text = c :: rest := by
  constructor
  · intro starts
    obtain ⟨rest, whole⟩ := List.isPrefixOf_iff_prefix.mp starts
    exact ⟨rest, whole.symm⟩
  · rintro ⟨rest, rfl⟩
    exact List.isPrefixOf_iff_prefix.mpr ⟨rest, rfl⟩

theorem startsWith_bracket {text : Text} :
    Text.startsWith text "[" = true ↔ ∃ rest, text = codePoint '[' :: rest := startsWith_cons

theorem startsWith_colon {text : Text} :
    Text.startsWith text ":" = true ↔ ∃ rest, text = codePoint ':' :: rest := startsWith_cons

/-! ### What a rest is split into -/

section Split

variable {host port tail rest : Text}

theorem split_bracketed (bracketed : Bracketed host) : splitHostPort (host ++ tail) =
    (host, if Text.startsWith tail ":" then tail.drop 1 else []) := by
  obtain ⟨inside, rfl, fresh⟩ := bracketed
  have starts : Text.startsWith (codePoint '[' :: inside ++ [codePoint ']'] ++ tail) "[" = true :=
    startsWith_bracket.mpr ⟨inside ++ [codePoint ']'] ++ tail, rfl⟩
  have whole : codePoint '[' :: inside ++ [codePoint ']'] ++ tail =
      (codePoint '[' :: inside) ++ codePoint ']' :: tail := by
    rw [List.append_assoc, List.singleton_append]
  rw [splitHostPort, if_pos starts, whole,
    cutAfter_eq (List.not_mem_cons_of_ne_of_not_mem (by decide) fresh)]

theorem split_plain (plain : PlainHost host) (follows : tail = [] ∨ Text.startsWith tail ":" = true) :
    splitHostPort (host ++ tail) = (host, tail.drop 1) := by
  obtain ⟨given, fresh, unbracketed⟩ := plain
  have starts : ¬ Text.startsWith (host ++ tail) "[" = true := by
    intro starts
    obtain ⟨more, whole⟩ := startsWith_bracket.mp starts
    cases host with
    | nil => exact given rfl
    | cons c inside =>
      rw [(List.cons.inj whole).1, startsWith_bracket.mpr ⟨inside, rfl⟩] at unbracketed
      cases unbracketed
  rw [splitHostPort, if_neg starts]
  rcases follows with rfl | follows
  · rw [List.append_nil]
    change (cutAt [codePoint ':'] host).getD _ = _
    rw [cutAt_single_none fresh]
    rfl
  · obtain ⟨more, rfl⟩ := startsWith_colon.mp follows
    change (cutAt [codePoint ':'] _).getD _ = _
    rw [cutAt_single fresh]
    rfl

/-- Every rest with a host is split that way. -/
theorem split_cases (split : splitHostPort rest = (host, port)) (given : host ≠ []) :
    ∃ tail, rest = host ++ tail ∧
      (Bracketed host ∧ port = (if Text.startsWith tail ":" then tail.drop 1 else []) ∨
        PlainHost host ∧ (tail = [] ∨ Text.startsWith tail ":" = true) ∧ port = tail.drop 1) := by
  by_cases starts : Text.startsWith rest "[" = true
  · by_cases closed : codePoint ']' ∈ rest
    · obtain ⟨before, tail, rfl, fresh⟩ := split_of_mem closed
      obtain ⟨inside, rfl⟩ : ∃ inside, before = codePoint '[' :: inside := by
        obtain ⟨more, whole⟩ := startsWith_bracket.mp starts
        cases before with
        | nil => exact absurd (List.cons.inj whole).1 (by decide)
        | cons c inside => exact ⟨inside, by rw [(List.cons.inj whole).1]⟩
      have bracketed : Bracketed (codePoint '[' :: inside ++ [codePoint ']']) :=
        ⟨inside, rfl, List.not_mem_of_not_mem_cons fresh⟩
      have whole : codePoint '[' :: inside ++ codePoint ']' :: tail =
          codePoint '[' :: inside ++ [codePoint ']'] ++ tail := by
        rw [List.append_assoc, List.singleton_append]
      rw [whole, split_bracketed bracketed] at split
      cases split
      exact ⟨tail, whole, Or.inl ⟨bracketed, rfl⟩⟩
    · rw [splitHostPort, if_pos starts, cutAfter_fresh closed] at split
      cases split
      exact (given rfl).elim
  · by_cases colon : codePoint ':' ∈ rest
    · obtain ⟨before, after, rfl, fresh⟩ := split_of_mem colon
      have cut : splitHostPort (before ++ codePoint ':' :: after) = (before, after) := by
        rw [splitHostPort, if_neg starts]
        change (cutAt [codePoint ':'] _).getD _ = _
        rw [cutAt_single fresh]
        rfl
      rw [cut] at split
      cases split
      refine ⟨codePoint ':' :: port, rfl, Or.inr ⟨⟨given, fresh, ?_⟩,
        Or.inr (startsWith_colon.mpr ⟨port, rfl⟩), rfl⟩⟩
      refine Bool.eq_false_iff.mpr fun bracket => starts ?_
      obtain ⟨more, rfl⟩ := startsWith_bracket.mp bracket
      exact startsWith_bracket.mpr ⟨_, rfl⟩
    · have cut : splitHostPort rest = (rest, []) := by
        rw [splitHostPort, if_neg starts]
        change (cutAt [codePoint ':'] _).getD _ = _
        rw [cutAt_single_none colon]
        rfl
      rw [cut] at split
      cases split
      exact ⟨[], (List.append_nil _).symm,
        Or.inr ⟨⟨given, colon, Bool.eq_false_iff.mpr starts⟩, Or.inl rfl, rfl⟩⟩

end Split

/-! ### Normal forms -/

/-- A scheme in front of a rest is found. -/
theorem cutAt_scheme {scheme : Text} (known : scheme = ("http" : Text) ∨ scheme = ("https" : Text))
    (rest : Text) : cutAt "://" (scheme ++ (("://" : Text) ++ rest)) = some (scheme, rest) := by
  rcases known with rfl | rfl
  · rfl
  · rfl

theorem format_scheme (scheme rest : Text) :
    Text.format [scheme, "://", rest] = scheme ++ (("://" : Text) ++ rest) := by
  simp only [Text.format, List.flatten_cons, List.flatten_nil, List.append_nil]

/-- The normal form of a scheme in front of a rest. -/
theorem originOf_rest {scheme rest : Text} (known : scheme = ("http" : Text) ∨ scheme = ("https" : Text))
    (clean : Clean rest) (given : rest ≠ []) :
    originOf chars (Text.format [scheme, "://", rest]) = renderOrigin chars scheme (splitHostPort rest) := by
  have cut := cutAt_scheme known rest
  have plain : hasWildcard (scheme ++ (("://" : Text) ++ rest)) = false := by
    refine Bool.eq_false_iff.mpr fun wild => ?_
    rcases List.mem_append.mp (hasWildcard_iff.mp wild) with inside | inside
    · rcases known with rfl | rfl
      · exact absurd inside (by decide)
      · exact absurd inside (by decide)
    · rcases List.mem_append.mp inside with inside | inside
      · exact absurd inside (by decide)
      · exact clean _ (by decide) inside
  have free : holdsOne "/?#@" rest = false := by
    refine List.any_eq_false.mpr fun c member held => ?_
    exact clean c (mem_forbidden.mpr (Or.inl member)) (of_decide_eq_true held)
  have other : ¬ (scheme ++ (("://" : Text) ++ rest) = [] ∨
      scheme ++ (("://" : Text) ++ rest) = ("null" : Text) ∨
      hasWildcard (scheme ++ (("://" : Text) ++ rest)) = true) := by
    rintro (empty | null | wild)
    · exact absurd (List.append_eq_nil_iff.mp (List.append_eq_nil_iff.mp empty).2).1 (by decide)
    · have uncut : cutAt "://" ("null" : Text) = none := rfl
      rw [null, uncut] at cut
      cases cut
    · rw [plain] at wild
      cases wild
  rw [format_scheme, originOf, if_neg other, cut]
  dsimp only
  rw [if_neg (not_and_or.mpr (known.imp not_not.mpr not_not.mpr)), if_neg]
  rintro (empty | held)
  · exact given empty
  · rw [free] at held
    cases held

/-- A normal form is that of a scheme in front of a rest. -/
theorem originOf_cases {text : Text} (formed : originOf chars text ≠ []) :
    ∃ scheme rest, (scheme = ("http" : Text) ∨ scheme = ("https" : Text)) ∧ Clean rest ∧ rest ≠ [] ∧
      text = Text.format [scheme, "://", rest] := by
  unfold originOf at formed
  split at formed
  · exact (formed rfl).elim
  · next other =>
    split at formed
    · exact (formed rfl).elim
    · next scheme rest cut =>
      split at formed
      · exact (formed rfl).elim
      · next known =>
        split at formed
        · exact (formed rfl).elim
        · next free =>
          have whole := cutAt_eq_some cut
          refine ⟨scheme, rest, (not_and_or.mp known).imp not_not.mp not_not.mp, fun c member inside => ?_,
            fun empty => free (Or.inl empty), ?_⟩
          · rcases mem_forbidden.mp member with listed | rfl
            · exact free (Or.inr (List.any_eq_true.mpr ⟨c, listed, decide_eq_true inside⟩))
            · refine other (Or.inr (Or.inr (hasWildcard_iff.mpr ?_)))
              rw [whole]
              exact List.mem_append_right _ inside
          · rw [whole]
            simp only [Text.format, List.flatten_cons, List.flatten_nil, List.append_nil, List.append_assoc]

/-- What stands behind the scheme of an origin and its host. -/
theorem Origin.format_eq (origin : Origin chars) (tail : Text) :
    Text.format [origin.scheme, "://", origin.host ++ tail] =
      Text.format [origin.scheme, "://", origin.host] ++ tail := by
  simp only [Text.format, List.flatten_cons, List.flatten_nil, List.append_nil, List.append_assoc]

theorem Origin.text_bare (origin : Origin chars) (bare : origin.port = []) :
    origin.text = Text.format [origin.scheme, "://", origin.host] := by
  rw [Origin.text, if_pos bare]

theorem Origin.text_port (origin : Origin chars) (given : origin.port ≠ []) :
    origin.text = Text.format [origin.scheme, "://", origin.host ++ codePoint ':' :: origin.port] := by
  rw [Origin.text, if_neg given]
  simp only [Text.format, List.flatten_cons, List.flatten_nil, List.append_nil]
  rfl

theorem Origin.host_ne_nil (origin : Origin chars) : origin.host ≠ [] := by
  rcases origin.host_formed with ⟨inside, bracketed, _⟩ | plain
  · rw [bracketed]
    exact List.cons_ne_nil _ _
  · exact plain.1

/-- A host with nothing or a colon behind it. -/
theorem Origin.split_host (origin : Origin chars) {tail : Text}
    (follows : tail = [] ∨ Text.startsWith tail ":" = true) :
    splitHostPort (origin.host ++ tail) = (origin.host, tail.drop 1) := by
  rcases origin.host_formed with bracketed | plain
  · rw [split_bracketed bracketed]
    rcases follows with rfl | colon
    · rfl
    · rw [if_pos colon]
  · exact split_plain plain follows

theorem Origin.render_eq (origin : Origin chars) :
    renderOrigin chars origin.scheme (origin.host, origin.port) = origin.text := by
  rw [renderOrigin, if_neg origin.host_ne_nil, if_neg, Origin.text]
  rintro ⟨given, undigits⟩
  rw [origin.port_digits.resolve_left given] at undigits
  cases undigits

theorem colon_clean : Clean (":" : Text) := by
  intro c member inside
  rw [List.mem_singleton.mp inside] at member
  exact absurd member (by decide)

/-- The normal form of a text that spells an origin. -/
theorem originOf_spells {text : Text} {origin : Origin chars} (spells : Spells text origin) :
    originOf chars text = origin.text := by
  rcases spells with rfl | ⟨bare, rfl⟩
  · by_cases bare : origin.port = []
    · have split := origin.split_host (Or.inl rfl)
      rw [List.append_nil, List.drop_nil] at split
      conv_lhs => rw [Origin.text_bare origin bare]
      rw [originOf_rest origin.scheme_known origin.host_clean origin.host_ne_nil, split, ← bare]
      exact origin.render_eq
    · have clean : Clean (origin.host ++ codePoint ':' :: origin.port) :=
        Clean.append.mpr ⟨origin.host_clean, Clean.append.mpr ⟨colon_clean, origin.port_clean⟩⟩
      conv_lhs => rw [Origin.text_port origin bare]
      rw [originOf_rest origin.scheme_known clean (List.append_ne_nil_of_left_ne_nil origin.host_ne_nil _),
        origin.split_host (Or.inr (startsWith_colon.mpr ⟨_, rfl⟩))]
      exact origin.render_eq
  · have split : splitHostPort (origin.host ++ (":" : Text)) = (origin.host, []) :=
      origin.split_host (Or.inr (startsWith_colon.mpr ⟨[], rfl⟩))
    have clean : Clean (origin.host ++ (":" : Text)) :=
      Clean.append.mpr ⟨origin.host_clean, colon_clean⟩
    conv_lhs => rw [Origin.text_bare origin bare, ← origin.format_eq]
    rw [originOf_rest origin.scheme_known clean (List.append_ne_nil_of_left_ne_nil origin.host_ne_nil _), split]
    rw [← bare]
    exact origin.render_eq

/-- The normal form of a text that an origin only begins. -/
theorem originOf_trails {text : Text} {origin : Origin chars} (trails : Trails text origin) :
    originOf chars text = origin.text := by
  obtain ⟨bracketed, bare, tail, rfl, given, unported, clean⟩ := trails
  conv_lhs => rw [Origin.text_bare origin bare, ← origin.format_eq]
  rw [originOf_rest origin.scheme_known (Clean.append.mpr ⟨origin.host_clean, clean⟩)
    (List.append_ne_nil_of_left_ne_nil origin.host_ne_nil _), split_bracketed bracketed, unported,
    if_neg Bool.false_ne_true, ← bare]
  exact origin.render_eq

/-- Every normal form is that of an origin the text spells or trails. -/
theorem originOf_named {text : Text} (formed : originOf chars text ≠ []) :
    ∃ origin : Origin chars, originOf chars text = origin.text ∧ (Spells text origin ∨ Trails text origin) := by
  obtain ⟨scheme, rest, known, clean, given, rfl⟩ := originOf_cases formed
  rw [originOf_rest known clean given] at formed ⊢
  obtain ⟨⟨host, port⟩, split⟩ : ∃ parts, splitHostPort rest = parts := ⟨_, rfl⟩
  rw [split] at formed ⊢
  have host_given : host ≠ [] := by
    rintro rfl
    exact formed (if_pos rfl)
  have digits : port = [] ∨ isDigits chars port = true := by
    by_contra wrong
    obtain ⟨nonempty, undigits⟩ := not_or.mp wrong
    refine formed ?_
    rw [renderOrigin, if_neg host_given, if_pos ⟨nonempty, Bool.eq_false_iff.mpr undigits⟩]
  obtain ⟨tail, rfl, shape⟩ := split_cases split host_given
  obtain ⟨host_clean, tail_clean⟩ := Clean.append.mp clean
  have drop_clean : Clean (tail.drop 1) := fun c member inside => tail_clean c member (List.mem_of_mem_drop inside)
  have formed_host : Bracketed host ∨ PlainHost host := shape.imp And.left And.left
  have port_clean : Clean port := by
    rcases shape with ⟨_, rfl⟩ | ⟨_, _, rfl⟩
    · split
      · exact drop_clean
      · exact fun c _ inside => (List.not_mem_nil inside).elim
    · exact drop_clean
  let origin : Origin chars := ⟨scheme, host, port, known, formed_host, host_clean, digits, port_clean⟩
  refine ⟨origin, origin.render_eq, ?_⟩
  -- With nothing or a colon behind the host the text is literal.
  have literal : tail = [] ∨ Text.startsWith tail ":" = true → port = tail.drop 1 →
      Spells (Text.format [scheme, "://", host ++ tail]) origin := by
    intro follows dropped
    rcases follows with rfl | colon
    · rw [List.append_nil]
      exact Or.inl (Origin.text_bare origin dropped).symm
    · obtain ⟨after, rfl⟩ := startsWith_colon.mp colon
      by_cases bare : port = []
      · have none_after : after = [] := dropped.symm.trans bare
        refine Or.inr ⟨bare, ?_⟩
        rw [Origin.text_bare origin bare, none_after]
        exact origin.format_eq _
      · refine Or.inl ?_
        rw [Origin.text_port origin bare]
        change _ = Text.format [scheme, "://", host ++ codePoint ':' :: port]
        rw [dropped]
        rfl
  rcases shape with ⟨bracketed, chosen⟩ | ⟨_, follows, dropped⟩
  · by_cases colon : Text.startsWith tail ":" = true
    · rw [if_pos colon] at chosen
      exact Or.inl (literal (Or.inr colon) chosen)
    · rw [if_neg colon] at chosen
      by_cases empty : tail = []
      · refine Or.inl (literal (Or.inl empty) ?_)
        rw [chosen, empty]
        rfl
      · refine Or.inr ⟨bracketed, chosen, tail, ?_, empty, Bool.eq_false_iff.mpr colon, tail_clean⟩
        rw [Origin.text_bare origin chosen]
        exact origin.format_eq tail
  · exact Or.inl (literal follows dropped)

/-! ### Admission -/

/-- A text is an origin literally, or it is not. -/
theorem not_spells_of_trails {text : Text} {origin other : Origin chars} (trails : Trails text origin) :
    ¬ Spells text other := by
  intro spells
  have same : origin.text = other.text := (originOf_trails trails).symm.trans (originOf_spells spells)
  obtain ⟨_, _, tail, rfl, given, unported, _⟩ := trails
  rcases spells with whole | ⟨_, whole⟩
  · rw [← same] at whole
    exact given (List.append_right_eq_self.mp whole)
  · rw [← same] at whole
    rw [List.append_cancel_left whole] at unported
    exact absurd unported (by decide)

theorem originOf_of_named {text : Text} {origin : Origin chars}
    (named : Spells text origin ∨ Trails text origin) : originOf chars text = origin.text :=
  named.elim originOf_spells originOf_trails

/-- An origin can be read off its text. -/
theorem Origin.parts_eq (origin : Origin chars) :
    ((cutAt "://" origin.text).map fun parts => (parts.1, splitHostPort parts.2)) =
      some (origin.scheme, (origin.host, origin.port)) := by
  by_cases bare : origin.port = []
  · have split := origin.split_host (Or.inl rfl)
    rw [List.append_nil, List.drop_nil] at split
    rw [origin.text_bare bare, format_scheme, cutAt_scheme origin.scheme_known, Option.map_some, split, bare]
  · rw [origin.text_port bare, format_scheme, cutAt_scheme origin.scheme_known, Option.map_some,
      origin.split_host (Or.inr (startsWith_colon.mpr ⟨_, rfl⟩))]
    rfl

/-- Origins are determined by their texts. -/
theorem Origin.text_injective {origin other : Origin chars} (same : origin.text = other.text) :
    origin = other := by
  have parts := origin.parts_eq
  rw [same, other.parts_eq] at parts
  obtain ⟨scheme, host, port, known, formed, clean, digits, clean'⟩ := origin
  obtain ⟨scheme', host', port', _, _, _, _, _⟩ := other
  simp only [Option.some.injEq, Prod.mk.injEq] at parts
  obtain ⟨rfl, rfl, rfl⟩ := parts
  rfl

/-- A text is hardly longer than the origin it spells. -/
theorem length_of_spells {text : Text} {origin : Origin chars} (spells : Spells text origin) :
    origin.text.length ≤ text.length ∧ text.length ≤ origin.text.length + 1 := by
  rcases spells with rfl | ⟨_, rfl⟩
  · exact ⟨le_rfl, Nat.le_succ _⟩
  · rw [List.length_append]
    exact ⟨Nat.le_add_right _ _, le_rfl⟩

/-- Two texts have one normal form if they are one origin, literally or without what follows a bracket. -/
theorem originOf_eq_iff {a b : Text} : originOf chars a = originOf chars b ∧ originOf chars a ≠ [] ↔
    Alike chars a b ∨ Folded chars a b := by
  constructor
  · rintro ⟨same, formed⟩
    obtain ⟨origin, here, named⟩ := originOf_named formed
    obtain ⟨other, there, named'⟩ := originOf_named (same ▸ formed)
    obtain rfl : origin = other := Origin.text_injective (here.symm.trans (same.trans there))
    by_cases trailing : Trails a origin ∨ Trails b origin
    · exact Or.inr ⟨origin, named, named', trailing⟩
    · obtain ⟨literal, literal'⟩ := not_or.mp trailing
      exact Or.inl ⟨origin, named.resolve_right literal, named'.resolve_right literal'⟩
  · have formed : ∀ {origin : Origin chars}, (Spells a origin ∨ Trails a origin) →
        (Spells b origin ∨ Trails b origin) → originOf chars a = originOf chars b ∧ originOf chars a ≠ [] := by
      intro origin named named'
      rw [originOf_of_named named, originOf_of_named named']
      exact ⟨rfl, origin.text_ne_nil⟩
    rintro (⟨origin, spells, spells'⟩ | ⟨origin, named, named', _⟩)
    · exact formed (Or.inl spells) (Or.inl spells')
    · exact formed named named'

/-- Texts are not both one origin literally and folded onto one. -/
theorem not_alike_of_folded {a b : Text} (folded : Folded chars a b) : ¬ Alike chars a b := by
  rintro ⟨origin, spells, spells'⟩
  obtain ⟨_, _, _, trails | trails⟩ := folded
  · exact not_spells_of_trails trails spells
  · exact not_spells_of_trails trails spells'

/-- A header is admitted where an entry is the same origin, literally or folded. -/
theorem originAllowed_iff {header : Text} (present : header.strip ≠ []) (entries : List Text) :
    originAllowed chars (some header) entries = true ↔ ∃ entry ∈ entries,
      Alike chars (trimLower chars header) (trimLower chars entry) ∨
        Folded chars (trimLower chars header) (trimLower chars entry) := by
  unfold originAllowed
  dsimp only
  rw [if_neg present]
  simp only [← originOf_eq_iff]
  by_cases formed : normalizeOrigin chars header = []
  · rw [if_pos formed]
    refine iff_of_false Bool.false_ne_true ?_
    rintro ⟨entry, _, _, nonempty⟩
    exact nonempty formed
  · rw [if_neg formed, List.any_eq_true]
    refine exists_congr fun entry => and_congr_right fun _ => ?_
    rw [decide_eq_true_iff]
    constructor
    · rintro ⟨_, same⟩
      exact ⟨same.symm, formed⟩
    · rintro ⟨same, _⟩
      exact ⟨fun empty => formed (same.trans empty), same.symm⟩

end Origins

/-- **An origin header is admitted exactly if it is spelled as an entry of the allow-list, as long
as no entry is the same origin only without what follows a bracketed host; and normal forms are
folded together nowhere else.** -/
theorem originAllowed_spelled_iff (chars : Characters) (policy : SecurityPolicy chars) (header : Text)
    (present : header.strip ≠ []) :
    ((originAllowed chars (some header) policy.allowedOrigins = true ↔
        ∃ entry ∈ policy.allowedOrigins, Alike chars (trimLower chars header) (trimLower chars entry)) ↔
      ((∃ entry ∈ policy.allowedOrigins, Folded chars (trimLower chars header) (trimLower chars entry)) →
        ∃ entry ∈ policy.allowedOrigins, Alike chars (trimLower chars header) (trimLower chars entry))) ∧
    ∀ a b, (normalizeOrigin chars a = normalizeOrigin chars b → normalizeOrigin chars a ≠ [] →
        trimLower chars a = trimLower chars b ∨ Alike chars (trimLower chars a) (trimLower chars b)) ↔
      (Folded chars (trimLower chars a) (trimLower chars b) → trimLower chars a = trimLower chars b) := by
  constructor
  · rw [originAllowed_iff present]
    constructor
    · rintro spelled ⟨entry, member, folded⟩
      exact spelled.mp ⟨entry, member, Or.inr folded⟩
    · intro accompanied
      constructor
      · rintro ⟨entry, member, alike | folded⟩
        · exact ⟨entry, member, alike⟩
        · exact accompanied ⟨entry, member, folded⟩
      · rintro ⟨entry, member, alike⟩
        exact ⟨entry, member, Or.inl alike⟩
  · intro a b
    constructor
    · intro apart folded
      obtain ⟨same, formed⟩ := originOf_eq_iff.mpr (Or.inr folded)
      exact (apart same formed).resolve_right (not_alike_of_folded folded)
    · intro equal same formed
      rcases originOf_eq_iff.mp ⟨same, formed⟩ with alike | folded
      · exact Or.inr alike
      · exact Or.inl (equal folded)

/-! ### A look-alike -/

/-- ASCII letters and digits. -/
def Characters.ascii : Characters where
  lower text := text.map fun c => if 0x41 ≤ c.val ∧ c.val ≤ 0x5a then Fin.ofNat 0x110000 (c.val + 0x20) else c
  isDigit := Text.isDigitAscii
  lower_nil := rfl

/-- A policy for the IPv6 loopback address. -/
def loopbackPolicy : SecurityPolicy .ascii where
  allowedHosts := ["[::1]"]
  allowedOrigins := ["http://[::1]"]
  hosts_given := List.cons_ne_nil _ _
  origins_given := List.cons_ne_nil _ _
  hosts_plain := by decide +kernel
  origins_plain := by decide +kernel

theorem originAllowed_spelled_loopback :
    ((originAllowed .ascii (some "http://[::1]:") loopbackPolicy.allowedOrigins = true ↔
        ∃ entry ∈ loopbackPolicy.allowedOrigins,
          Alike .ascii (trimLower .ascii "http://[::1]:") (trimLower .ascii entry)) ↔
      ((∃ entry ∈ loopbackPolicy.allowedOrigins,
          Folded .ascii (trimLower .ascii "http://[::1]:") (trimLower .ascii entry)) →
        ∃ entry ∈ loopbackPolicy.allowedOrigins,
          Alike .ascii (trimLower .ascii "http://[::1]:") (trimLower .ascii entry))) ∧
    ∀ a b, (normalizeOrigin .ascii a = normalizeOrigin .ascii b → normalizeOrigin .ascii a ≠ [] →
        trimLower .ascii a = trimLower .ascii b ∨ Alike .ascii (trimLower .ascii a) (trimLower .ascii b)) ↔
      (Folded .ascii (trimLower .ascii a) (trimLower .ascii b) →
        trimLower .ascii a = trimLower .ascii b) :=
  originAllowed_spelled_iff .ascii loopbackPolicy "http://[::1]:" (by decide +kernel)

/-- `http://[::1].evil.example` is admitted, and is no entry. -/
theorem origin_lookalike :
    originAllowed .ascii (some "http://[::1].evil.example") loopbackPolicy.allowedOrigins = true ∧
      ¬ ∃ entry ∈ loopbackPolicy.allowedOrigins,
        Alike .ascii (trimLower .ascii "http://[::1].evil.example") (trimLower .ascii entry) := by
  refine ⟨by decide +kernel, ?_⟩
  rintro ⟨entry, member, origin, spells, spells'⟩
  obtain rfl := List.mem_singleton.mp member
  have long := (length_of_spells spells).2
  have short := (length_of_spells spells').1
  have header : (trimLower .ascii "http://[::1].evil.example").length = 25 := by decide +kernel
  have listed : (trimLower .ascii "http://[::1]").length = 12 := by decide +kernel
  omega

end AxiomMcp.Security
