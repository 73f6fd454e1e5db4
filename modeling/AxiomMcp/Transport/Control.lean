/-
**The control client's bounded retries (`control_client.py`).**

A call of `HttpControlClient` sends its request again after a `429`, a `503` or a failed transport, at most
`max_attempts` times, and sleeps in between: for as long as `Retry-After` says, or for a backoff that doubles.

* `Number`: the numbers of the interpreter by their value, with its order, `min` and the double nearest to a count;
* `delay`, `errorFrom`, `payload`, `request`: the client;
* `Closed`: what a call promises of its requests, sleeps and answer;
* `request_closed_iff`: **it keeps that promise exactly when every attempt it comes to is harmless**: the answer's
  body nests no deeper than the decoder goes, a `Retry-After` it would sleep for has no digit that is not a decimal,
  and a backoff it would sleep for is a number.
-/

import AxiomMcp.Tools.Recovery
import Mathlib.Order.WithBot

namespace AxiomMcp.Transport

open Lib
open Tools (AxiomError ErrorCode canonicalCodes)

/-! ### Numbers -/

/-- An `int`, or a `float` by its value. -/
inductive Number
  | whole (value : ℤ)
  | finite (value : ℚ)
  | infinite (negative : Bool)
  | nan
  deriving DecidableEq

namespace Number

/-- The place of a number in the order; `nan` has none. -/
def place : Number → Option (WithBot (WithTop ℚ))
  | .whole value => some (((value : ℚ) : WithTop ℚ) : WithBot (WithTop ℚ))
  | .finite value => some ((value : WithTop ℚ) : WithBot (WithTop ℚ))
  | .infinite negative => some (if negative then ⊥ else ((⊤ : WithTop ℚ) : WithBot (WithTop ℚ)))
  | .nan => none

/-- `x < y` -/
def lt (x y : Number) : Bool :=
  match x.place, y.place with
  | some first, some second => decide (first < second)
  | _, _ => false

/-- `x <= y` -/
def le (x y : Number) : Bool :=
  match x.place, y.place with
  | some first, some second => decide (first ≤ second)
  | _, _ => false

/-- `min(x, y)` -/
def min (x y : Number) : Number := if y.lt x then y else x

/-- The double of a value that needs no rounding: out of range it is infinite. -/
def inRange (value : ℚ) : Number :=
  if |value| < 2 ^ 1024 then .finite value else .infinite (decide (value < 0))

/-- `x * 2 ** exponent`: exact, but for a double that leaves the range. -/
def scaled (exponent : ℕ) : Number → Number
  | .whole value => .whole (value * 2 ^ exponent)
  | .finite value => inRange (value * 2 ^ exponent)
  | .infinite negative => .infinite negative
  | .nan => .nan

/-- The double nearest to a count, the even one of two. -/
def ofCount (count : ℕ) : Number :=
  let dropped := count.log2 + 1 - 53
  let low := count / 2 ^ dropped
  let rest := count % 2 ^ dropped
  let rounded := if 2 * rest < 2 ^ dropped ∨ 2 * rest = 2 ^ dropped ∧ low % 2 = 0 then low else low + 1
  inRange ((rounded * 2 ^ dropped : ℕ) : ℚ)

@[simp] theorem place_eq_none {x : Number} : x.place = none ↔ x = .nan := by
  cases x <;> simp [place]

theorem lt_of_places {x y : Number} {first second : WithBot (WithTop ℚ)} (at_x : x.place = some first)
    (at_y : y.place = some second) : x.lt y = decide (first < second) := by
  unfold lt
  rw [at_x, at_y]

theorem le_of_places {x y : Number} {first second : WithBot (WithTop ℚ)} (at_x : x.place = some first)
    (at_y : y.place = some second) : x.le y = decide (first ≤ second) := by
  unfold le
  rw [at_x, at_y]

theorem places_of_lt {x y : Number} (below : x.lt y = true) :
    ∃ first second, x.place = some first ∧ y.place = some second ∧ first < second := by
  unfold lt at below
  split at below
  · next first second at_x at_y => exact ⟨first, second, at_x, at_y, of_decide_eq_true below⟩
  · cases below

theorem places_of_le {x y : Number} (below : x.le y = true) :
    ∃ first second, x.place = some first ∧ y.place = some second ∧ first ≤ second := by
  unfold le at below
  split at below
  · next first second at_x at_y => exact ⟨first, second, at_x, at_y, of_decide_eq_true below⟩
  · cases below

/-- What is not below zero and not `nan` is at least zero. -/
theorem nonnegative {x : Number} (number : x ≠ .nan) (low : x.lt (.whole 0) = false) :
    (whole 0).le x = true := by
  cases at_x : x.place with
  | none => exact absurd (place_eq_none.mp at_x) number
  | some first =>
    rw [lt_of_places at_x rfl] at low
    rw [le_of_places rfl at_x]
    exact decide_eq_true (not_lt.mp (of_decide_eq_false low))

/-- The smaller of a number that is at least zero and a positive one. -/
theorem min_between {x bound : Number} (low : (whole 0).le x = true) (positive : (whole 0).lt bound = true) :
    (whole 0).le (min x bound) = true ∧ (min x bound).le bound = true := by
  obtain ⟨zero, first, at_zero, at_x, least⟩ := places_of_le low
  obtain ⟨_, second, at_zero', at_bound, above⟩ := places_of_lt positive
  obtain rfl := Option.some.inj (at_zero.symm.trans at_zero')
  unfold min
  rw [lt_of_places at_bound at_x]
  by_cases below : second < first
  · rw [if_pos (decide_eq_true below), le_of_places at_zero at_bound, le_of_places at_bound at_bound]
    exact ⟨decide_eq_true above.le, decide_eq_true le_rfl⟩
  · rw [if_neg fun wrong => below (of_decide_eq_true wrong), le_of_places at_x at_bound]
    exact ⟨low, decide_eq_true (not_lt.mp below)⟩

theorem min_nan (bound : Number) : min .nan bound = .nan := by
  unfold min lt
  cases bound.place <;> rfl

theorem le_nan (x : Number) : x.le .nan = false := by
  unfold le
  cases x.place <;> rfl

theorem inRange_nonnegative {value : ℚ} (low : 0 ≤ value) : (whole 0).le (inRange value) = true := by
  unfold inRange
  split
  · simpa [le, place] using low
  · simp [le, place, not_lt.mpr low]

theorem ofCount_nonnegative (count : ℕ) : (whole 0).le (ofCount count) = true :=
  inRange_nonnegative (Nat.cast_nonneg _)

theorem scaled_nonnegative {x : Number} (exponent : ℕ) (low : (whole 0).le x = true) :
    (whole 0).le (x.scaled exponent) = true := by
  cases x with
  | whole value =>
    have positive : 0 ≤ value := by simpa [le, place] using low
    have product : 0 ≤ value * 2 ^ exponent := mul_nonneg positive (pow_nonneg (by decide) _)
    have cast : (0 : ℚ) ≤ ((value * 2 ^ exponent : ℤ) : ℚ) := by exact_mod_cast product
    simp only [le, place, scaled, Int.cast_zero, decide_eq_true_eq, WithBot.coe_le_coe, WithTop.coe_le_coe]
    exact cast
  | finite value =>
    have positive : 0 ≤ value := by simpa [le, place] using low
    exact inRange_nonnegative (mul_nonneg positive (pow_nonneg zero_le_two _))
  | infinite negative => exact low
  | nan => exact low

end Number

/-- The numerals of the character database. -/
structure Numerals where
  /-- `c.isdigit()` -/
  isDigit : CodePoint → Bool
  /-- The decimal digit a character stands for. -/
  decimal : CodePoint → Option ℕ
  decimal_isDigit : ∀ c, (decimal c).isSome → isDigit c

namespace Numerals

variable (numerals : Numerals)

/-- `text.isdigit()` -/
def isdigit (text : Text) : Bool := !text.isEmpty && text.all numerals.isDigit

/-- All characters are decimal digits. -/
def isdecimal (text : Text) : Bool := text.all fun c => (numerals.decimal c).isSome

/-- The count a text of decimal digits writes. -/
def count (text : Text) : ℕ := text.foldl (fun total c => 10 * total + (numerals.decimal c).getD 0) 0

/-- `float(text)` of a text that `isdigit`; nothing where that is a `ValueError`. -/
def float? (text : Text) : Option Number :=
  if numerals.isdecimal text then some (Number.ofCount (numerals.count text)) else none

end Numerals

/-! ### Settings -/

theorem three_admitted : 1 ≤ 3 ∧ 3 ≤ 5 := by decide

/-- `ControlClientSettings` -/
structure ControlClientSettings where
  baseUrl : Text
  timeout : Number
  maxAttempts : ℕ
  backoff : Number
  maxBackoff : Number
  absolute : baseUrl.startsWith "http://" ∨ baseUrl.startsWith "https://"
  timeoutPositive : (Number.whole 0).lt timeout
  bounded : 1 ≤ maxAttempts ∧ maxAttempts ≤ 5
  backoffNotNegative : backoff.lt (.whole 0) = false
  maxBackoffPositive : (Number.whole 0).lt maxBackoff

theorem local_absolute : Text.startsWith "http://127.0.0.1:8766" "http://" = true ∨
    Text.startsWith "http://127.0.0.1:8766" "https://" = true := Or.inl (by decide +kernel)

theorem default_timeout : (Number.whole 0).lt (.finite 5) = true := by decide +kernel

theorem default_backoff : (Number.finite (1 / 4)).lt (.whole 0) = false := by decide +kernel

theorem default_maxBackoff : (Number.whole 0).lt (.finite 2) = true := by decide +kernel

/-- `ControlClientSettings()` -/
def defaultControlClientSettings : ControlClientSettings where
  baseUrl := "http://127.0.0.1:8766"
  timeout := .finite 5
  maxAttempts := 3
  backoff := .finite (1 / 4)
  maxBackoff := .finite 2
  absolute := local_absolute
  timeoutPositive := default_timeout
  bounded := three_admitted
  backoffNotNegative := default_backoff
  maxBackoffPositive := default_maxBackoff

/-- `ControlClientSettings(base_url, timeout_s, max_attempts, backoff_s, max_backoff_s)` -/
def ControlClientSettings.make (baseUrl : Text) (timeout : Number) (maxAttempts : ℤ) (backoff maxBackoff : Number) :
    Except AxiomError ControlClientSettings :=
  let invalid (message field : Text) : Except AxiomError ControlClientSettings :=
    .error ⟨.validationError, message, [("field", .str field)], none⟩
  if absolute : baseUrl.startsWith "http://" ∨ baseUrl.startsWith "https://" then
    if timeoutPositive : (Number.whole 0).lt timeout then
      if bounded : 1 ≤ maxAttempts ∧ maxAttempts ≤ 5 then
        if rest : backoff.lt (.whole 0) = false ∧ (Number.whole 0).lt maxBackoff then
          .ok ⟨baseUrl, timeout, maxAttempts.toNat, backoff, maxBackoff, absolute, timeoutPositive,
            ⟨(Int.le_toNat (by omega)).mpr bounded.1, Int.toNat_le.mpr bounded.2⟩, rest.1, rest.2⟩
        else invalid "backoff_s must be non-negative and max_backoff_s positive" "backoff_s"
      else .error ⟨.limitExceeded, "max_attempts must be between 1 and 5",
        [("field", .str "max_attempts"), ("maximum", .int 5)], none⟩
    else invalid "timeout_s must be a positive number" "timeout_s"
  else invalid "control base_url must be an absolute http(s) URL" "base_url"

/-! ### The client -/

/-- What `response.json()` comes to. -/
inductive Decoded
  | document (value : Json)
  /-- A `ValueError`. -/
  | refused
  /-- A `RecursionError`: the body nests too deep. -/
  | tooDeep

/-- A response, by what the client reads of it. -/
structure Response where
  status : ℕ
  /-- `headers.get("retry-after")` -/
  retryAfter : Option Text
  json : Decoded

/-- What one attempt comes to: a response, or an `httpx.HTTPError`. -/
inductive Attempt
  | response (response : Response)
  | fault

/-- What a call raises. -/
inductive CallRaised
  | answered (error : AxiomError)
  /-- The `ValueError` of `float`. -/
  | value
  /-- A `RecursionError` -/
  | recursion
  /-- An `AssertionError` -/
  | assertion

/-- `CONTROL_API_RETRY_STATUSES` -/
def controlApiRetryStatuses : List ℕ := [429, 503]

/-- `_STATUS_CODE_FALLBACK` -/
def statusCodeFallback : List (ℕ × ErrorCode) :=
  [(400, .validationError), (401, .unauthenticated), (403, .forbidden), (404, .notFound), (409, .conflict),
    (422, .incompatibleInput), (429, .rateLimited), (503, .notReady)]

/-- What a call did: its answer, its sleeps in order, and the requests it sent. -/
structure Call where
  answer : Except CallRaised JsonObject
  sleeps : List Number
  requests : ℕ

section Client

variable (numerals : Numerals) (settings : ControlClientSettings)

/-- The header `_delay` looks at. -/
def retryHeader (response : Response) : Text := (response.retryAfter.getD []).strip

/-- The backoff of an attempt, by `_delay`. -/
def backoffDelay (attempt : ℕ) : Number := Number.min (settings.backoff.scaled (attempt - 1)) settings.maxBackoff

/-- `_delay(response, attempt)` -/
def delay (response : Option Response) (attempt : ℕ) : Except CallRaised Number :=
  match response with
  | some answer =>
    if numerals.isdigit (retryHeader answer) then
      match numerals.float? (retryHeader answer) with
      | some seconds => .ok (Number.min seconds settings.maxBackoff)
      | none => .error .value
    else .ok (backoffDelay settings attempt)
  | none => .ok (backoffDelay settings attempt)

/-- The code and the details an error body brings. -/
def upstreamError (document : Option Json) : Option ErrorCode × JsonObject :=
  match document with
  | some (.obj entries) =>
    (match Json.get? entries "code" with
      | some (.str candidate) => canonicalCodes.find? fun known => known.name = candidate
      | _ => none,
    match Json.get? entries "details" with
      | some (.obj details) => details
      | _ => [])
  | _ => (none, [])

/-- `_error_from(response)` -/
def errorFrom (response : Response) : Except CallRaised AxiomError :=
  let made (document : Option Json) : AxiomError :=
    ⟨(upstreamError document).1.getD ((statusCodeFallback.lookup response.status).getD .daemonUnavailable),
      Text.format ["the graphd control plane refused the request with HTTP ", Text.ofNat response.status],
      (upstreamError document).2, none⟩
  match response.json with
  | .document value => .ok (made (some value))
  | .refused => .ok (made none)
  | .tooDeep => .error .recursion

/-- `_payload(response)` -/
def payload (response : Response) : Except CallRaised JsonObject :=
  match response.json with
  | .document (.obj entries) => .ok entries
  | .document _ => .error (.answered
      ⟨.daemonUnavailable, "the graphd control plane answered with a non-object payload", [], none⟩)
  | .refused => .error (.answered
      ⟨.daemonUnavailable, "the graphd control plane answered with a non-JSON body", [], none⟩)
  | .tooDeep => .error .recursion

/-- The error of a failed transport. -/
def unreachable : AxiomError :=
  ⟨.daemonUnavailable, "the graphd control plane is unreachable", [], some true⟩

/-- A sleep before the rest of a call. -/
def Call.after (seconds : Number) (rest : Call) : Call := { rest with sleeps := seconds :: rest.sleeps }

variable (attempts : ℕ → Attempt)

/-- The loop of `_request` after `sent` requests, with `remaining` more to send. -/
def requestFrom : ℕ → ℕ → Option AxiomError → Call
  | 0, sent, last => ⟨match last with
      | some error => .error (.answered error)
      | none => .error .assertion, [], sent⟩
  | remaining + 1, sent, _ =>
    match attempts sent with
    | .fault =>
      if remaining ≠ 0 then
        (requestFrom remaining (sent + 1) (some unreachable)).after (backoffDelay settings (sent + 1))
      else requestFrom remaining (sent + 1) (some unreachable)
    | .response response =>
      if response.status < 400 then ⟨payload response, [], sent + 1⟩
      else
        match errorFrom response with
        | .error raised => ⟨.error raised, [], sent + 1⟩
        | .ok error =>
          if response.status ∈ controlApiRetryStatuses ∧ remaining ≠ 0 then
            match delay numerals settings (some response) (sent + 1) with
            | .error raised => ⟨.error raised, [], sent + 1⟩
            | .ok seconds => (requestFrom remaining (sent + 1) (some error)).after seconds
          else ⟨.error (.answered error), [], sent + 1⟩

/-- `_request(...)`, of the attempts it would make in order. -/
def request : Call := requestFrom numerals settings attempts settings.maxAttempts 0 none

/-! ### What a call promises -/

/-- A call's requests, sleeps and answer keep to its settings. -/
structure Closed (call : Call) : Prop where
  bounded : call.requests ≤ settings.maxAttempts
  slept : ∀ seconds ∈ call.sleeps, (Number.whole 0).le seconds = true ∧ seconds.le settings.maxBackoff = true
  /-- An error status that is not retried is the last answer. -/
  terminal : ∀ k < call.requests, ∀ response, attempts k = .response response → 400 ≤ response.status →
    response.status ∉ controlApiRetryStatuses → k + 1 = call.requests
  /-- So is a response below 400. -/
  first : ∀ k < call.requests, ∀ response, attempts k = .response response → response.status < 400 →
    k + 1 = call.requests
  returned : ∀ entries, call.answer = .ok entries → ∃ k response, k + 1 = call.requests ∧
    attempts k = .response response ∧ response.status < 400 ∧ response.json = .document (.obj entries)
  raised : ∀ raised, call.answer = .error raised → ∃ error, raised = .answered error

/-- An attempt that is followed by another one while any are left. -/
def Retried : Attempt → Prop
  | .fault => True
  | .response response => response.status ∈ controlApiRetryStatuses

/-- The body decodes or is refused, and if it comes to a sleep there is a number to sleep for. -/
def Harmless (again : Prop) : Attempt → Prop
  | .fault => again → settings.backoff ≠ .nan
  | .response response => response.json ≠ .tooDeep ∧
      (response.status ∈ controlApiRetryStatuses → again →
        if numerals.isdigit (retryHeader response) then numerals.isdecimal (retryHeader response) = true
        else settings.backoff ≠ .nan)

/-- A sleep within the bounds. -/
def Within (seconds : Number) : Prop := (Number.whole 0).le seconds = true ∧ seconds.le settings.maxBackoff = true

/-- The part of the promise that the answers can break. -/
def Quiet (call : Call) : Prop :=
  (∀ seconds ∈ call.sleeps, Within settings seconds) ∧
    ∀ raised, call.answer = .error raised → ∃ error, raised = .answered error

/-- The part they cannot break, of a loop that has sent some requests. -/
structure Orderly (sent remaining : ℕ) (call : Call) : Prop where
  least : sent ≤ call.requests
  bounded : call.requests ≤ sent + remaining
  terminal : ∀ k, sent ≤ k → k < call.requests → ∀ response, attempts k = .response response →
    response.status ∉ controlApiRetryStatuses → k + 1 = call.requests
  returned : ∀ entries, call.answer = .ok entries → ∃ k response, k + 1 = call.requests ∧
    attempts k = .response response ∧ response.status < 400 ∧ response.json = .document (.obj entries)

variable {numerals settings attempts}

theorem not_retried_of_low {status : ℕ} (low : status < 400) : status ∉ controlApiRetryStatuses := by
  unfold controlApiRetryStatuses
  simp
  omega

/-- A call that ends with an attempt. -/
theorem orderly_ends {sent remaining : ℕ} {answer : Except CallRaised JsonObject}
    (returned : ∀ entries, answer = .ok entries → ∃ response, attempts sent = .response response ∧
      response.status < 400 ∧ response.json = .document (.obj entries)) :
    Orderly attempts sent (remaining + 1) ⟨answer, [], sent + 1⟩ where
  least := Nat.le_succ _
  bounded := by
    dsimp only
    omega
  terminal k from_k to_k _ _ _ := by
    dsimp only at to_k ⊢
    omega
  returned entries same :=
    have ⟨response, answers, low, decoded⟩ := returned entries same
    ⟨sent, response, rfl, answers, low, decoded⟩

/-- A call that goes on after an attempt. -/
theorem orderly_next {sent remaining : ℕ} {call : Call} (retried : Retried (attempts sent))
    (rest : Orderly attempts (sent + 1) remaining call) : Orderly attempts sent (remaining + 1) call where
  least := (Nat.le_succ _).trans rest.least
  bounded := by
    have bound := rest.bounded
    omega
  terminal k from_k to_k response answers not_retried := by
    rcases Nat.eq_or_lt_of_le from_k with rfl | later
    · rw [answers] at retried
      exact absurd retried not_retried
    · exact rest.terminal k later to_k response answers not_retried
  returned := rest.returned

theorem orderly_after {sent remaining : ℕ} {call : Call} (seconds : Number)
    (orderly : Orderly attempts sent remaining call) : Orderly attempts sent remaining (call.after seconds) :=
  ⟨orderly.least, orderly.bounded, orderly.terminal, orderly.returned⟩

theorem payload_ok {response : Response} {entries : JsonObject} (same : payload response = .ok entries) :
    response.json = .document (.obj entries) := by
  unfold payload at same
  split at same
  · next found decoded =>
    obtain rfl := Except.ok.inj same
    exact decoded
  all_goals cases same

/-- The loop is orderly, whatever the answers. -/
theorem requestFrom_orderly (remaining sent : ℕ) (last : Option AxiomError) :
    Orderly attempts sent remaining (requestFrom numerals settings attempts remaining sent last) := by
  induction remaining generalizing sent last with
  | zero =>
    unfold requestFrom
    refine ⟨le_rfl, le_rfl, ?_, ?_⟩
    · intro k from_k to_k
      exact absurd to_k (not_lt.mpr from_k)
    · intro entries same
      dsimp only at same
      split at same <;> cases same
  | succ remaining hypothesis =>
    unfold requestFrom
    split
    · next faulted =>
      have retried : Retried (attempts sent) := by
        rw [faulted]
        trivial
      split
      · exact orderly_after _ (orderly_next retried (hypothesis _ _))
      · exact orderly_next retried (hypothesis _ _)
    · next response answers =>
      split
      · next low =>
        exact orderly_ends fun entries same => ⟨response, answers, low, payload_ok same⟩
      · next high =>
        split
        · exact orderly_ends fun _ wrong => nomatch wrong
        · split
          · next again =>
            split
            · exact orderly_ends fun _ wrong => nomatch wrong
            · refine orderly_after _ (orderly_next ?_ (hypothesis _ _))
              rw [answers]
              exact again.1
          · exact orderly_ends fun _ wrong => nomatch wrong

/-! ### The harmless attempts -/

theorem backoffDelay_within_iff {attempt : ℕ} :
    Within settings (backoffDelay settings attempt) ↔ settings.backoff ≠ .nan := by
  unfold Within backoffDelay
  constructor
  · rintro ⟨low, _⟩ nan
    rw [nan, Number.scaled, Number.min_nan, Number.le_nan] at low
    cases low
  · intro number
    have low := Number.nonnegative number settings.backoffNotNegative
    exact Number.min_between (Number.scaled_nonnegative _ low) settings.maxBackoffPositive

/-- A sleep for an answer: the header is no run of digits, or one of decimal digits. -/
theorem delay_within_iff {response : Response} {attempt : ℕ} :
    (∃ seconds, delay numerals settings (some response) attempt = .ok seconds ∧ Within settings seconds) ↔
      if numerals.isdigit (retryHeader response) then numerals.isdecimal (retryHeader response) = true
      else settings.backoff ≠ .nan := by
  unfold delay Numerals.float?
  dsimp only
  split
  · split
    · next seconds reads =>
      split at reads
      · next decimals =>
        have low : (Number.whole 0).le seconds = true :=
          Option.some.inj reads ▸ Number.ofCount_nonnegative _
        exact ⟨fun _ => decimals, fun _ => ⟨_, rfl, Number.min_between low settings.maxBackoffPositive⟩⟩
      · cases reads
    · next fails =>
      split at fails
      · cases fails
      · next other =>
        constructor
        · rintro ⟨_, wrong, _⟩
          cases wrong
        · intro decimals
          exact absurd decimals other
  · rw [← @backoffDelay_within_iff settings attempt]
    constructor
    · rintro ⟨seconds, same, within⟩
      rw [Except.ok.inj same]
      exact within
    · intro within
      exact ⟨_, rfl, within⟩

theorem errorFrom_ok_iff {response : Response} :
    (∃ error, errorFrom response = .ok error) ↔ response.json ≠ .tooDeep := by
  unfold errorFrom
  cases response.json with
  | document value => exact ⟨fun _ wrong => (nomatch wrong), fun _ => ⟨_, rfl⟩⟩
  | refused => exact ⟨fun _ wrong => (nomatch wrong), fun _ => ⟨_, rfl⟩⟩
  | tooDeep => exact ⟨fun ⟨_, wrong⟩ => (nomatch wrong), fun wrong => absurd rfl wrong⟩

theorem quiet_ends_iff {answer : Except CallRaised JsonObject} {sent : ℕ} :
    Quiet settings ⟨answer, [], sent⟩ ↔ ∀ raised, answer = .error raised → ∃ error, raised = .answered error :=
  ⟨fun quiet => quiet.2, fun raised => ⟨fun _ wrong => (nomatch wrong), raised⟩⟩

theorem quiet_error_iff {raised : CallRaised} {sent : ℕ} :
    Quiet settings ⟨.error raised, [], sent⟩ ↔ ∃ error, raised = .answered error := by
  rw [quiet_ends_iff]
  constructor
  · intro closed
    exact closed raised rfl
  · rintro answered _ same
    exact Except.error.inj same ▸ answered

theorem quiet_after_iff {seconds : Number} {call : Call} :
    Quiet settings (call.after seconds) ↔ Within settings seconds ∧ Quiet settings call := by
  unfold Quiet Call.after
  rw [List.forall_mem_cons, and_assoc]

theorem quiet_payload_iff {response : Response} {sent : ℕ} :
    Quiet settings ⟨payload response, [], sent⟩ ↔ response.json ≠ .tooDeep := by
  rw [quiet_ends_iff]
  unfold payload
  split
  · next decoded =>
    rw [decoded]
    exact ⟨fun _ wrong => (nomatch wrong), fun _ _ wrong => (nomatch wrong)⟩
  · next decoded =>
    rw [decoded]
    exact ⟨fun _ wrong => (nomatch wrong), fun _ _ same => ⟨_, (Except.error.inj same).symm⟩⟩
  · next decoded =>
    rw [decoded]
    exact ⟨fun _ wrong => (nomatch wrong), fun _ _ same => ⟨_, (Except.error.inj same).symm⟩⟩
  · next decoded =>
    rw [decoded]
    constructor
    · intro closed
      obtain ⟨_, wrong⟩ := closed _ rfl
      cases wrong
    · intro wrong
      exact absurd rfl wrong

/-- Every attempt the loop comes to is harmless. -/
def Safe (numerals : Numerals) (settings : ControlClientSettings) (attempts : ℕ → Attempt) (sent remaining : ℕ) :
    Prop :=
  ∀ k, sent ≤ k → k < sent + remaining → (∀ j, sent ≤ j → j < k → Retried (attempts j)) →
    Harmless numerals settings (k + 1 < sent + remaining) (attempts k)

theorem harmless_congr {again again' : Prop} (same : again ↔ again') {attempt : Attempt} :
    Harmless numerals settings again attempt ↔ Harmless numerals settings again' attempt := by
  rw [propext same]

/-- The first attempt, and those after it if there are any. -/
theorem safe_succ_iff {sent remaining : ℕ} :
    Safe numerals settings attempts sent (remaining + 1) ↔
      Harmless numerals settings (remaining ≠ 0) (attempts sent) ∧
        (Retried (attempts sent) → Safe numerals settings attempts (sent + 1) remaining) := by
  have first : (sent + 1 < sent + (remaining + 1)) ↔ remaining ≠ 0 := by omega
  constructor
  · intro safe
    constructor
    · rw [← harmless_congr first]
      refine safe sent le_rfl (by omega) fun j from_j to_j => ?_
      exact absurd to_j (not_lt.mpr from_j)
    · intro retried k from_k to_k before
      have later : (k + 1 < sent + (remaining + 1)) ↔ k + 1 < sent + 1 + remaining := by omega
      rw [← harmless_congr later]
      refine safe k (by omega) (by omega) fun j from_j to_j => ?_
      rcases Nat.eq_or_lt_of_le from_j with rfl | after
      · exact retried
      · exact before j after to_j
  · rintro ⟨harmless, rest⟩ k from_k to_k before
    rcases Nat.eq_or_lt_of_le from_k with rfl | after
    · rw [harmless_congr first]
      exact harmless
    · have later : (k + 1 < sent + (remaining + 1)) ↔ k + 1 < sent + 1 + remaining := by omega
      rw [harmless_congr later]
      exact rest (before sent le_rfl after) k after (by omega) fun j from_j to_j => before j (by omega) to_j

/-- The loop is quiet exactly when the attempts it comes to are harmless. -/
theorem requestFrom_quiet_iff (remaining sent : ℕ) (last : Option AxiomError) (some : remaining = 0 → last ≠ none) :
    Quiet settings (requestFrom numerals settings attempts remaining sent last) ↔
      Safe numerals settings attempts sent remaining := by
  induction remaining generalizing sent last with
  | zero =>
    obtain ⟨error, rfl⟩ := Option.ne_none_iff_exists'.mp (some rfl)
    unfold requestFrom
    rw [quiet_error_iff]
    exact ⟨fun _ k from_k to_k => absurd to_k (not_lt.mpr from_k), fun _ => ⟨error, rfl⟩⟩
  | succ remaining hypothesis =>
    have next : ∀ error, Quiet settings
      (requestFrom numerals settings attempts remaining (sent + 1) (.some error)) ↔
        Safe numerals settings attempts (sent + 1) remaining :=
      fun error => hypothesis (sent + 1) (.some error) fun _ wrong => nomatch wrong
    rw [safe_succ_iff]
    unfold requestFrom
    split
    · next faulted =>
      rw [faulted]
      unfold Harmless Retried
      dsimp only
      split
      · next again =>
        rw [quiet_after_iff, backoffDelay_within_iff, next]
        exact ⟨fun both => ⟨fun _ => both.1, fun _ => both.2⟩, fun both => ⟨both.1 again, both.2 trivial⟩⟩
      · next spent =>
        rw [next]
        exact ⟨fun rest => ⟨fun again => absurd again spent, fun _ => rest⟩, fun both => both.2 trivial⟩
    · next response answers =>
      rw [answers]
      unfold Harmless Retried
      dsimp only
      split
      · next low =>
        have other := not_retried_of_low low
        rw [quiet_payload_iff]
        exact ⟨fun decodes => ⟨⟨decodes, fun wrong => absurd wrong other⟩, fun wrong => absurd wrong other⟩,
          fun both => both.1.1⟩
      · split
        · next raised fails =>
          have deep : ¬ response.json ≠ .tooDeep := by
            rw [← errorFrom_ok_iff]
            rintro ⟨error, same⟩
            cases fails.symm.trans same
          have recursion : ¬ ∃ error, raised = .answered error := by
            rintro ⟨error, rfl⟩
            unfold errorFrom at fails
            split at fails <;> cases fails
          rw [quiet_error_iff]
          exact ⟨fun wrong => absurd wrong recursion, fun both => absurd both.1.1 deep⟩
        · next error decoded =>
          have decodes : response.json ≠ .tooDeep := errorFrom_ok_iff.mp ⟨error, decoded⟩
          split
          · next again =>
            rw [← @delay_within_iff numerals settings response (sent + 1)]
            split
            · next raised fails =>
              have value : ¬ ∃ error, raised = .answered error := by
                rintro ⟨error, rfl⟩
                unfold delay at fails
                dsimp only at fails
                split at fails
                · split at fails <;> cases fails
                · cases fails
              rw [quiet_error_iff]
              constructor
              · intro wrong
                exact absurd wrong value
              · intro both
                obtain ⟨seconds, same, _⟩ := both.1.2 again.1 again.2
                cases fails.symm.trans same
            · next seconds sleeps =>
              rw [quiet_after_iff, next]
              constructor
              · rintro ⟨within, rest⟩
                exact ⟨⟨decodes, fun _ _ => ⟨seconds, sleeps, within⟩⟩, fun _ => rest⟩
              · rintro ⟨⟨_, waits⟩, rest⟩
                obtain ⟨seconds', same, within⟩ := waits again.1 again.2
                rw [Except.ok.inj (sleeps.symm.trans same)]
                exact ⟨within, rest again.1⟩
          · next spent =>
            rw [quiet_error_iff]
            constructor
            · intro _
              refine ⟨⟨decodes, fun status left => absurd ⟨status, left⟩ spent⟩, fun status k from_k to_k => ?_⟩
              exact absurd ⟨status, by omega⟩ spent
            · intro _
              exact ⟨error, rfl⟩

/-- **Closed exactly when harmless.** A call sends at most its attempts, sleeps within its bounds, ends at the first
answer that is not retried, and returns the object of the first answer below 400 or raises an `AxiomError`, exactly
when every attempt that follows retried ones only is harmless. -/
theorem request_closed_iff (numerals : Numerals) (settings : ControlClientSettings) (attempts : ℕ → Attempt) :
    Closed settings attempts (request numerals settings attempts) ↔
      ∀ k < settings.maxAttempts, (∀ j < k, Retried (attempts j)) →
        Harmless numerals settings (k + 1 < settings.maxAttempts) (attempts k) := by
  have orderly := @requestFrom_orderly numerals settings attempts settings.maxAttempts 0 none
  have positive := settings.bounded.1
  have quiet := @requestFrom_quiet_iff numerals settings attempts settings.maxAttempts 0 none (by omega)
  unfold Safe at quiet
  simp only [Nat.zero_le, Nat.zero_add, forall_const] at quiet
  rw [← quiet]
  constructor
  · intro closed
    exact ⟨closed.slept, closed.raised⟩
  · intro calm
    exact {
      bounded := orderly.bounded.trans_eq (Nat.zero_add _)
      slept := calm.1
      terminal := fun k before response answers _ other =>
        orderly.terminal k (Nat.zero_le k) before response answers other
      first := fun k before response answers low =>
        orderly.terminal k (Nat.zero_le k) before response answers (not_retried_of_low low)
      returned := orderly.returned
      raised := calm.2 }

end Client

/-! ### A digit that is no decimal -/

/-- A decimal digit of ASCII. -/
def asciiDecimal (c : CodePoint) : Option ℕ := if Text.isDigitAscii c then some (c.val - 0x30) else none

/-- A digit of Latin-1: the decimals, and the superscripts. -/
def isLatinDigit (c : CodePoint) : Bool := Text.isDigitAscii c || c.val == 0xb2 || c.val == 0xb3 || c.val == 0xb9

theorem asciiDecimal_isLatinDigit (c : CodePoint) (decimal : (asciiDecimal c).isSome) : isLatinDigit c := by
  unfold asciiDecimal at decimal
  unfold isLatinDigit
  split at decimal
  · next ascii => simp [ascii]
  · cases decimal

/-- The numerals of Latin-1 text. -/
def latinNumerals : Numerals := ⟨isLatinDigit, asciiDecimal, asciiDecimal_isLatinDigit⟩

/-- A daemon that is not ready and asks to be called again after `²` seconds. -/
def superscriptAttempts : ℕ → Attempt := fun _ => .response ⟨503, some [0xb2], .refused⟩

/-- The header passes `isdigit`, and `float` refuses it. -/
theorem request_superscript : ¬ Closed defaultControlClientSettings superscriptAttempts
    (request latinNumerals defaultControlClientSettings superscriptAttempts) := by
  intro closed
  have value : (request latinNumerals defaultControlClientSettings superscriptAttempts).answer =
    .error .value := rfl
  obtain ⟨_, wrong⟩ := closed.raised _ value
  cases wrong

end AxiomMcp.Transport
