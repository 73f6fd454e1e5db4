/-
**Activity of a gateway (`gateway.py`: `Activity`, `ActivityMiddleware`, the monitor).**

The requests, the tool calls and the monitor of a gateway run on one event loop, and take turns where they await.
What each does between two awaits is one `Event`.

* `Activity.expired`, `enter`, `leave`, `complete`, `wake`: what the source does without awaiting;
* `turn`, `turns`: the turns, in any order, while the clock goes on. Each request is entered in a ledger, with
  what it asks for, when the application was called with it and when it ended (`Request`);
* `Accounted`: `active` counts the requests in flight, and `last` is no earlier than any completion;
* `activity_accounting`: what that means of the ledger for every order of events.
-/

import Mathlib.Data.Finset.Card
import Mathlib.Data.Rat.Defs
import Mathlib.Algebra.Order.Ring.Rat
import AxiomMcp.Gateway.Model

namespace AxiomMcp.Gateway

open Lib

/-- The subtraction of the host's numbers gives the difference, rounded to one of them. -/
structure Rounding where
  round : ℚ → ℚ
  monotone : Monotone round

/-- What `main` has checked of the arguments. -/
structure ActivityLimits where
  idleSeconds : ℚ
  maxInflight : ℤ
  admits : 1 ≤ maxInflight

/-- `Activity` -/
structure Activity where
  limits : ActivityLimits
  last : ℚ
  active : ℤ
  closing : Bool

/-- `activity.expired(now)` -/
def Activity.expired (floats : Rounding) (activity : Activity) (now : ℚ) : Bool :=
  0 < activity.limits.idleSeconds && activity.active = 0 &&
    activity.limits.idleSeconds ≤ floats.round (now - activity.last)

/-- What the middleware reads of an ASGI scope. -/
structure ActivityScope where
  kind : Text
  path : Option Text
  method : Option Text

/-- A request to `/mcp`. -/
def ActivityScope.Mcp (scope : ActivityScope) : Prop := scope.kind = "http" ∧ scope.path = some "/mcp"

/-- A `POST` request to `/mcp`. -/
def ActivityScope.McpPost (scope : ActivityScope) : Prop := scope.Mcp ∧ scope.method.getD "POST" = "POST"

/-- How far the middleware is with a request. -/
inductive Phase
  | waiting
  /-- Passed on to the application, as it is no request to `/mcp`. -/
  | passed
  /-- Answered with 503. -/
  | refused
  /-- Admitted, and not counted. -/
  | streaming
  /-- Admitted and counted. -/
  | counted
  | ended
  deriving DecidableEq

/-- The middleware awaits the application, and not a refusal that is sent. -/
def Phase.Handed : Phase → Bool
  | .passed | .streaming | .counted => true
  | _ => false

/-- `ActivityMiddleware.__call__`, up to its first await. -/
def Activity.enter (activity : Activity) (scope : ActivityScope) : Phase × Activity :=
  if scope.kind ≠ "http" || scope.path ≠ some ("/mcp" : Text) then (.passed, activity)
  else if activity.closing || activity.limits.maxInflight ≤ activity.active then (.refused, activity)
  else if scope.method.getD "POST" ≠ "POST" then (.streaming, activity)
  else (.counted, { activity with active := activity.active + 1 })

/-- `ActivityMiddleware.__call__` after its last await, however that ended. -/
def Activity.leave (activity : Activity) : Phase → Activity
  | .counted => { activity with active := activity.active - 1 }
  | _ => activity

/-- `runtime.activity_complete()` -/
def Activity.complete (activity : Activity) (now : ℚ) : Activity := { activity with last := now }

/-- `activity.closing = True` -/
def Activity.close (activity : Activity) : Activity := { activity with closing := true }

/-- Why the monitor closes the gateway when it wakes up, if it does. -/
def Activity.wake (floats : Rounding) (activity : Activity) (stop alive : Bool) (now : ℚ) : Option Closing :=
  if stop then some .stopFile
  else if !alive then some .ownerGone
  else if activity.expired floats now then some .idle
  else none

/-- Where the monitor awaits. -/
inductive Monitor
  | starting | sleeping | ended
  deriving DecidableEq

/-- The entry of a request in the ledger. -/
structure Request where
  scope : ActivityScope
  /-- When the application was called with it, if it was. -/
  admitted : Option ℚ
  /-- When the application had returned or raised, or the refusal was sent. -/
  ended : Option ℚ

/-- A gateway with its requests. -/
structure Server (ι : Type) where
  activity : Activity
  phase : ι → Phase
  ledger : ι → Option Request
  clock : ℚ
  /-- When tool calls completed. -/
  completions : List ℚ
  monitor : Monitor
  /-- `worker.should_exit` -/
  shouldExit : Bool
  closed : Option Closing

/-- A turn. -/
inductive Event (ι : Type)
  | tick (now : ℚ)
  | arrive (i : ι) (scope : ActivityScope)
  /-- The application has returned or raised, or the refusal was sent. -/
  | leave (i : ι)
  | complete
  /-- The worker has started, or has to exit before it did. -/
  | started
  /-- The monitor has slept. -/
  | wake (stop alive : Bool)
  /-- The monitor raises an `OSError` or a `ValueError`. -/
  | fail
  /-- The worker is asked to exit, by a signal. -/
  | signal
  /-- The monitor is cancelled: the worker has ended. -/
  | cancel

/-- An admitted `POST` request to `/mcp` that has not ended. -/
def Request.InFlight (request : Request) : Prop :=
  request.scope.McpPost ∧ request.admitted.isSome = true ∧ request.ended = none

/-- A request to `/mcp` that the application was called with. -/
def Request.Admitted (request : Request) : Prop := request.scope.Mcp ∧ request.admitted.isSome = true

namespace Server

variable {ι : Type} (server : Server ι)

/-- The ledger has the request in flight. -/
def InFlight (i : ι) : Prop := ∃ request, server.ledger i = some request ∧ request.InFlight

/-- The ledger has the request as admitted. -/
def Admitted (i : ι) : Prop := ∃ request, server.ledger i = some request ∧ request.Admitted

/-- The entry of a request that arrives now. -/
def arrival (scope : ActivityScope) (phase : Phase) : Request :=
  ⟨scope, if phase.Handed then some server.clock else none, none⟩

/-- The entry of a request that ends now. -/
def departure (i : ι) : Option Request :=
  (server.ledger i).map fun request => { request with ended := some server.clock }

/-- A request is in another phase, with another entry, and has changed the activity. -/
def move [DecidableEq ι] (i : ι) (phase : Phase) (request : Option Request) (activity : Activity) : Server ι :=
  { server with
    phase := Function.update server.phase i phase
    ledger := Function.update server.ledger i request
    activity := activity }

/-- The monitor closes the gateway. -/
def shut (reason : Closing) : Server ι :=
  { server with activity := server.activity.close, shouldExit := true, monitor := .ended, closed := some reason }

/-- The monitor looks whether it may sleep again. -/
def again : Server ι := { server with monitor := if server.shouldExit then .ended else .sleeping }

end Server

section Turns

variable {ι : Type} [DecidableEq ι] (floats : Rounding)

/-- One turn, where it is possible. -/
def turn (server : Server ι) : Event ι → Option (Server ι)
  | .tick now => if server.clock ≤ now then some { server with clock := now } else none
  | .arrive i scope =>
    if server.phase i = .waiting then
      some (server.move i (server.activity.enter scope).1
        (some (server.arrival scope (server.activity.enter scope).1)) (server.activity.enter scope).2)
    else none
  | .leave i =>
    if server.phase i = .waiting || server.phase i = .ended then none
    else some (server.move i .ended (server.departure i) (server.activity.leave (server.phase i)))
  | .complete =>
    some { server with
      activity := server.activity.complete server.clock
      completions := server.clock :: server.completions }
  | .started => if server.monitor = .starting then some server.again else none
  | .wake stop alive =>
    if server.monitor = .sleeping then
      match server.activity.wake floats stop alive server.clock with
      | some reason => some (server.shut reason)
      | none => some server.again
    else none
  | .fail => if server.monitor = .ended then none else some (server.shut .lifecycle)
  | .signal => some { server with shouldExit := true }
  | .cancel => some { server with monitor := .ended }

/-- A gateway before its first turn. -/
def Server.new {ι : Type} (limits : ActivityLimits) (now : ℚ) : Server ι :=
  ⟨⟨limits, now, 0, false⟩, fun _ => .waiting, fun _ => none, now, [], .starting, false, none⟩

/-- Turns one after another. -/
def turns (server : Server ι) (events : List (Event ι)) : Option (Server ι) := events.foldlM (turn floats) server

end Turns

/-! ### The ledger -/

/-- A request that arrives is in flight exactly if it is counted. -/
theorem arrival_inFlight {ι : Type} (server : Server ι) (activity : Activity) (scope : ActivityScope) :
    (server.arrival scope (activity.enter scope).1).InFlight ↔ (activity.enter scope).1 = .counted := by
  unfold Activity.enter
  split
  · next other =>
    refine iff_of_false (fun flying => ?_) fun wrong => nomatch wrong
    obtain ⟨kind, path⟩ := flying.1.1
    rcases Bool.or_eq_true_iff.mp other with away | away
    · exact of_decide_eq_true away kind
    · exact of_decide_eq_true away path
  next mcp =>
  split
  · exact iff_of_false (fun flying => nomatch flying.2.1) fun wrong => nomatch wrong
  split
  · next other => exact iff_of_false (fun flying => other flying.1.2) fun wrong => nomatch wrong
  · next post =>
    obtain ⟨kind, path⟩ := Bool.or_eq_false_iff.mp (Bool.eq_false_iff.mpr mcp)
    exact iff_of_true ⟨⟨⟨of_not_not (of_decide_eq_false kind), of_not_not (of_decide_eq_false path)⟩,
      of_not_not post⟩, rfl, rfl⟩ rfl

/-- A request that has ended is not in flight. -/
theorem departure_inFlight {ι : Type} {server : Server ι} {i : ι} {request : Request}
    (departs : server.departure i = some request) : ¬ request.InFlight := by
  obtain ⟨before, _, rfl⟩ := Option.map_eq_some_iff.mp departs
  exact fun flying => nomatch flying.2.2

/-! ### What is counted -/

section Accounts

variable {ι : Type} {limits : ActivityLimits} {server server' : Server ι}

/-- The counted requests are those in flight, and no tool call has completed after `last`. -/
structure Accounted (limits : ActivityLimits) (server : Server ι) : Prop where
  kept : server.activity.limits = limits
  /-- The middleware has counted a request exactly if the ledger has it in flight. -/
  entered : ∀ i, server.phase i = .counted ↔ server.InFlight i
  /-- `active` is the number of the counted requests. -/
  counts : ∃ posts : Finset ι, (∀ i, i ∈ posts ↔ server.phase i = .counted) ∧
    (posts.card : ℤ) = server.activity.active
  bounded : server.activity.active ≤ limits.maxInflight
  recent : ∀ time ∈ server.completions, time ≤ server.activity.last
  past : server.activity.last ≤ server.clock
  /-- The gateway is closing once the monitor has closed it. -/
  closing : server.activity.closing = server.closed.isSome

/-- What a turn leaves of the accounts, if it moves no request. -/
theorem accounted_still (accounted : Accounted limits server)
    (activity : (server'.activity = server.activity ∧ server'.closed = server.closed) ∨
      (server'.activity = server.activity.close ∧ server'.closed.isSome = true))
    (phase : server'.phase = server.phase) (ledger : server'.ledger = server.ledger)
    (completions : server'.completions = server.completions) (clock : server.clock ≤ server'.clock) :
    Accounted limits server' := by
  have parts : server'.activity.limits = server.activity.limits ∧ server'.activity.active = server.activity.active ∧
      server'.activity.last = server.activity.last ∧ server'.activity.closing = server'.closed.isSome := by
    rcases activity with ⟨same, closed⟩ | ⟨same, closed⟩
    · rw [same, closed]
      exact ⟨rfl, rfl, rfl, accounted.closing⟩
    · rw [same, closed]
      exact ⟨rfl, rfl, rfl, rfl⟩
  obtain ⟨sameLimits, active, last, closing⟩ := parts
  refine ⟨sameLimits.trans accounted.kept, ?_, ?_, ?_, ?_, ?_, closing⟩
  · intro i
    unfold Server.InFlight
    rw [phase, ledger]
    exact accounted.entered i
  · rw [phase, active]
    exact accounted.counts
  · rw [active]
    exact accounted.bounded
  · rw [completions, last]
    exact accounted.recent
  · rw [last]
    exact accounted.past.trans clock

variable [DecidableEq ι]

/-- The phases and the ledger agree on a request that moves, if its new phase and entry do. -/
theorem entered_move (accounted : Accounted limits server) {i : ι} {phase : Phase} {request : Option Request}
    (activity : Activity) (same : phase = .counted ↔ ∃ entry, request = some entry ∧ entry.InFlight) (j : ι) :
    (server.move i phase request activity).phase j = .counted ↔
      (server.move i phase request activity).InFlight j := by
  unfold Server.InFlight Server.move
  dsimp only
  by_cases here : j = i
  · subst here
    rw [Function.update_self, Function.update_self]
    exact same
  · rw [Function.update_of_ne here, Function.update_of_ne here]
    exact accounted.entered j

/-- A request that neither was counted nor is. -/
theorem accounted_uncounted (accounted : Accounted limits server) {i : ι} {phase : Phase} {request : Option Request}
    (was : server.phase i ≠ .counted) (now : phase ≠ .counted)
    (out : ∀ entry, request = some entry → ¬ entry.InFlight) :
    Accounted limits (server.move i phase request server.activity) := by
  have entry : phase = .counted ↔ ∃ entry, request = some entry ∧ entry.InFlight :=
    iff_of_false now fun ⟨entry, found, flying⟩ => out entry found flying
  refine ⟨accounted.kept, entered_move accounted _ entry, ?_, accounted.bounded, accounted.recent, accounted.past,
    accounted.closing⟩
  obtain ⟨posts, member, card⟩ := accounted.counts
  refine ⟨posts, fun j => ?_, card⟩
  rw [member]
  show _ ↔ Function.update server.phase i phase j = .counted
  by_cases same : j = i
  · subst same
    rw [Function.update_self]
    exact ⟨fun counted => absurd counted was, fun counted => absurd counted now⟩
  · rw [Function.update_of_ne same]

theorem accounted_arrive (accounted : Accounted limits server) {i : ι} (scope : ActivityScope)
    (waits : server.phase i = .waiting) :
    Accounted limits (server.move i (server.activity.enter scope).1
      (some (server.arrival scope (server.activity.enter scope).1)) (server.activity.enter scope).2) := by
  have fresh : server.phase i ≠ .counted := by
    rw [waits]
    exact fun wrong => nomatch wrong
  have flying := arrival_inFlight server server.activity scope
  have apart (uncounted : (server.activity.enter scope).1 ≠ .counted) (entry : Request)
      (found : some (server.arrival scope (server.activity.enter scope).1) = some entry) : ¬ entry.InFlight :=
    fun wrong => uncounted (flying.mp (Option.some.inj found ▸ wrong))
  unfold Activity.enter at flying apart ⊢
  split at flying
  · next away =>
    rw [if_pos away] at apart ⊢
    exact accounted_uncounted accounted fresh (fun wrong => nomatch wrong) (apart fun wrong => nomatch wrong)
  next mcp =>
  rw [if_neg mcp] at apart ⊢
  split at flying
  · next full =>
    rw [if_pos full] at apart ⊢
    exact accounted_uncounted accounted fresh (fun wrong => nomatch wrong) (apart fun wrong => nomatch wrong)
  next open' =>
  rw [if_neg open'] at apart ⊢
  split at flying
  · next other =>
    rw [if_pos other] at apart ⊢
    exact accounted_uncounted accounted fresh (fun wrong => nomatch wrong) (apart fun wrong => nomatch wrong)
  next post =>
  rw [if_neg post]
  obtain ⟨posts, member, card⟩ := accounted.counts
  have new : i ∉ posts := fun there => fresh ((member i).mp there)
  have room : server.activity.active < limits.maxInflight := by
    have free := (Bool.or_eq_false_iff.mp (Bool.eq_false_iff.mpr open')).2
    rw [accounted.kept] at free
    exact not_le.mp (of_decide_eq_false free)
  have entry : Phase.counted = .counted ↔
      ∃ entry, some (server.arrival scope .counted) = some entry ∧ entry.InFlight :=
    iff_of_true rfl ⟨_, rfl, flying.mpr rfl⟩
  refine ⟨accounted.kept, entered_move accounted _ entry, ⟨insert i posts, fun j => ?_, ?_⟩, ?_, accounted.recent,
    accounted.past, accounted.closing⟩
  · rw [Finset.mem_insert, member]
    show _ ↔ Function.update server.phase i .counted j = .counted
    by_cases same : j = i
    · subst same
      rw [Function.update_self]
      exact ⟨fun _ => rfl, fun _ => Or.inl rfl⟩
    · rw [Function.update_of_ne same]
      exact or_iff_right same
  · rw [Finset.card_insert_of_notMem new]
    show ((posts.card + 1 : ℕ) : ℤ) = server.activity.active + 1
    rw [← card]
    exact Nat.cast_succ _
  · exact room

theorem accounted_leave (accounted : Accounted limits server) (i : ι) :
    Accounted limits
      (server.move i .ended (server.departure i) (server.activity.leave (server.phase i))) := by
  have out : ∀ entry, server.departure i = some entry → ¬ entry.InFlight := fun _ => departure_inFlight
  by_cases was : server.phase i = .counted
  · obtain ⟨posts, member, card⟩ := accounted.counts
    have there : i ∈ posts := (member i).mpr was
    have one : 0 < posts.card := Finset.card_pos.mpr ⟨i, there⟩
    have bounded := accounted.bounded
    have entry : Phase.ended = .counted ↔ ∃ entry, server.departure i = some entry ∧ entry.InFlight :=
      iff_of_false (fun wrong => nomatch wrong) fun ⟨entry, found, flying⟩ => out entry found flying
    rw [was]
    refine ⟨accounted.kept, entered_move accounted _ entry, ⟨posts.erase i, fun j => ?_, ?_⟩, ?_, accounted.recent,
      accounted.past, accounted.closing⟩
    · rw [Finset.mem_erase, member]
      show _ ↔ Function.update server.phase i .ended j = .counted
      by_cases same : j = i
      · subst same
        rw [Function.update_self]
        exact ⟨fun both => absurd rfl both.1, fun wrong => nomatch wrong⟩
      · rw [Function.update_of_ne same]
        exact and_iff_right same
    · rw [Finset.card_erase_of_mem there]
      show ((posts.card - 1 : ℕ) : ℤ) = server.activity.active - 1
      omega
    · show server.activity.active - 1 ≤ _
      omega
  · have same : server.activity.leave (server.phase i) = server.activity := by
      cases phase : server.phase i with
      | counted => exact absurd phase was
      | _ => rfl
    rw [same]
    exact accounted_uncounted accounted was (fun wrong => nomatch wrong) out

variable {floats : Rounding}

/-- **One turn keeps the accounts.** -/
theorem accounted_turn {event : Event ι} (accounted : Accounted limits server)
    (took : turn floats server event = some server') : Accounted limits server' := by
  cases event with
  | tick now =>
    obtain ⟨later, same⟩ := Option.ite_none_right_eq_some.mp took
    obtain rfl := Option.some.inj same
    exact accounted_still accounted (Or.inl ⟨rfl, rfl⟩) rfl rfl rfl later
  | arrive i scope =>
    obtain ⟨waits, same⟩ := Option.ite_none_right_eq_some.mp took
    obtain rfl := Option.some.inj same
    exact accounted_arrive accounted scope waits
  | leave i =>
    obtain ⟨_, same⟩ := Option.ite_none_left_eq_some.mp took
    obtain rfl := Option.some.inj same
    exact accounted_leave accounted i
  | complete =>
    obtain rfl := Option.some.inj took
    refine ⟨accounted.kept, accounted.entered, accounted.counts, accounted.bounded, fun time member => ?_,
      le_refl _, accounted.closing⟩
    rcases List.mem_cons.mp member with rfl | old
    · exact le_refl _
    · exact (accounted.recent time old).trans accounted.past
  | started =>
    obtain ⟨_, same⟩ := Option.ite_none_right_eq_some.mp took
    obtain rfl := Option.some.inj same
    exact accounted_still accounted (Or.inl ⟨rfl, rfl⟩) rfl rfl rfl (le_refl _)
  | wake stop alive =>
    obtain ⟨_, same⟩ := Option.ite_none_right_eq_some.mp took
    split at same
    · obtain rfl := Option.some.inj same
      exact accounted_still accounted (Or.inr ⟨rfl, rfl⟩) rfl rfl rfl (le_refl _)
    · obtain rfl := Option.some.inj same
      exact accounted_still accounted (Or.inl ⟨rfl, rfl⟩) rfl rfl rfl (le_refl _)
  | fail =>
    obtain ⟨_, same⟩ := Option.ite_none_left_eq_some.mp took
    obtain rfl := Option.some.inj same
    exact accounted_still accounted (Or.inr ⟨rfl, rfl⟩) rfl rfl rfl (le_refl _)
  | signal =>
    obtain rfl := Option.some.inj took
    exact accounted_still accounted (Or.inl ⟨rfl, rfl⟩) rfl rfl rfl (le_refl _)
  | cancel =>
    obtain rfl := Option.some.inj took
    exact accounted_still accounted (Or.inl ⟨rfl, rfl⟩) rfl rfl rfl (le_refl _)

omit [DecidableEq ι] in
theorem accounted_new (limits : ActivityLimits) (now : ℚ) : Accounted limits (.new limits now : Server ι) := by
  have entered (i : ι) : Phase.waiting = .counted ↔ (Server.new limits now : Server ι).InFlight i :=
    iff_of_false (fun wrong => nomatch wrong) fun ⟨_, wrong, _⟩ => nomatch wrong
  have none (i : ι) : i ∈ (∅ : Finset ι) ↔ Phase.waiting = .counted :=
    ⟨fun wrong => absurd wrong (Finset.notMem_empty i), fun wrong => nomatch wrong⟩
  refine ⟨rfl, entered, ⟨∅, none, rfl⟩, ?_, fun _ wrong => (List.not_mem_nil wrong).elim, le_refl now, rfl⟩
  exact le_trans Int.one_nonneg limits.admits

theorem accounted_turns {events : List (Event ι)} (accounted : Accounted limits server)
    (ran : turns floats server events = some server') : Accounted limits server' := by
  induction events generalizing server with
  | nil =>
    obtain rfl := Option.some.inj ran
    exact accounted
  | cons event events ih =>
    obtain ⟨next, took, rest⟩ := Option.bind_eq_some_iff.mp ran
    exact ih (accounted_turn accounted took) rest

/-! ### Closing -/

/-- The monitor closes a gateway for idleness only if it has expired. -/
theorem expired_of_idle {event : Event ι} (took : turn floats server event = some server')
    (open' : server.closed ≠ some .idle) (idle : server'.closed = some .idle) :
    server.activity.expired floats server.clock = true := by
  cases event with
  | tick now =>
    obtain rfl := Option.some.inj (Option.ite_none_right_eq_some.mp took).2
    exact absurd idle open'
  | arrive i scope =>
    obtain rfl := Option.some.inj (Option.ite_none_right_eq_some.mp took).2
    exact absurd idle open'
  | leave i =>
    obtain rfl := Option.some.inj (Option.ite_none_left_eq_some.mp took).2
    exact absurd idle open'
  | complete =>
    obtain rfl := Option.some.inj took
    exact absurd idle open'
  | started =>
    obtain rfl := Option.some.inj (Option.ite_none_right_eq_some.mp took).2
    exact absurd idle open'
  | wake stop alive =>
    have same := (Option.ite_none_right_eq_some.mp took).2
    split at same
    · next reason woke =>
      obtain rfl := Option.some.inj same
      obtain rfl : reason = .idle := Option.some.inj idle
      unfold Activity.wake at woke
      split at woke
      · cases woke
      split at woke
      · cases woke
      split at woke
      · next expired => exact expired
      · cases woke
    · obtain rfl := Option.some.inj same
      exact absurd idle open'
  | fail =>
    obtain rfl := Option.some.inj (Option.ite_none_left_eq_some.mp took).2
    cases idle
  | signal =>
    obtain rfl := Option.some.inj took
    exact absurd idle open'
  | cancel =>
    obtain rfl := Option.some.inj took
    exact absurd idle open'

omit [DecidableEq ι] in
theorem idle_of_expired (accounted : Accounted limits server)
    (expired : server.activity.expired floats server.clock = true) :
    (∀ i, ¬ server.InFlight i) ∧
      ∀ time ∈ server.completions, limits.idleSeconds ≤ floats.round (server.clock - time) := by
  unfold Activity.expired at expired
  obtain ⟨both, long⟩ := Bool.and_eq_true_iff.mp expired
  have none : server.activity.active = 0 := of_decide_eq_true (Bool.and_eq_true_iff.mp both).2
  have waited : limits.idleSeconds ≤ floats.round (server.clock - server.activity.last) :=
    accounted.kept ▸ of_decide_eq_true long
  refine ⟨fun i flying => ?_, fun time member =>
    waited.trans (floats.monotone (sub_le_sub_left (accounted.recent time member) _))⟩
  obtain ⟨posts, there, card⟩ := accounted.counts
  have empty : posts = ∅ := Finset.card_eq_zero.mp (Int.natCast_eq_zero.mp (card.trans none))
  have counted := (there i).mpr ((accounted.entered i).mpr flying)
  rw [empty] at counted
  exact Finset.notMem_empty i counted

end Accounts

section Closing

variable {ι : Type} [DecidableEq ι] {floats : Rounding} {server server' : Server ι}

/-- A request that enters a closing gateway is not admitted, if it is one to `/mcp`. -/
theorem arrival_closing {ι : Type} (server : Server ι) {activity : Activity} (closing : activity.closing = true)
    (scope : ActivityScope) :
    ¬ (server.arrival scope (activity.enter scope).1).Admitted ∧ (activity.enter scope).2 = activity := by
  unfold Activity.enter
  split
  · next other =>
    refine ⟨fun admitted => ?_, rfl⟩
    rcases Bool.or_eq_true_iff.mp other with away | away
    · exact of_decide_eq_true away admitted.1.1
    · exact of_decide_eq_true away admitted.1.2
  · rw [closing, Bool.true_or, if_pos rfl]
    exact ⟨(fun admitted => nomatch admitted.2), rfl⟩

theorem admitted_move {i j : ι} {phase : Phase} {request : Option Request} {activity : Activity}
    (before : ∀ entry, request = some entry → entry.Admitted → server.Admitted i)
    (admitted : (server.move i phase request activity).Admitted j) : server.Admitted j := by
  obtain ⟨entry, found, was⟩ := admitted
  unfold Server.move at found
  dsimp only at found
  by_cases same : j = i
  · subst same
    rw [Function.update_self] at found
    exact before entry found was
  · rw [Function.update_of_ne same] at found
    exact ⟨entry, found, was⟩

/-- **A closing gateway admits nothing**, and stays closing. -/
theorem closing_turn {event : Event ι} (took : turn floats server event = some server')
    (closing : server.activity.closing = true) :
    server'.activity.closing = true ∧ ∀ i, server'.Admitted i → server.Admitted i := by
  cases event with
  | tick now =>
    obtain rfl := Option.some.inj (Option.ite_none_right_eq_some.mp took).2
    exact ⟨closing, fun _ admitted => admitted⟩
  | arrive i scope =>
    obtain rfl := Option.some.inj (Option.ite_none_right_eq_some.mp took).2
    obtain ⟨out, same⟩ := arrival_closing server closing scope
    refine ⟨?_, fun j admitted => admitted_move (fun entry found was => ?_) admitted⟩
    · rw [same]
      exact closing
    · exact absurd (Option.some.inj found ▸ was) out
  | leave i =>
    obtain rfl := Option.some.inj (Option.ite_none_left_eq_some.mp took).2
    refine ⟨?_, fun j admitted => admitted_move (fun entry found was => ?_) admitted⟩
    · show (server.activity.leave (server.phase i)).closing = true
      cases server.phase i <;> exact closing
    · obtain ⟨before, there, rfl⟩ := Option.map_eq_some_iff.mp found
      exact ⟨before, there, was⟩
  | complete =>
    obtain rfl := Option.some.inj took
    exact ⟨closing, fun _ admitted => admitted⟩
  | started =>
    obtain rfl := Option.some.inj (Option.ite_none_right_eq_some.mp took).2
    exact ⟨closing, fun _ admitted => admitted⟩
  | wake stop alive =>
    have same := (Option.ite_none_right_eq_some.mp took).2
    split at same
    · obtain rfl := Option.some.inj same
      exact ⟨rfl, fun _ admitted => admitted⟩
    · obtain rfl := Option.some.inj same
      exact ⟨closing, fun _ admitted => admitted⟩
  | fail =>
    obtain rfl := Option.some.inj (Option.ite_none_left_eq_some.mp took).2
    exact ⟨rfl, fun _ admitted => admitted⟩
  | signal =>
    obtain rfl := Option.some.inj took
    exact ⟨closing, fun _ admitted => admitted⟩
  | cancel =>
    obtain rfl := Option.some.inj took
    exact ⟨closing, fun _ admitted => admitted⟩

theorem closing_turns {events : List (Event ι)} (ran : turns floats server events = some server')
    (closing : server.activity.closing = true) :
    server'.activity.closing = true ∧ ∀ i, server'.Admitted i → server.Admitted i := by
  induction events generalizing server with
  | nil =>
    obtain rfl := Option.some.inj ran
    exact ⟨closing, fun _ admitted => admitted⟩
  | cons event events ih =>
    obtain ⟨next, took, rest⟩ := Option.bind_eq_some_iff.mp ran
    obtain ⟨still, before⟩ := closing_turn took closing
    obtain ⟨last, admitted⟩ := ih rest still
    exact ⟨last, fun i here => before i (admitted i here)⟩

end Closing

/-- **The accounts of a gateway, in any order of events.** The count of active requests is that of the admitted
`POST` requests to `/mcp` that have not ended, from none to `max_inflight`; the gateway is closed for idleness only
when there is none and every tool call has completed at least `idle_seconds` ago; and once it is closed, no request
to `/mcp` is admitted. -/
theorem activity_accounting {ι : Type} [DecidableEq ι] (floats : Rounding) (limits : ActivityLimits) (now : ℚ)
    (events : List (Event ι)) (server : Server ι) (ran : turns floats (.new limits now) events = some server) :
    ((∃ posts : Finset ι, (∀ i, i ∈ posts ↔ server.InFlight i) ∧ (posts.card : ℤ) = server.activity.active) ∧
      0 ≤ server.activity.active ∧ server.activity.active ≤ limits.maxInflight) ∧
    (∀ event server', turn floats server event = some server' →
      server.closed ≠ some .idle → server'.closed = some .idle →
        (∀ i, ¬ server.InFlight i) ∧
          ∀ time ∈ server.completions, limits.idleSeconds ≤ floats.round (server.clock - time)) ∧
    (server.closed.isSome = true → ∀ more server', turns floats server more = some server' →
      ∀ i, server'.Admitted i → server.Admitted i) := by
  have accounted := accounted_turns (accounted_new limits now) ran
  obtain ⟨posts, member, card⟩ := accounted.counts
  refine ⟨⟨⟨posts, fun i => (member i).trans (accounted.entered i), card⟩, ?_, accounted.bounded⟩,
    fun event server' took open' idle => ?_, fun shut more server' after => ?_⟩
  · rw [← card]
    exact Int.natCast_nonneg _
  · exact idle_of_expired accounted (expired_of_idle took open' idle)
  · exact (closing_turns after (accounted.closing.trans shut)).2

theorem oneMinute_admits : (1 : ℤ) ≤ 8 := by decide

/-- One minute of idleness, and eight requests. -/
def oneMinute : ActivityLimits := ⟨60, 8, oneMinute_admits⟩

/-- Numbers with exact differences. -/
def exactNumbers : Rounding := ⟨id, monotone_id⟩

/-- A request with a tool call, and a minute without one. -/
def quietMinute : List (Event ℕ) :=
  [.started, .arrive 0 ⟨"http", some ("/mcp" : Text), some ("POST" : Text)⟩, .tick 1, .complete, .leave 0, .tick 61]

/-- After a quiet minute the monitor closes the gateway. -/
theorem activity_accounting_quietMinute : ∃ server server' : Server ℕ,
    turns exactNumbers (.new oneMinute 0) quietMinute = some server ∧
      turn exactNumbers server (.wake false true) = some server' ∧ server'.closed = some .idle ∧
      ((∀ i, ¬ server.InFlight i) ∧
        ∀ time ∈ server.completions, oneMinute.idleSeconds ≤ exactNumbers.round (server.clock - time)) := by
  obtain ⟨server, ran⟩ := Option.isSome_iff_exists.mp
    (show (turns exactNumbers (.new oneMinute 0) quietMinute).isSome = true by decide +kernel)
  have woke : ((turns exactNumbers (.new oneMinute 0) quietMinute).bind fun server =>
      turn exactNumbers server (.wake false true)).bind Server.closed = some .idle ∧
      (turns exactNumbers (.new oneMinute 0) quietMinute).bind Server.closed = none := by
    decide +kernel
  rw [ran] at woke
  obtain ⟨server', took, idle⟩ := Option.bind_eq_some_iff.mp woke.1
  have still : server.closed ≠ some .idle := by
    rw [show server.closed = none from woke.2]
    exact fun wrong => nomatch wrong
  exact ⟨server, server', ran, took, idle,
    (activity_accounting exactNumbers oneMinute 0 quietMinute server ran).2.1 (.wake false true) server' took
      still idle⟩

end AxiomMcp.Gateway
