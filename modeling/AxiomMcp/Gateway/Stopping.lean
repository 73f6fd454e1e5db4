/-
**Stopping a gateway.**

`state.json` and `stop.json` outlive the processes that write them, and several processes write them. What
keeps a request to the gateway it is meant for is `Sound`:

* a nonce in a stop request was there at the beginning, or a `stop` has read it from `state.json`;
* a nonce in `state.json` has been issued, and what was issued is never issued again;
* a process that has its nonce never holds a lock again that it does not hold.

`stopping_sound` proves that of every moment of every run. So a gateway closes because of `stop.json` only if a
`stop` has read its own nonce, and a `stop` reports the end of a request only after its last look found the lock
free, when the gateway that it wrote to had given it up (`stopping_owner`). Whether another gateway has taken the
lock between that look and the report is not known then (`replaced_meanwhile`).
-/

import AxiomMcp.Gateway.Requests
import AxiomMcp.Gateway.Observing

namespace AxiomMcp.Gateway

open Lib Program Machine

variable {ι : Type} [DecidableEq ι]

/-! ### What one operation may change -/

/-- An operation with its reply. -/
abbrev GatewayCall (ι : Type) := Call (GatewayOp ι) fun op => Option (GatewayReply op)

/-- What one operation may change of what a process has exchanged. -/
inductive Exchanges (seen : Exchanged) : GatewayCall ι → Exchanged → Prop
  | still (call : GatewayCall ι) : Exchanges seen call seen
  | issued (nonce : Text) : Exchanges seen ⟨.nonce, some nonce⟩ { seen with nonce := some nonce }
  | loaded (path : RecordPath) (record : JsonObject) :
      Exchanges seen ⟨.load path, some (.ok (.obj record))⟩ (seen.loaded path record)
  | opened (name : Text) : Exchanges seen ⟨.openLock name, some (.ok ())⟩ { seen with opened := some name }
  | replaced (path : RecordPath) (record : JsonObject) (size : ℕ) :
      Exchanges seen ⟨.replace path record, some (.ok size)⟩ (seen.replaced path record)
  | entered (name : Text) : Exchanges seen ⟨.entered name, some ()⟩ { seen with look := some (name, false) }
  | had (name : Text) : Exchanges seen ⟨.acquire name, some (.ok ())⟩ (seen.foundFree name)
  | missing (name : Text) : Exchanges seen ⟨.lockExists name, some (.ok false)⟩ (seen.foundFree name)

omit [DecidableEq ι] in
theorem exchange_exchanges (seen : Exchanged) (op : GatewayOp ι) (reply : GatewayReply op) :
    Exchanges seen ⟨op, some reply⟩ (exchange seen op reply) := by
  cases op with
  | nonce => exact .issued reply
  | load path =>
    rcases reply with raised | value
    · exact .still _
    · cases value with
      | obj record => exact .loaded path record
      | _ => exact .still _
  | openLock name =>
    cases reply with
    | ok done => exact .opened name
    | error raised => exact .still _
  | replace path record =>
    cases reply with
    | ok size => exact .replaced path record size
    | error raised => exact .still _
  | entered name => exact .entered name
  | acquire name =>
    cases reply with
    | ok done => exact .had name
    | error raised => exact .still _
  | lockExists name =>
    rcases reply with raised | _ | _
    · exact .still _
    · exact .missing name
    · exact .still _
  | _ => exact .still _

/-- What one moment may change of the world. -/
structure Changes (s : World ι) (moment : GatewayMoment ι) (s' : World ι) : Prop where
  issued : ∀ nonce ∈ s.issued, nonce ∈ s'.issued
  fresh : ∀ nonce, moment.call = ⟨.nonce, some nonce⟩ → nonce ∈ s'.issued ∧ nonce ∉ s.issued
  stored : ∀ path stored, s'.stored path = some stored → s.stored path = some stored ∨
    ∃ record size, moment.call = ⟨.replace path record, some (.ok size)⟩ ∧ nonceOf stored = Json.get? record "nonce"
  lockFile : ∀ name, (s.instances name).lockFile = true → (s'.instances name).lockFile = true
  opened : ∀ name, moment.call = ⟨.openLock name, some (.ok ())⟩ → (s'.instances name).lockFile = true
  holder : ∀ name g, (s'.instances name).holder = some g → (s.instances name).holder = some g ∨
    (g = moment.who ∧ ∃ target, moment.call.op = .acquire target)
  loaded : ∀ path value, moment.call = ⟨.load path, some (.ok value)⟩ →
    ∃ stored, s.stored path = some stored ∧ stored.content = .ok value

section Changes

variable {setup : Setup ι} {s : World ι} {i : ι} {op : GatewayOp ι} {reply : GatewayReply op}

theorem after_issued {nonce : Text} (member : nonce ∈ s.issued) : nonce ∈ (after i s op reply).issued := by
  cases op with
  | nonce => exact List.mem_cons_of_mem _ member
  | openLock name => cases reply <;> exact member
  | acquire name => cases reply <;> exact member
  | release name => cases reply <;> exact member
  | replace path record => cases reply <;> exact member
  | spawn args => cases reply <;> exact member
  | _ => exact member

/-- A record is what it was, or what has just replaced it. -/
theorem after_stored {path : RecordPath} {stored : Stored}
    (there : (after i s op reply).stored path = some stored) :
    s.stored path = some stored ∨ ∃ record size,
      (⟨op, some reply⟩ : GatewayCall ι) = ⟨.replace path record, some (.ok size)⟩ ∧
        nonceOf stored = Json.get? record "nonce" := by
  have kept {inst : Instance ι} (same : inst.record = (s.instances path.name).record)
      (there : inst.record path.kind = some stored) : s.stored path = some stored :=
    (congrFun same path.kind).symm.trans there
  cases op with
  | replace target record =>
    cases reply with
    | error raised => exact Or.inl there
    | ok size =>
      change (s.store target record size).stored path = some stored at there
      rw [stored_store] at there
      split at there
      · next same =>
        obtain rfl := same
        obtain rfl := Option.some.inj there
        exact Or.inr ⟨record, size, rfl, rfl⟩
      · exact Or.inl there
  | openLock name =>
    cases reply with
    | ok done => exact Or.inl (kept record_withLockFile there)
    | error raised => exact Or.inl there
  | acquire name =>
    cases reply with
    | ok done => exact Or.inl (kept record_lock there)
    | error raised => exact Or.inl there
  | release name =>
    cases reply with
    | ok done => exact Or.inl (kept record_unlock there)
    | error raised => exact Or.inl there
  | closeLock name => exact Or.inl (kept record_unlock there)
  | spawn args => cases reply <;> exact Or.inl there
  | _ => exact Or.inl there

/-- No lock file is ever removed. -/
theorem after_lockFile {name : Text} (there : (s.instances name).lockFile = true) :
    ((after i s op reply).instances name).lockFile = true := by
  cases op with
  | openLock target =>
    cases reply with
    | ok done => exact lockFile_withLockFile (Or.inr there)
    | error raised => exact there
  | acquire target =>
    cases reply with
    | ok done => exact lockFile_lock.trans there
    | error raised => exact there
  | release target =>
    cases reply with
    | ok done => exact lockFile_unlock.trans there
    | error raised => exact there
  | closeLock target => exact lockFile_unlock.trans there
  | replace path record =>
    cases reply with
    | ok size => exact lockFile_store.trans there
    | error raised => exact there
  | spawn args => cases reply <;> exact there
  | _ => exact there

theorem after_holder {name : Text} {g : ι} (holds : ((after i s op reply).instances name).holder = some g) :
    (s.instances name).holder = some g ∨ (g = i ∧ ∃ target, op = .acquire target) := by
  by_cases locks : Locks op
  · cases op with
    | acquire target =>
      cases reply with
      | error raised => exact Or.inl holds
      | ok done => exact (holder_lock holds).elim (fun new => Or.inr ⟨new.2, target, rfl⟩) Or.inl
    | release target =>
      cases reply with
      | error raised => exact Or.inl holds
      | ok done => exact Or.inl (holder_unlock holds).1
    | closeLock target => exact Or.inl (holder_unlock holds).1
    | exit code => exact Or.inl (holder_ended holds).1
    | _ => exact locks.elim
  · rw [holder_after locks] at holds
    exact Or.inl holds

theorem changes_after (permitted : (machine setup i).permits s op reply) :
    Changes s ⟨s, i, ⟨op, some reply⟩⟩ (after i s op reply) where
  issued _ member := after_issued member
  fresh nonce same := by
    cases same
    exact ⟨List.mem_cons_self, permitted.2.1⟩
  stored _ _ there := after_stored there
  lockFile _ there := after_lockFile there
  opened name same := by
    cases same
    exact lockFile_withLockFile (Or.inl rfl)
  holder _ _ holds := after_holder holds
  loaded path value same := by
    cases same
    exact Option.map_eq_some_iff.mp permitted.2

theorem changes_killed : Changes s ⟨s, i, ⟨op, none⟩⟩ (killed i s) where
  issued _ member := member
  fresh _ wrong := nomatch wrong
  stored _ _ there := Or.inl there
  lockFile _ there := there
  opened _ wrong := nomatch wrong
  holder _ _ holds := Or.inl (holder_ended holds).1
  loaded _ _ wrong := nomatch wrong

end Changes

/-! ### What a process has exchanged so far -/

section Exchanges

variable {seen seen' : Exchanged} {call : GatewayCall ι} {name other : Text} {value : Json}

omit [DecidableEq ι] in
theorem exchanges_nonce (step : Exchanges seen call seen') :
    seen'.nonce = seen.nonce ∨ ∃ nonce, call = ⟨.nonce, some nonce⟩ ∧ seen'.nonce = some nonce := by
  cases step with
  | issued nonce => exact Or.inr ⟨nonce, rfl, rfl⟩
  | loaded path record =>
    obtain ⟨name, kind⟩ := path
    cases kind <;> exact Or.inl rfl
  | replaced path record size =>
    obtain ⟨name, kind⟩ := path
    cases kind <;> exact Or.inl rfl
  | _ => exact Or.inl rfl

theorem nonceAt_eq {record : JsonObject} (there : nonceAt name record = some (other, value)) :
    other = name ∧ Json.get? record "nonce" = some value := by
  obtain ⟨nonce, found, same⟩ := Option.map_eq_some_iff.mp there
  obtain ⟨rfl, rfl⟩ := Prod.mk.inj same
  exact ⟨rfl, found⟩

omit [DecidableEq ι] in
/-- What was read of `state.json` was loaded from there. -/
theorem exchanges_read (step : Exchanges seen call seen') (now : seen'.read = some (name, value)) :
    seen.read = some (name, value) ∨ ∃ record, call = ⟨.load ⟨name, .state⟩, some (.ok (.obj record))⟩ ∧
      Json.get? record "nonce" = some value := by
  cases step with
  | loaded path record =>
    obtain ⟨other, kind⟩ := path
    cases kind with
    | state =>
      obtain ⟨rfl, found⟩ := nonceAt_eq now
      exact Or.inr ⟨record, rfl, found⟩
    | stop => exact Or.inl now
  | replaced path record size =>
    obtain ⟨other, kind⟩ := path
    cases kind <;> exact Or.inl now
  | _ => exact Or.inl now

omit [DecidableEq ι] in
/-- What was read of `stop.json` was loaded from there. -/
theorem exchanges_stopRead (step : Exchanges seen call seen') (now : seen'.stopRead = some (name, value)) :
    seen.stopRead = some (name, value) ∨ ∃ record, call = ⟨.load ⟨name, .stop⟩, some (.ok (.obj record))⟩ ∧
      Json.get? record "nonce" = some value := by
  cases step with
  | loaded path record =>
    obtain ⟨other, kind⟩ := path
    cases kind with
    | state => exact Or.inl now
    | stop =>
      obtain ⟨rfl, found⟩ := nonceAt_eq now
      exact Or.inr ⟨record, rfl, found⟩
  | replaced path record size =>
    obtain ⟨other, kind⟩ := path
    cases kind <;> exact Or.inl now
  | _ => exact Or.inl now

omit [DecidableEq ι] in
theorem exchanges_opened (step : Exchanges seen call seen') :
    seen'.opened = seen.opened ∨ ∃ name, call = ⟨.openLock name, some (.ok ())⟩ ∧ seen'.opened = some name := by
  cases step with
  | opened name => exact Or.inr ⟨name, rfl, rfl⟩
  | loaded path record =>
    obtain ⟨other, kind⟩ := path
    cases kind <;> exact Or.inl rfl
  | replaced path record size =>
    obtain ⟨other, kind⟩ := path
    cases kind <;> exact Or.inl rfl
  | _ => exact Or.inl rfl

omit [DecidableEq ι] in
/-- What was written is what a request to stop says. -/
theorem exchanges_wrote (step : Exchanges seen call seen') :
    seen'.wrote = seen.wrote ∨ ∃ name record size, call = ⟨.replace ⟨name, .stop⟩ record, some (.ok size)⟩ ∧
      seen'.wrote = some (name, (Json.get? record "nonce").getD .null) := by
  cases step with
  | replaced path record size =>
    obtain ⟨name, kind⟩ := path
    cases kind with
    | state => exact Or.inl rfl
    | stop => exact Or.inr ⟨name, record, size, rfl, rfl⟩
  | loaded path record =>
    obtain ⟨other, kind⟩ := path
    cases kind <;> exact Or.inl rfl
  | _ => exact Or.inl rfl

theorem foundFree_look {target : Text} (free : (seen.foundFree target).look = some (name, true)) :
    seen.look = some (name, true) ∨ target = name := by
  obtain ⟨⟨looked, before⟩, was, now⟩ := Option.map_eq_some_iff.mp free
  obtain ⟨rfl, found⟩ := Prod.mk.inj now
  rcases Bool.or_eq_true_iff.mp found with already | here
  · obtain rfl : before = true := already
    exact Or.inl was
  · exact Or.inr (of_decide_eq_true here).symm

omit [DecidableEq ι] in
/-- A lock is found free by taking it, or because there is no lock file. -/
theorem exchanges_look (step : Exchanges seen call seen') (free : seen'.look = some (name, true)) :
    seen.look = some (name, true) ∨ call = ⟨.acquire name, some (.ok ())⟩ ∨
      call = ⟨.lockExists name, some (.ok false)⟩ := by
  cases step with
  | entered other => cases free
  | had target =>
    rcases foundFree_look free with already | rfl
    · exact Or.inl already
    · exact Or.inr (Or.inl rfl)
  | missing target =>
    rcases foundFree_look free with already | rfl
    · exact Or.inl already
    · exact Or.inr (Or.inr rfl)
  | loaded path record =>
    obtain ⟨other, kind⟩ := path
    cases kind <;> exact Or.inl free
  | replaced path record size =>
    obtain ⟨other, kind⟩ := path
    cases kind with
    | state => exact Or.inl free
    | stop => cases free
  | _ => exact Or.inl free

/-- One more moment, for one process. -/
theorem exchanges_snoc (first : Exchanged) (i : ι) (history : List (GatewayMoment ι)) (moment : GatewayMoment ι) :
    Exchanges (watched exchange first i history) moment.call (watched exchange first i (history ++ [moment])) ∧
        moment.who = i ∨
      watched exchange first i (history ++ [moment]) = watched exchange first i history := by
  rw [watched_snoc]
  obtain ⟨s, who, op, reply⟩ := moment
  cases reply with
  | none => exact Or.inr (noted_killed _)
  | some reply =>
    by_cases self : who = i
    · subst self
      rw [noted_self]
      exact Or.inl ⟨exchange_exchanges _ op reply, rfl⟩
    · exact Or.inr (noted_other self _)

end Exchanges

/-! ### What processes did -/

section Histories

/-- What a process has exchanged so far. -/
def exchangedBy (i : ι) (history : List (GatewayMoment ι)) : Exchanged := watched exchange .initial i history

/-- A process has done something. -/
def Did (history : List (GatewayMoment ι)) (i : ι) (what : GatewayCall ι → Prop) : Prop :=
  ∃ moment ∈ history, moment.who = i ∧ what moment.call

/-- A nonce was issued to a process. -/
def IssuedTo (history : List (GatewayMoment ι)) (i : ι) (nonce : Text) : Prop :=
  Did history i fun call => call = ⟨.nonce, some nonce⟩

/-- A process has read a nonce from `state.json` of an instance. -/
def ReadState (history : List (GatewayMoment ι)) (i : ι) (name : Text) (nonce : Json) : Prop :=
  Did history i fun call => ∃ record, call = ⟨.load ⟨name, .state⟩, some (.ok (.obj record))⟩ ∧
    Json.get? record "nonce" = some nonce

/-- A `stop` has read a nonce from `state.json` of an instance. -/
def Asked (setup : Setup ι) (history : List (GatewayMoment ι)) (name : Text) (nonce : Json) : Prop :=
  ∃ i, (setup.args i).action = .stop ∧ ReadState history i name nonce

/-- A process has written a request to stop. -/
def Requested (history : List (GatewayMoment ι)) (i : ι) (name : Text) (record : JsonObject) : Prop :=
  Did history i fun call => ∃ size, call = ⟨.replace ⟨name, .stop⟩ record, some (.ok size)⟩

variable {history : List (GatewayMoment ι)} {moment : GatewayMoment ι} {i : ι} {what : GatewayCall ι → Prop}

omit [DecidableEq ι] in
theorem did_later (did : Did history i what) (more : List (GatewayMoment ι)) : Did (history ++ more) i what := by
  obtain ⟨moment, member, who, done⟩ := did
  exact ⟨moment, List.mem_append_left _ member, who, done⟩

omit [DecidableEq ι] in
theorem did_last (who : moment.who = i) (done : what moment.call) : Did (history ++ [moment]) i what :=
  ⟨moment, List.mem_append_right _ (List.mem_singleton_self _), who, done⟩

omit [DecidableEq ι] in
theorem did_snoc (did : Did (history ++ [moment]) i what) :
    Did history i what ∨ (moment.who = i ∧ what moment.call) := by
  obtain ⟨other, member, who, done⟩ := did
  rcases List.mem_append.mp member with old | new
  · exact Or.inl ⟨other, old, who, done⟩
  · obtain rfl := List.mem_singleton.mp new
    exact Or.inr ⟨who, done⟩

omit [DecidableEq ι] in
theorem asked_later {setup : Setup ι} {name : Text} {nonce : Json} (asked : Asked setup history name nonce)
    (more : List (GatewayMoment ι)) : Asked setup (history ++ more) name nonce := by
  obtain ⟨i, stops, read⟩ := asked
  exact ⟨i, stops, did_later read more⟩

theorem exchangedBy_snoc (i : ι) (history : List (GatewayMoment ι)) (moment : GatewayMoment ι) :
    Exchanges (exchangedBy i history) moment.call (exchangedBy i (history ++ [moment])) ∧ moment.who = i ∨
      exchangedBy i (history ++ [moment]) = exchangedBy i history :=
  exchanges_snoc _ i history moment

theorem exchangedBy_self {op : GatewayOp ι} {reply : GatewayReply op} (call : moment.call = ⟨op, some reply⟩) :
    exchangedBy moment.who (history ++ [moment]) = exchange (exchangedBy moment.who history) op reply := by
  obtain ⟨s, who, same⟩ := moment
  obtain rfl : same = ⟨op, some reply⟩ := call
  exact watched_snoc.trans (noted_self _)

end Histories

/-! ### Whose nonce it is -/

/-- What holds of nonces, records and locks at every moment. -/
structure Sound (setup : Setup ι) (start : World ι) (s : World ι) (history : List (GatewayMoment ι)) : Prop where
  older : ∀ nonce ∈ start.issued, nonce ∈ s.issued
  /-- A process has the nonce that was issued to it. -/
  own : ∀ i nonce, (exchangedBy i history).nonce = some nonce → IssuedTo history i nonce
  issues : ∀ i nonce, IssuedTo history i nonce →
    nonce ∈ s.issued ∧ nonce ∉ start.issued ∧ (exchangedBy i history).nonce = some nonce
  /-- No nonce is issued twice. -/
  distinct : ∀ i j nonce, IssuedTo history i nonce → IssuedTo history j nonce → i = j
  states : ∀ name stored nonce, s.stored ⟨name, .state⟩ = some stored → nonceOf stored = some (.str nonce) →
    nonce ∈ s.issued
  /-- A request to stop is as old as the beginning, or a `stop` has read its nonce. -/
  requests : ∀ name stored nonce, s.stored ⟨name, .stop⟩ = some stored → nonceOf stored = some (.str nonce) →
    nonce ∈ start.issued ∨ Asked setup history name (.str nonce)
  read : ∀ i name value, (exchangedBy i history).read = some (name, value) →
    ReadState history i name value ∧ ∀ nonce, value = .str nonce → nonce ∈ s.issued
  stopRead : ∀ i name nonce, (exchangedBy i history).stopRead = some (name, .str nonce) →
    nonce ∈ start.issued ∨ Asked setup history name (.str nonce)
  opened : ∀ i name, (exchangedBy i history).opened = some name → (s.instances name).lockFile = true
  writes : ∀ i name record, Requested history i name record →
    (exchangedBy i history).wrote = some (name, (Json.get? record "nonce").getD .null)
  /-- What was issued once has not been issued since. -/
  aged : ∀ before moment after, history = before ++ moment :: after → ∀ nonce ∈ moment.before.issued,
    nonce ∈ s.issued ∧ ∀ i, IssuedTo history i nonce → IssuedTo before i nonce
  lockFiles : ∀ before moment after, history = before ++ moment :: after → ∀ name,
    (moment.before.instances name).lockFile = true → (s.instances name).lockFile = true
  /-- Who has its nonce takes no lock any more. -/
  past : ∀ before moment after, history = before ++ moment :: after → ∀ i nonce name, IssuedTo before i nonce →
    (moment.before.instances name).holder ≠ some i → (s.instances name).holder ≠ some i

section Steps

variable {setup : Setup ι} {start s s' : World ι} {history : List (GatewayMoment ι)} {moment : GatewayMoment ι}

/-- What is given of one step. -/
structure Taken (setup : Setup ι) (s : World ι) (history : List (GatewayMoment ι)) (moment : GatewayMoment ι)
    (s' : World ι) : Prop where
  before : moment.before = s
  changes : Changes s moment s'
  obeys : Obeys (setup.args moment.who) (exchangedBy moment.who history) moment.call.op

theorem own_step (sound : Sound setup start s history) (i : ι) (nonce : Text)
    (has : (exchangedBy i (history ++ [moment])).nonce = some nonce) : IssuedTo (history ++ [moment]) i nonce := by
  rcases exchangedBy_snoc i history moment with ⟨step, who⟩ | same
  · rcases exchanges_nonce step with kept | ⟨other, call, new⟩
    · exact did_later (sound.own i nonce (kept.symm.trans has)) _
    · obtain rfl := Option.some.inj (new.symm.trans has)
      exact did_last who call
  · rw [same] at has
    exact did_later (sound.own i nonce has) _

theorem issues_step (sound : Sound setup start s history) (taken : Taken setup s history moment s') (i : ι)
    (nonce : Text) (issued : IssuedTo (history ++ [moment]) i nonce) :
    nonce ∈ s'.issued ∧ nonce ∉ start.issued ∧ (exchangedBy i (history ++ [moment])).nonce = some nonce := by
  rcases did_snoc issued with old | ⟨who, call⟩
  · obtain ⟨there, fresh, has⟩ := sound.issues i nonce old
    refine ⟨taken.changes.issued nonce there, fresh, ?_⟩
    rcases exchangedBy_snoc i history moment with ⟨step, who⟩ | same
    · rcases exchanges_nonce step with kept | ⟨other, call, _⟩
      · exact kept.trans has
      · subst who
        have unnamed := taken.obeys
        rw [call] at unnamed
        cases has.symm.trans unnamed
    · rw [same, has]
  · subst who
    obtain ⟨now, new⟩ := taken.changes.fresh nonce call
    refine ⟨now, fun old => new (sound.older nonce old), ?_⟩
    rw [exchangedBy_self call]
    rfl

theorem distinct_step (sound : Sound setup start s history) (taken : Taken setup s history moment s') (i j : ι)
    (nonce : Text) (one : IssuedTo (history ++ [moment]) i nonce) (two : IssuedTo (history ++ [moment]) j nonce) :
    i = j := by
  rcases did_snoc one with old | ⟨who, call⟩
  · rcases did_snoc two with old' | ⟨who', call'⟩
    · exact sound.distinct i j nonce old old'
    · exact absurd (sound.issues i nonce old).1 (taken.changes.fresh nonce call').2
  · rcases did_snoc two with old' | ⟨who', call'⟩
    · exact absurd (sound.issues j nonce old').1 (taken.changes.fresh nonce call).2
    · exact who.symm.trans who'

theorem states_step (sound : Sound setup start s history) (taken : Taken setup s history moment s') (name : Text)
    (stored : Stored) (nonce : Text) (there : s'.stored ⟨name, .state⟩ = some stored)
    (named : nonceOf stored = some (.str nonce)) : nonce ∈ s'.issued := by
  refine taken.changes.issued nonce ?_
  rcases taken.changes.stored _ _ there with old | ⟨record, size, call, same⟩
  · exact sound.states name stored nonce old named
  · have obeys := taken.obeys
    rw [call] at obeys
    obtain ⟨other, has, held⟩ := obeys
    obtain rfl : other = nonce := Json.str.inj (Option.some.inj (held.symm.trans (same.symm.trans named)))
    exact (sound.issues _ other (sound.own _ other has)).1

theorem requests_step (sound : Sound setup start s history) (taken : Taken setup s history moment s') (name : Text)
    (stored : Stored) (nonce : Text) (there : s'.stored ⟨name, .stop⟩ = some stored)
    (named : nonceOf stored = some (.str nonce)) :
    nonce ∈ start.issued ∨ Asked setup (history ++ [moment]) name (.str nonce) := by
  rcases taken.changes.stored _ _ there with old | ⟨record, size, call, same⟩
  · exact (sound.requests name stored nonce old named).imp_right fun asked => asked_later asked _
  · have obeys := taken.obeys
    rw [call] at obeys
    obtain ⟨stops, _, _, value, rfl, read⟩ := obeys
    obtain rfl : value = .str nonce := Option.some.inj (same.symm.trans named)
    exact Or.inr ⟨moment.who, stops, did_later (sound.read _ name _ read).1 _⟩

theorem read_step (sound : Sound setup start s history) (taken : Taken setup s history moment s') (i : ι)
    (name : Text) (value : Json) (read : (exchangedBy i (history ++ [moment])).read = some (name, value)) :
    ReadState (history ++ [moment]) i name value ∧ ∀ nonce, value = .str nonce → nonce ∈ s'.issued := by
  have older (read : (exchangedBy i history).read = some (name, value)) :
      ReadState (history ++ [moment]) i name value ∧ ∀ nonce, value = .str nonce → nonce ∈ s'.issued := by
    obtain ⟨did, issued⟩ := sound.read i name value read
    exact ⟨did_later did _, fun nonce same => taken.changes.issued nonce (issued nonce same)⟩
  rcases exchangedBy_snoc i history moment with ⟨step, who⟩ | same
  · rcases exchanges_read step read with old | ⟨record, call, held⟩
    · exact older old
    · refine ⟨did_last who ⟨record, call, held⟩, fun nonce same => ?_⟩
      obtain ⟨stored, there, content⟩ := taken.changes.loaded _ _ call
      refine taken.changes.issued nonce (sound.states name stored nonce there ?_)
      rw [nonceOf, content, ← same]
      exact held
  · rw [same] at read
    exact older read

theorem stopRead_step (sound : Sound setup start s history) (taken : Taken setup s history moment s') (i : ι)
    (name nonce : Text) (read : (exchangedBy i (history ++ [moment])).stopRead = some (name, .str nonce)) :
    nonce ∈ start.issued ∨ Asked setup (history ++ [moment]) name (.str nonce) := by
  have older : nonce ∈ start.issued ∨ Asked setup history name (.str nonce) := by
    rcases exchangedBy_snoc i history moment with ⟨step, who⟩ | same
    · rcases exchanges_stopRead step read with old | ⟨record, call, held⟩
      · exact sound.stopRead i name nonce old
      · obtain ⟨stored, there, content⟩ := taken.changes.loaded _ _ call
        refine sound.requests name stored nonce there ?_
        rw [nonceOf, content]
        exact held
    · rw [same] at read
      exact sound.stopRead i name nonce read
  exact older.imp_right fun asked => asked_later asked _

theorem opened_step (sound : Sound setup start s history) (taken : Taken setup s history moment s') (i : ι)
    (name : Text) (opened : (exchangedBy i (history ++ [moment])).opened = some name) :
    (s'.instances name).lockFile = true := by
  rcases exchangedBy_snoc i history moment with ⟨step, who⟩ | same
  · rcases exchanges_opened step with kept | ⟨other, call, new⟩
    · exact taken.changes.lockFile name (sound.opened i name (kept.symm.trans opened))
    · obtain rfl := Option.some.inj (new.symm.trans opened)
      exact taken.changes.opened other call
  · rw [same] at opened
    exact taken.changes.lockFile name (sound.opened i name opened)

/-- A process writes one request at most. -/
theorem writes_step (sound : Sound setup start s history) (taken : Taken setup s history moment s') (i : ι)
    (name : Text) (record : JsonObject) (requested : Requested (history ++ [moment]) i name record) :
    (exchangedBy i (history ++ [moment])).wrote = some (name, (Json.get? record "nonce").getD .null) := by
  rcases did_snoc requested with old | ⟨who, size, call⟩
  · have was := sound.writes i name record old
    rcases exchangedBy_snoc i history moment with ⟨step, who⟩ | same
    · rcases exchanges_wrote step with kept | ⟨other, record', size, call, _⟩
      · exact kept.trans was
      · subst who
        have obeys := taken.obeys
        rw [call] at obeys
        cases was.symm.trans obeys.2.1
    · rw [same, was]
  · subst who
    rw [exchangedBy_self call]
    rfl

theorem aged_step (sound : Sound setup start s history) (taken : Taken setup s history moment s')
    (before : List (GatewayMoment ι)) (earlier : GatewayMoment ι) (after : List (GatewayMoment ι))
    (split : history ++ [moment] = before ++ earlier :: after) (nonce : Text)
    (there : nonce ∈ earlier.before.issued) :
    nonce ∈ s'.issued ∧ ∀ i, IssuedTo (history ++ [moment]) i nonce → IssuedTo before i nonce := by
  -- What was there before this moment is not what it issues.
  have still : nonce ∈ s.issued ∧ ∀ i, IssuedTo history i nonce → IssuedTo before i nonce := by
    rcases snoc_split split with ⟨rfl, rfl, _⟩ | ⟨rest, longer, _⟩
    · exact ⟨taken.before ▸ there, fun _ issued => issued⟩
    · exact sound.aged before earlier rest longer nonce there
  refine ⟨taken.changes.issued nonce still.1, fun i issued => ?_⟩
  rcases did_snoc issued with old | ⟨_, call⟩
  · exact still.2 i old
  · exact absurd still.1 (taken.changes.fresh nonce call).2

theorem lockFiles_step (sound : Sound setup start s history) (taken : Taken setup s history moment s')
    (before : List (GatewayMoment ι)) (earlier : GatewayMoment ι) (after : List (GatewayMoment ι))
    (split : history ++ [moment] = before ++ earlier :: after) (name : Text)
    (there : (earlier.before.instances name).lockFile = true) : (s'.instances name).lockFile = true := by
  refine taken.changes.lockFile name ?_
  rcases snoc_split split with ⟨_, rfl, _⟩ | ⟨rest, longer, _⟩
  · exact taken.before ▸ there
  · exact sound.lockFiles before earlier rest longer name there

theorem past_step (sound : Sound setup start s history) (taken : Taken setup s history moment s')
    (before : List (GatewayMoment ι)) (earlier : GatewayMoment ι) (after : List (GatewayMoment ι))
    (split : history ++ [moment] = before ++ earlier :: after) (i : ι) (nonce name : Text)
    (issued : IssuedTo before i nonce) (free : (earlier.before.instances name).holder ≠ some i) :
    (s'.instances name).holder ≠ some i := by
  have still : IssuedTo history i nonce ∧ (s.instances name).holder ≠ some i := by
    rcases snoc_split split with ⟨rfl, rfl, _⟩ | ⟨rest, rfl, _⟩
    · exact ⟨issued, taken.before ▸ free⟩
    · exact ⟨did_later issued _, sound.past before earlier rest rfl i nonce name issued free⟩
  intro holds
  rcases taken.changes.holder name i holds with before | ⟨rfl, target, tries⟩
  · exact still.2 before
  · have unnamed := taken.obeys
    rw [tries] at unnamed
    cases (sound.issues _ nonce still.1).2.2.symm.trans unnamed

/-- **One step keeps it.** -/
theorem sound_step (sound : Sound setup start s history) (taken : Taken setup s history moment s') :
    Sound setup start s' (history ++ [moment]) where
  older nonce there := taken.changes.issued nonce (sound.older nonce there)
  own := own_step sound
  issues := issues_step sound taken
  distinct := distinct_step sound taken
  states := states_step sound taken
  requests := requests_step sound taken
  read := read_step sound taken
  stopRead := stopRead_step sound taken
  opened := opened_step sound taken
  writes := writes_step sound taken
  aged := aged_step sound taken
  lockFiles := lockFiles_step sound taken
  past := past_step sound taken

theorem sound_beginning (beginning : Beginning start) : Sound setup start start [] := by
  have nothing : ∀ {i : ι} {what : GatewayCall ι → Prop}, ¬ Did [] i what := by
    rintro i what ⟨_, wrong, _⟩
    cases wrong
  have never : ∀ {before after : List (GatewayMoment ι)} {moment : GatewayMoment ι},
      ([] : List (GatewayMoment ι)) ≠ before ++ moment :: after :=
    fun split => List.append_ne_nil_of_right_ne_nil _ (List.cons_ne_nil _ _) split.symm
  exact {
    older := fun _ there => there
    own := fun _ _ wrong => by cases wrong
    issues := fun _ _ issued => (nothing issued).elim
    distinct := fun _ _ _ issued => (nothing issued).elim
    states := fun name stored nonce there named => beginning.issued ⟨name, .state⟩ stored nonce there named
    requests := fun name stored nonce there named =>
      Or.inl (beginning.issued ⟨name, .stop⟩ stored nonce there named)
    read := fun _ _ _ wrong => by cases wrong
    stopRead := fun _ _ _ wrong => by cases wrong
    opened := fun _ _ wrong => by cases wrong
    writes := fun _ _ _ requested => (nothing requested).elim
    aged := fun _ _ _ split => (never split).elim
    lockFiles := fun _ _ _ split => (never split).elim
    past := fun _ _ _ split => (never split).elim }

end Steps

/-- **At every moment of every run**, nonces, records and locks are sound, and every process obeys. -/
theorem stopping_sound {setup : Setup ι} {start : World ι} (beginning : Beginning start) {c : Gateways ι}
    (reached : Gateways.Reached setup start c) :
    Lawful (machine setup) exchange Exchanged.initial (fun i => Obeys (setup.args i))
      (Sound setup start) c.shared := by
  have along : ∀ i, (watcher exchange).Along (Obeys (setup.args i)) (fun _ _ => True) (program setup i)
      Exchanged.initial := fun i => process_obeys (setup.around i) (setup.rounds i)
  exact Processes.Reached.lawful along (fun _ _ _ _ => trivial) (sound_beginning beginning)
    (fun i s history op reply sound obeys permitted => sound_step sound ⟨rfl, changes_after permitted, obeys⟩)
    (fun i s history op sound obeys => sound_step sound ⟨rfl, changes_killed, obeys⟩) reached

/-! ### Whom a request reaches -/

/-- A gateway closes because of `stop.json` only if a `stop` has read its own nonce from its `state.json`. -/
def ClosesForStop (setup : Setup ι) (history : List (GatewayMoment ι)) : Prop :=
  ∀ before moment after, history = before ++ moment :: after → moment.call.op = .close .stopFile →
    ∃ nonce, IssuedTo before moment.who nonce ∧ (∀ i, IssuedTo history i nonce → i = moment.who) ∧
      Asked setup before (setup.args moment.who).name (.str nonce)

/-- What a process reports after a request to stop. -/
structure Report (history before : List (GatewayMoment ι)) (request : GatewayMoment ι)
    (between : List (GatewayMoment ι)) (report : GatewayMoment ι) (after : List (GatewayMoment ι)) (name : Text)
    (record : JsonObject) : Prop where
  split : history = before ++ request :: (between ++ report :: after)
  same : report.who = request.who
  requested : ∃ size, request.call = ⟨.replace ⟨name, .stop⟩ record, some (.ok size)⟩
  reported : ∃ shown, report.call.op = .print (.record shown)

/-- A process that reports after a request to stop has had the lock since its request, and from then on no
gateway whose nonce it wrote holds it. -/
def ReportsGone (history : List (GatewayMoment ι)) : Prop :=
  ∀ before request between report after name record,
    Report history before request between report after name record →
      ∃ first look rest, between = first ++ look :: rest ∧ look.who = request.who ∧
        look.call = ⟨.acquire name, some (.ok ())⟩ ∧ (look.before.instances name).holder = none ∧
        ∀ owner nonce, IssuedTo history owner nonce → Json.get? record "nonce" = some (.str nonce) →
          ∀ later ∈ rest ++ report :: after, (later.before.instances name).holder ≠ some owner

/-- No gateway owns an instance when the end of a request to it is reported. -/
def ReportsUnowned (setup : Setup ι) (history : List (GatewayMoment ι)) : Prop :=
  ∀ before request between report after name record,
    Report history before request between report after name record → ∀ i, ¬ Owns setup report.before name i

section Claims

variable {setup : Setup ι} {start : World ι}

/-- What holds of a run by now. -/
abbrev Stopping (setup : Setup ι) (start : World ι) (s : World ι × List (GatewayMoment ι)) : Prop :=
  Lawful (machine setup) exchange Exchanged.initial (fun i => Obeys (setup.args i)) (Sound setup start) s

theorem stopping_closes {s : World ι × List (GatewayMoment ι)} (lawful : Stopping setup start s) :
    ClosesForStop setup s.2 := by
  intro before moment after split closes
  obtain ⟨sound, obeys, _⟩ := lawful.ever before moment after split
  rw [closes] at obeys
  obtain ⟨nonce, has, read⟩ := obeys
  have issued := sound.own _ nonce has
  refine ⟨nonce, issued, fun i other => ?_, ?_⟩
  · refine lawful.now.distinct i moment.who nonce other ?_
    rw [split]
    exact did_later issued _
  · exact (sound.stopRead _ _ nonce read).resolve_left (sound.issues _ nonce issued).2.1

/-- After a request, a process reports only once it has had the lock again. -/
theorem look_since {s : World ι × List (GatewayMoment ι)} (lawful : Stopping setup start s)
    {before between after : List (GatewayMoment ι)} {request report : GatewayMoment ι} {name : Text}
    {record : JsonObject} (shown : Report s.2 before request between report after name record) :
    ∃ first look rest, between = first ++ look :: rest ∧ look.who = request.who ∧
      (look.call = ⟨.acquire name, some (.ok ())⟩ ∨ look.call = ⟨.lockExists name, some (.ok false)⟩) := by
  obtain ⟨size, requested⟩ := shown.requested
  obtain ⟨output, reported⟩ := shown.reported
  have whole : s.2 = (before ++ request :: between) ++ report :: after := by
    rw [shown.split, List.append_assoc, List.cons_append]
  obtain ⟨sound, obeys, _⟩ := lawful.ever _ report after whole
  have asked : Requested (before ++ request :: between) request.who name record :=
    ⟨request, List.mem_append_right _ List.mem_cons_self, rfl, size, requested⟩
  rw [reported, shown.same] at obeys
  have looked : (exchangedBy request.who (before ++ request :: between)).look = some (name, true) :=
    obeys name _ (sound.writes _ name record asked)
  -- The request has made the process forget what it had looked at before.
  have parts : exchangedBy request.who (before ++ request :: between) =
      watched exchange (exchangedBy request.who (before ++ [request])) request.who between := by
    rw [List.append_cons]
    exact List.foldl_append
  have forgotten : (exchangedBy request.who (before ++ [request])).look ≠ some (name, true) := by
    rw [exchangedBy_self requested]
    exact fun wrong => nomatch wrong
  rw [parts] at looked
  obtain ⟨first, look, rest, same, who, off, on⟩ :=
    @watched_since ι _ _ (World ι) Exchanged _ exchange _ request.who between
      (fun seen => seen.look = some (name, true)) forgotten looked
  refine ⟨first, look, rest, same, who, ?_⟩
  have found := on [] List.nil_prefix
  rcases exchanges_snoc (exchangedBy request.who (before ++ [request])) request.who first look with
    ⟨step, _⟩ | still
  · exact (exchanges_look step found).resolve_left off
  · rw [still] at found
    exact absurd found off

theorem stopping_gone {s : World ι × List (GatewayMoment ι)} (lawful : Stopping setup start s) :
    ReportsGone s.2 := by
  intro before request between report after name record shown
  obtain ⟨first, look, rest, rfl, who, finds⟩ := look_since lawful shown
  obtain ⟨size, requested⟩ := shown.requested
  obtain ⟨sound, obeys, _⟩ := lawful.ever before request _ shown.split
  rw [requested] at obeys
  obtain ⟨_, _, opened, value, written, read⟩ := obeys
  have atLook : s.2 = (before ++ request :: first) ++ look :: (rest ++ report :: after) := by
    rw [shown.split]
    simp only [List.append_assoc, List.cons_append]
  obtain ⟨soundLook, _, permitted⟩ := lawful.ever _ look _ atLook
  -- Its lock file has been there ever since the request was made.
  have there : (look.before.instances name).lockFile = true :=
    soundLook.lockFiles before request first rfl name (sound.opened _ name opened)
  have took : look.call = ⟨.acquire name, some (.ok ())⟩ := by
    refine finds.resolve_right fun missing => ?_
    rw [missing] at permitted
    have absent : false = (look.before.instances name).lockFile := (permitted _ rfl).2
    rw [there] at absent
    cases absent
  have free : (look.before.instances name).holder = none := by
    rw [took] at permitted
    exact (permitted _ rfl).2
  refine ⟨first, look, rest, rfl, who, took, free, fun owner nonce issued named later member => ?_⟩
  -- The nonce had been issued before the request was made.
  have known : nonce ∈ request.before.issued := by
    refine (sound.read _ name value read).2 nonce ?_
    rw [written] at named
    exact Option.some.inj named
  have had : IssuedTo (before ++ request :: first) owner nonce :=
    did_later ((lawful.now.aged before request _ shown.split nonce known).2 owner issued) _
  obtain ⟨since, final, parts⟩ := List.mem_iff_append.mp member
  have atLater : s.2 = ((before ++ request :: first) ++ look :: since) ++ later :: final := by
    rw [atLook, parts]
    simp only [List.append_assoc, List.cons_append]
  refine (lawful.ever _ later final atLater).1.past _ look since rfl owner nonce name had ?_
  rw [free]
  exact fun wrong => nomatch wrong

/-- **Whom a request to stop reaches.** A gateway closes because of `stop.json` only if a `stop` has read its own
nonce, and a `stop` reports the end of its request only after the gateways whose nonce it wrote gave up the lock. -/
theorem stopping_owner (setup : Setup ι) (start : World ι) (beginning : Beginning start) (c : Gateways ι)
    (reached : Gateways.Reached setup start c) : ClosesForStop setup c.shared.2 ∧ ReportsGone c.shared.2 :=
  ⟨stopping_closes (stopping_sound beginning reached), stopping_gone (stopping_sound beginning reached)⟩

end Claims

/-! ### A replacement just before the report -/

/-- A `stop`, the gateway that it stops, and one that takes its place. -/
def replacedSetup : Setup (Fin 3) where
  args i := if i = 0 then shopArgs .stop else shopArgs .serve
  around _ := shopSurroundings
  rounds _ := 3

/-- An instance that nobody has used. All three processes are started by hand. -/
def replacedStart : World (Fin 3) where
  instances _ := ⟨false, none, fun _ => none⟩
  issued := []
  started _ := true
  exited _ := none
  notices _ := false

theorem replacedStart_beginning : Beginning replacedStart where
  free _ := rfl
  issued _ _ _ found := nomatch found

/-- The gateway is stopped; the other one takes the lock between the last look of `stop` and its report. -/
def replacedServer : Gateways (Fin 3) :=
  played replacedSetup [] [List.replicate 64 0x61, List.replicate 64 0x62] replacedStart
    (List.replicate 14 1 ++ List.replicate 16 0 ++ List.replicate 18 1 ++ List.replicate 18 0 ++
      List.replicate 6 2 ++
      List.replicate 1 0)

/-- The request that this `stop` writes. -/
def isRequest (moment : GatewayMoment (Fin 3)) : Bool :=
  match moment with
  | ⟨_, who, .replace ⟨name, .stop⟩ _, some (.ok _)⟩ => who = 0 && name = "shop"
  | _ => false

/-- A report of this `stop`, while the other gateway holds the lock. -/
def isLate (moment : GatewayMoment (Fin 3)) : Bool :=
  match moment with
  | ⟨s, who, .print (.record _), _⟩ => who = 0 && (s.instances "shop").holder = some 2
  | _ => false

/-- A close because of `stop.json`. -/
def isStopped (moment : GatewayMoment (Fin 3)) : Bool :=
  match moment.call.op with
  | .close .stopFile => true
  | _ => false

theorem replacedServer_run : replacedServer.shared.2.any isStopped = true ∧
    ((replacedServer.shared.2.dropWhile fun moment => !isRequest moment).tail.any isLate) = true := by
  decide +kernel

/-- Two members of a list, one after the other. -/
theorem two_parts {β : Type} {members : List β} {one two : β → Bool}
    (found : (members.dropWhile fun member => !one member).tail.any two = true) :
    ∃ before first between second after, members = before ++ first :: (between ++ second :: after) ∧
      one first = true ∧ two second = true := by
  obtain ⟨second, member, last⟩ := List.any_eq_true.mp found
  obtain ⟨between, after, parts⟩ := List.mem_iff_append.mp member
  cases rest : members.dropWhile fun member => !one member with
  | nil =>
    rw [rest] at member
    cases member
  | cons first others =>
    rw [rest] at parts
    have begins : one first = true := by
      have head := List.head?_dropWhile_not (fun member => !one member) members
      rw [rest] at head
      simpa using head
    refine ⟨members.takeWhile fun member => !one member, first, between, second, after, ?_, begins, last⟩
    rw [← show others = between ++ second :: after from parts, ← rest, List.takeWhile_append_dropWhile]

theorem isRequest_spec {moment : GatewayMoment (Fin 3)} (asks : isRequest moment = true) :
    moment.who = 0 ∧ ∃ record size, moment.call = ⟨.replace ⟨"shop", .stop⟩ record, some (.ok size)⟩ := by
  unfold isRequest at asks
  split at asks
  · next s who name record size =>
    obtain ⟨mine, named⟩ := Bool.and_eq_true_iff.mp asks
    obtain rfl : name = "shop" := of_decide_eq_true named
    exact ⟨of_decide_eq_true mine, record, size, rfl⟩
  · cases asks

theorem isLate_spec {moment : GatewayMoment (Fin 3)} (late : isLate moment = true) :
    moment.who = 0 ∧ (∃ shown, moment.call.op = .print (.record shown)) ∧
      (moment.before.instances "shop").holder = some 2 := by
  unfold isLate at late
  split at late
  · next s who shown reply =>
    obtain ⟨mine, held⟩ := Bool.and_eq_true_iff.mp late
    exact ⟨of_decide_eq_true mine, ⟨shown, rfl⟩, of_decide_eq_true held⟩
  · cases late

/-- The report comes when the instance has another owner. -/
theorem replacedServer_report : ∃ before request between report after record,
    Report replacedServer.shared.2 before request between report after "shop" record ∧
      Owns replacedSetup report.before "shop" 2 := by
  obtain ⟨before, request, between, report, after, split, asks, late⟩ := two_parts replacedServer_run.2
  obtain ⟨mine, record, size, requested⟩ := isRequest_spec asks
  obtain ⟨also, reported, held⟩ := isLate_spec late
  exact ⟨before, request, between, report, after, record,
    ⟨split, also.trans mine.symm, ⟨size, requested⟩, reported⟩, held, rfl⟩

/-- **A replacement may be running when the end of the request is reported.** -/
theorem replaced_meanwhile : ¬ ∀ (setup : Setup (Fin 3)) (start : World (Fin 3)) (c : Gateways (Fin 3)),
    Beginning start → Gateways.Reached setup start c →
      ClosesForStop setup c.shared.2 ∧ ReportsGone c.shared.2 ∧ ReportsUnowned setup c.shared.2 := by
  intro all
  obtain ⟨before, request, between, report, after, record, reports, owns⟩ := replacedServer_report
  have unowned := (all replacedSetup replacedStart replacedServer replacedStart_beginning played_reached).2.2
  exact unowned before request between report after "shop" record reports 2 owns

/-- The gateway that was stopped, and the report of the `stop`, by the theorem. -/
theorem stopping_replacedServer : replacedServer.shared.2.any isStopped = true ∧
    (∃ before request between report after record,
      Report replacedServer.shared.2 before request between report after "shop" record) ∧
    (ClosesForStop replacedSetup replacedServer.shared.2 ∧ ReportsGone replacedServer.shared.2) := by
  obtain ⟨before, request, between, report, after, record, reports, _⟩ := replacedServer_report
  refine ⟨replacedServer_run.1, ⟨before, request, between, report, after, record, reports⟩, ?_⟩
  exact stopping_owner replacedSetup replacedStart replacedStart_beginning replacedServer played_reached

end AxiomMcp.Gateway
