/-
**Requests to stop, by the process.**

What a process has read and written of nonces (`Exchanged`), and what it keeps to (`Obeys`):

* a gateway tries no lock once it has its nonce, puts no other nonce into `state.json`, and closes because of
  `stop.json` only if it has read its own nonce there;
* a `stop` writes a nonce only that it has just read from `state.json` of an instance whose lock file it opened,
  and reports the end of a request only after it has looked again and found the lock free;
* `process_obeys`: every process keeps to that.
-/

import AxiomMcp.Gateway.Notes

namespace AxiomMcp.Gateway

open Lib Program Machine

variable {ι : Type}

/-! ### What a process has exchanged -/

/-- What a process has read and written. -/
structure Exchanged where
  /-- The nonce that was issued to it. -/
  nonce : Option Text
  /-- The instance and the nonce of the last `state.json` it read. -/
  read : Option (Text × Json)
  /-- The instance and the nonce of the last `stop.json` it read. -/
  stopRead : Option (Text × Json)
  /-- The instance whose lock file it opened last. -/
  opened : Option Text
  /-- The instance it asked to stop, and the nonce it wrote there. -/
  wrote : Option (Text × Json)
  /-- The instance that it looked at last, and whether it found its lock free since. -/
  look : Option (Text × Bool)

/-- Nothing yet. -/
def Exchanged.initial : Exchanged := ⟨none, none, none, none, none, none⟩

/-- The nonce of a record, with the instance it was found at. -/
def nonceAt (name : Text) (record : JsonObject) : Option (Text × Json) :=
  (Json.get? record "nonce").map fun nonce => (name, nonce)

/-- A record was read. -/
def Exchanged.loaded (seen : Exchanged) (path : RecordPath) (record : JsonObject) : Exchanged :=
  match path.kind with
  | .state => { seen with read := nonceAt path.name record }
  | .stop => { seen with stopRead := nonceAt path.name record }

/-- A record was replaced. A new request has to be looked after anew. -/
def Exchanged.replaced (seen : Exchanged) (path : RecordPath) (record : JsonObject) : Exchanged :=
  match path.kind with
  | .state => seen
  | .stop => { seen with wrote := some (path.name, (Json.get? record "nonce").getD .null), look := none }

/-- The lock of an instance was found free. -/
def Exchanged.foundFree (seen : Exchanged) (name : Text) : Exchanged :=
  { seen with look := seen.look.map fun look => (look.1, look.2 || look.1 = name) }

/-- One more operation. -/
def exchange (seen : Exchanged) : (op : GatewayOp ι) → GatewayReply op → Exchanged
  | .nonce, nonce => { seen with nonce := some nonce }
  | .load path, .ok (.obj record) => seen.loaded path record
  | .openLock name, .ok _ => { seen with opened := some name }
  | .replace path record, .ok _ => seen.replaced path record
  | .entered name, _ => { seen with look := some (name, false) }
  | .acquire name, .ok _ => seen.foundFree name
  | .lockExists name, .ok false => seen.foundFree name
  | _, _ => seen

/-- What a process keeps to. -/
def Obeys (args : Args) (seen : Exchanged) : GatewayOp ι → Prop
  | .acquire _ => seen.nonce = none
  | .nonce => seen.nonce = none
  | .replace ⟨_, .state⟩ record => ∃ nonce, seen.nonce = some nonce ∧ Json.get? record "nonce" = some (.str nonce)
  | .replace ⟨name, .stop⟩ record =>
    args.action = .stop ∧ seen.wrote = none ∧ seen.opened = some name ∧
      ∃ nonce, record = ([("nonce", nonce)] : JsonObject) ∧ seen.read = some (name, nonce)
  | .close .stopFile => ∃ nonce, seen.nonce = some nonce ∧ seen.stopRead = some (args.name, .str nonce)
  | .print (.record _) => ∀ name nonce, seen.wrote = some (name, nonce) → seen.look = some (name, true)
  | _ => True

/-- Operations that are not noted. -/
def Mute : GatewayOp ι → Prop
  | .nonce | .load _ | .openLock _ | .replace _ _ | .entered _ | .acquire _ | .lockExists _ | .close .stopFile
  | .print (.record _) => False
  | _ => True

theorem exchange_mute {seen : Exchanged} (op : GatewayOp ι) (reply : GatewayReply op) (mute : Mute op) :
    exchange seen op reply = seen := by
  cases op with
  | nonce | load _ | openLock _ | replace _ _ | entered _ | acquire _ | lockExists _ => exact mute.elim
  | _ => rfl

theorem obeys_mute {args : Args} {seen : Exchanged} (op : GatewayOp ι) (mute : Mute op) : Obeys args seen op := by
  cases op with
  | nonce | acquire _ | replace _ _ => exact mute.elim
  | close reason =>
    cases reason with
    | stopFile => exact mute.elim
    | _ => exact trivial
  | print output =>
    cases output with
    | record value => exact mute.elim
    | _ => exact trivial
  | _ => exact trivial

/-- What a process keeps to about nonces. -/
def requesting (args : Args) : Discipline ι Exchanged where
  note := exchange
  keeps := Obeys args
  Quiet := Mute
  still _ op reply mute := exchange_mute op reply mute
  kept _ op mute := obeys_mute op mute

theorem mute_directory {name : Text} (op : GatewayOp ι) (asks : OfDirectory name op) : Mute op := by
  cases op with
  | linked other => exact trivial
  | mkdir other => exact trivial
  | _ => exact asks.elim

theorem mute_launch {args : Args} (op : GatewayOp ι) (asks : OfLaunch args op) : Mute op := by
  cases op with
  | linked other => exact trivial
  | mkdir other => exact trivial
  | settings host port => exact trivial
  | _ => exact asks.elim

/-! ### Records -/

section Along

variable {α : Type} {args : Args} {seen : Exchanged}

/-- What reading a record leaves: nothing but what was read. -/
structure AfterReading (path : RecordPath) (before : Exchanged) (outcome : Except GatewayError JsonObject)
    (seen : Exchanged) : Prop where
  nonce : seen.nonce = before.nonce
  opened : seen.opened = before.opened
  wrote : seen.wrote = before.wrote
  look : seen.look = before.look
  stopRead : path.kind = .state → seen.stopRead = before.stopRead
  read : path.kind = .stop → seen.read = before.read
  found : ∀ record nonce, outcome = .ok record → Json.get? record "nonce" = some nonce →
    match path.kind with
    | .state => seen.read = some (path.name, nonce)
    | .stop => seen.stopRead = some (path.name, nonce)

theorem afterReading_error {path : RecordPath} {raised : GatewayError} :
    AfterReading path seen (.error raised) seen :=
  ⟨rfl, rfl, rfl, rfl, fun _ => rfl, fun _ => rfl, fun _ _ wrong => nomatch wrong⟩

theorem afterReading_missing {path : RecordPath} : AfterReading path seen (.ok []) seen := by
  refine ⟨rfl, rfl, rfl, rfl, fun _ => rfl, fun _ => rfl, fun record nonce same wrong => ?_⟩
  obtain rfl := Except.ok.inj same
  cases wrong

theorem afterReading_loaded {path : RecordPath} {record : JsonObject} :
    AfterReading path seen (.ok record) (seen.loaded path record) := by
  obtain ⟨name, kind⟩ := path
  cases kind with
  | state =>
    refine ⟨rfl, rfl, rfl, rfl, fun _ => rfl, (fun wrong => nomatch wrong), fun record nonce same found => ?_⟩
    obtain rfl := Except.ok.inj same
    exact congrArg (Option.map fun nonce => (name, nonce)) found
  | stop =>
    refine ⟨rfl, rfl, rfl, rfl, (fun wrong => nomatch wrong), fun _ => rfl, fun record nonce same found => ?_⟩
    obtain rfl := Except.ok.inj same
    exact congrArg (Option.map fun nonce => (name, nonce)) found

theorem requesting_readRecord (path : RecordPath) :
    Seeing (ι := ι) (requesting args) (AfterReading path seen) (readRecord path) seen := by
  refine seeing_attempt trivial (fun linked => ?_) fun _ _ => afterReading_error
  refine seeing_refuse ?_ afterReading_error
  refine seeing_call trivial fun size => ?_
  rcases size with (_ | raised) | size
  · exact afterReading_missing
  · exact afterReading_error
  refine seeing_refuse ?_ afterReading_error
  refine along_call trivial fun value _ => ?_
  rcases value with (_ | raised) | value
  · exact afterReading_missing
  · exact afterReading_error
  · cases value with
    | obj record => exact afterReading_loaded
    | _ => exact afterReading_error

/-- What replacing a record leaves: what the previous one held may have been read, and the new one is written. -/
structure AfterWriting (path : RecordPath) (record : JsonObject) (before : Exchanged)
    (outcome : Except GatewayError Unit) (seen : Exchanged) : Prop where
  nonce : seen.nonce = before.nonce
  wrote : path.kind = .state → seen.wrote = before.wrote
  written : path.kind = .stop → outcome = .ok () →
    seen.wrote = some (path.name, (Json.get? record "nonce").getD .null)

theorem requesting_replaceRecord {path : RecordPath} {record : JsonObject}
    (obeys : Obeys (ι := ι) args seen (.replace path record)) :
    Seeing (ι := ι) (requesting args) (AfterWriting path record seen) (replaceRecord path record) seen := by
  refine seeing_call trivial fun written => ?_
  cases written with
  | error raised => exact ⟨rfl, fun _ => rfl, fun _ wrong => nomatch wrong⟩
  | ok _ =>
    refine along_call obeys fun size _ => ?_
    cases size with
    | error raised => exact ⟨rfl, fun _ => rfl, fun _ wrong => nomatch wrong⟩
    | ok size =>
      show AfterWriting path record seen (.ok ()) (seen.replaced path record)
      obtain ⟨name, kind⟩ := path
      cases kind with
      | state => exact ⟨rfl, fun _ => rfl, fun wrong => nomatch wrong⟩
      | stop => exact ⟨rfl, (fun wrong => nomatch wrong), fun _ _ => rfl⟩

/-- The record may be replaced, whatever was there before. -/
def MayReplace (ι : Type) (args : Args) (path : RecordPath) (record : JsonObject) (seen : Exchanged) : Prop :=
  Obeys (ι := ι) args seen (.replace path record)

/-- A record that was read for its own sake does not matter to a replacement. -/
theorem mayReplace_reading {path : RecordPath} {record : JsonObject} {outcome : Except GatewayError JsonObject}
    {seen' : Exchanged} (may : MayReplace ι args path record seen) (read : AfterReading path seen outcome seen') :
    MayReplace ι args path record seen' := by
  obtain ⟨name, kind⟩ := path
  cases kind with
  | state =>
    obtain ⟨nonce, own, same⟩ := may
    exact ⟨nonce, read.nonce.trans own, same⟩
  | stop =>
    obtain ⟨stops, wrote, opened, nonce, same, found⟩ := may
    exact ⟨stops, read.wrote.trans wrote, read.opened.trans opened, nonce, same, (read.read rfl).trans found⟩

theorem requesting_writeRecord {path : RecordPath} {record : JsonObject}
    (may : MayReplace ι args path record seen) :
    Seeing (ι := ι) (requesting args) (AfterWriting path record seen) (writeRecord path record) seen := by
  have failed : ∀ {raised : GatewayError} {seen' : Exchanged}, seen'.nonce = seen.nonce → seen'.wrote = seen.wrote →
      AfterWriting path record seen (.error raised) seen' :=
    fun nonce wrote => ⟨nonce, fun _ => wrote, fun _ wrong => nomatch wrong⟩
  refine seeing_attempt trivial (fun there => ?_) fun raised _ => failed rfl rfl
  have checked : Seeing (ι := ι) (requesting args) (fun outcome seen' => MayReplace ι args path record seen' ∧
      seen'.nonce = seen.nonce ∧ seen'.wrote = seen.wrote) (onlyIf there (readPrevious path)) seen := by
    cases there with
    | false => exact ⟨may, rfl, rfl⟩
    | true =>
      refine (requesting_readRecord path).bind (fun previous seen' read => ?_) fun raised seen' read =>
        ⟨mayReplace_reading may read, read.nonce, read.wrote⟩
      refine (seeing_asks (checkPrevious_asks Mute path.kind previous) fun op mute => mute).post
        fun outcome seen'' same => ?_
      obtain rfl := same.1
      exact ⟨mayReplace_reading may read, read.nonce, read.wrote⟩
  refine checked.bind (fun _ seen' ready => ?_) fun raised seen' ready => failed ready.2.1 ready.2.2
  obtain ⟨obeys, nonce, wrote⟩ := ready
  refine Along.ensure (requesting_replaceRecord obeys) fun outcome seen'' written => ?_
  refine seeing_call trivial fun removed => ?_
  have whole : AfterWriting path record seen outcome seen'' :=
    ⟨written.nonce.trans nonce, fun state => (written.wrote state).trans wrote, written.written⟩
  cases removed with
  | ok _ => exact whole
  | error raised => exact ⟨whole.nonce, whole.wrote, fun _ wrong => nomatch wrong⟩

/-! ### Locks and observers -/

/-- What a lock attempt leaves. -/
structure AfterAttempt (name : Text) (before : Exchanged) (outcome : Except GatewayError Unit) (seen : Exchanged) :
    Prop where
  nonce : seen.nonce = before.nonce
  wrote : seen.wrote = before.wrote
  had : outcome = .ok () → seen.look = (before.foundFree name).look
  busy : outcome = .error .busy → seen.opened = some name

theorem afterAttempt_fault {name : Text} {before : Exchanged} {raised : GatewayError} (other : NotBusy raised)
    (nonce : seen.nonce = before.nonce) (wrote : seen.wrote = before.wrote) :
    AfterAttempt name before (.error raised) seen :=
  ⟨nonce, wrote, (fun wrong => nomatch wrong), fun same => absurd (Except.error.inj same) other⟩

theorem requesting_ownership (name : Text) (unnamed : seen.nonce = none) :
    Seeing (ι := ι) (requesting args) (AfterAttempt name seen) (ownership name) seen := by
  refine seeing_attempt trivial (fun linked => ?_) fun raised other => afterAttempt_fault other rfl rfl
  refine seeing_refuse ?_ (afterAttempt_fault (fun wrong => nomatch wrong) rfl rfl)
  refine along_call trivial fun opened _ => ?_
  cases opened with
  | error raised => exact afterAttempt_fault (fun wrong => nomatch wrong) rfl rfl
  | ok _ =>
    refine along_call unnamed fun locked _ => ?_
    rcases locked with (_ | raised) | done
    · refine seeing_call trivial fun closed => ?_
      cases closed with
      | ok _ => exact ⟨rfl, rfl, (fun wrong => nomatch wrong), fun _ => rfl⟩
      | error raised => exact afterAttempt_fault (fun wrong => nomatch wrong) rfl rfl
    · refine seeing_call trivial fun closed => ?_
      cases closed with
      | ok _ => exact afterAttempt_fault (fun wrong => nomatch wrong) rfl rfl
      | error raised => exact afterAttempt_fault (fun wrong => nomatch wrong) rfl rfl
    · exact ⟨rfl, rfl, fun _ => rfl, fun wrong => nomatch wrong⟩

theorem giveUp_asks (name : Text) : Asks (ι := ι) Mute (giveUp name) :=
  Asks.ensure (asks_call trivial fun _ => asks_attempt _) (asks_call trivial fun _ => asks_attempt _)

/-- A process that serves nothing, and what it wrote so far. -/
structure Idle (wrote : Option (Text × Json)) (seen : Exchanged) : Prop where
  nonce : seen.nonce = none
  wrote : seen.wrote = wrote

/-- What `inspect` has found out. -/
structure Found (name : Text) (record : JsonObject) (seen : Exchanged) : Prop where
  stopped : isTrue record "running" = false → seen.look = some (name, true)
  running : isTrue record "running" = true → seen.opened = some name ∧
    ∀ nonce, Json.get? record "nonce" = some nonce → seen.read = some (name, nonce)

/-- How an `inspect` ends. -/
def Inspected (name : Text) (wrote : Option (Text × Json)) (outcome : Except GatewayError JsonObject)
    (seen : Exchanged) : Prop :=
  Idle wrote seen ∧ ∀ record, outcome = .ok record → Found name record seen

theorem isTrue_stopped (name : Text) : isTrue (stopped name) "running" = false := by
  simp [stopped, isTrue, Json.get?]

theorem isTrue_running (name : Text) (record : JsonObject) : isTrue (running name record) "running" = true := by
  unfold isTrue running
  rw [get?_updated_of_ne (by decide), get?_updated_self]

theorem nonce_running (name : Text) (record : JsonObject) :
    Json.get? (running name record) "nonce" = Json.get? record "nonce" := by
  unfold running
  rw [get?_updated_of_ne (by decide), get?_updated_of_ne (by decide)]

theorem inspected_error {name : Text} {wrote : Option (Text × Json)} {raised : GatewayError}
    (idle : Idle wrote seen) :
    Inspected name wrote (.error raised) seen := ⟨idle, fun _ wrong => nomatch wrong⟩

theorem inspected_stopped {name : Text} {wrote : Option (Text × Json)} (idle : Idle wrote seen)
    (free : seen.look = some (name, true)) : Inspected name wrote (.ok (stopped name)) seen := by
  refine ⟨idle, fun record same => ?_⟩
  obtain rfl := Except.ok.inj same
  refine ⟨fun _ => free, fun wrong => ?_⟩
  rw [isTrue_stopped] at wrong
  cases wrong

theorem look_foundFree {name : Text} (looks : seen.look = some (name, false)) :
    (seen.foundFree name).look = some (name, true) := by
  show seen.look.map _ = _
  rw [looks]
  simp

theorem requesting_inspection {name : Text} {wrote : Option (Text × Json)} (idle : Idle wrote seen)
    (looks : seen.look = some (name, false)) :
    Seeing (ι := ι) (requesting args) (Inspected name wrote) (inspection name) seen := by
  refine seeing_bind (directory_asks name false) mute_directory (fun _ => ?_) fun raised _ => inspected_error idle
  refine along_call trivial fun there _ => ?_
  rcases there with raised | _ | _
  · exact inspected_error idle
  · have free : Idle wrote (seen.foundFree name) := ⟨idle.nonce, idle.wrote⟩
    exact inspected_stopped free (look_foundFree looks)
  · refine (requesting_ownership name idle.nonce).resume fun outcome seen' attempted => ?_
    have still : Idle wrote seen' := ⟨attempted.nonce.trans idle.nonce, attempted.wrote.trans idle.wrote⟩
    rcases outcome with (_ | _ | _ | _) | _
    · refine (requesting_readRecord ⟨name, .state⟩).bind (fun record seen'' read => ?_) fun raised seen'' read => ?_
      · have after : Idle wrote seen'' := ⟨read.nonce.trans still.nonce, read.wrote.trans still.wrote⟩
        refine seeing_refuse ?_ (inspected_error after)
        refine ⟨after, fun shown same => ?_⟩
        obtain rfl := Except.ok.inj same
        refine ⟨fun wrong => ?_, fun _ => ⟨read.opened.trans (attempted.busy rfl), fun nonce found => ?_⟩⟩
        · rw [isTrue_running] at wrong
          cases wrong
        · rw [nonce_running] at found
          exact read.found record nonce rfl found
      · exact inspected_error ⟨read.nonce.trans still.nonce, read.wrote.trans still.wrote⟩
    · exact inspected_error still
    · exact inspected_error still
    · exact inspected_error still
    · refine seeing_bind (giveUp_asks name) (fun _ mute => mute) (fun _ => ?_) fun raised _ => inspected_error still
      exact inspected_stopped still ((attempted.had rfl).trans (look_foundFree looks))

/-- **What a process knows after `inspect`.** -/
theorem requesting_inspect (name : Text) {wrote : Option (Text × Json)} (idle : Idle wrote seen) :
    Seeing (ι := ι) (requesting args) (Inspected name wrote) (inspect name) seen := by
  refine along_call trivial fun _ _ => ?_
  have looks : Idle wrote { seen with look := some (name, false) } := ⟨idle.nonce, idle.wrote⟩
  refine (requesting_inspection looks rfl).bind (fun record seen' inspected => ?_)
    fun raised seen' inspected => inspected
  exact seeing_call trivial fun _ => inspected

theorem idle_inspect (name : Text) {wrote : Option (Text × Json)} (idle : Idle wrote seen) :
    Seeing (ι := ι) (requesting args) (Stays (Idle wrote)) (inspect name) seen :=
  (requesting_inspect name idle).post fun _ _ inspected => inspected.1

theorem idle_readRecord (path : RecordPath) {wrote : Option (Text × Json)} (idle : Idle wrote seen) :
    Seeing (ι := ι) (requesting args) (Stays (Idle wrote)) (readRecord path) seen :=
  (requesting_readRecord path).post fun _ _ read => ⟨read.nonce.trans idle.nonce, read.wrote.trans idle.wrote⟩

theorem idle_instanceRow (name : Text) {wrote : Option (Text × Json)} (idle : Idle wrote seen) :
    Seeing (ι := ι) (requesting args) (Stays (Idle wrote)) (instanceRow name) seen := by
  have inside : Seeing (ι := ι) (requesting args) (Stays (Idle wrote)) (do
      let record ← readRecord ⟨name, .state⟩
      if foreignRecord record then .done none
      else do
        let now ← inspect name
        .done (some (merged record now))) seen := by
    refine stays_bind (idle_readRecord _ idle) fun record seen' idle => ?_
    split
    · exact idle
    · exact stays_bind (idle_inspect name idle) fun _ _ idle => idle
  refine inside.rescue (fun _ _ idle => idle) fun raised seen' idle => ?_
  split
  · exact idle
  · exact idle

/-- Looking for a lock file tells whether it is there. -/
theorem idle_lockExists {β : Type} (name : Text) {wrote : Option (Text × Json)} {f : Bool → GatewayProgram ι β}
    (idle : Idle wrote seen)
    (next : ∀ there seen', Idle wrote seen' → Seeing (requesting args) (Stays (Idle wrote)) (f there) seen') :
    Seeing (requesting args) (Stays (Idle wrote)) ((.call (.lockExists name) attempt) >>= f) seen := by
  refine along_call trivial fun there _ => ?_
  rcases there with raised | _ | _
  · exact idle
  · have free : Idle wrote (seen.foundFree name) := ⟨idle.nonce, idle.wrote⟩
    exact next false _ free
  · exact next true _ idle

theorem idle_candidate (name : Text) {wrote : Option (Text × Json)} (idle : Idle wrote seen) :
    Seeing (ι := ι) (requesting args) (Stays (Idle wrote)) (candidate name) seen := by
  unfold candidate
  split
  · refine stays_attempt idle trivial fun fits => ?_
    split
    · refine stays_attempt idle trivial fun hasState => ?_
      split
      · exact idle_instanceRow name idle
      refine idle_lockExists name idle fun hasLock seen' idle => ?_
      split
      · exact idle_instanceRow name idle
      · exact idle
    · exact idle
  · exact idle

theorem idle_candidates (names : List Text) {wrote : Option (Text × Json)} (idle : Idle wrote seen) :
    Seeing (ι := ι) (requesting args) (Stays (Idle wrote)) (candidates names) seen := by
  induction names generalizing seen with
  | nil => exact idle
  | cons name rest ih =>
    refine stays_bind (idle_candidate name idle) fun row seen' idle => ?_
    exact stays_bind (ih idle) fun _ _ idle => idle

theorem idle_instances {wrote : Option (Text × Json)} (idle : Idle wrote seen) :
    Seeing (ι := ι) (requesting args) (Stays (Idle wrote)) instances seen := by
  refine stays_bind (stays_asks (directory_asks _ _) mute_directory idle) fun _ seen' idle => ?_
  refine stays_attempt idle trivial fun there => ?_
  split
  · refine stays_attempt idle trivial fun names => ?_
    exact idle_candidates names idle
  · exact idle

/-! ### Commands -/

/-- A report of a process that has asked nobody to stop. -/
theorem idle_printRecord (record : JsonObject) (idle : Idle none seen) :
    Seeing (ι := ι) (requesting args) (Stays (Idle none)) (printRecord record) seen := by
  refine along_call ?_ fun printed _ => ?_
  · intro name nonce wrote
    rw [idle.wrote] at wrote
    cases wrote
  · cases printed with
    | ok _ => exact idle
    | error raised => exact idle

theorem idle_inventory (command : Args) (idle : Idle none seen) :
    Seeing (ι := ι) (requesting args) (Stays (Idle none)) (inventory command) seen := by
  refine stays_refuse idle (stays_bind (idle_instances idle) fun records seen' idle => ?_)
  exact stays_bind (stays_print idle trivial) fun _ _ idle => idle

theorem idle_selectRunning (command : Args) (idle : Idle none seen) :
    Seeing (ι := ι) (requesting args) (Stays (Idle none)) (selectRunning command) seen := by
  refine stays_bind (idle_instances idle) fun observed seen' idle => stays_refuse idle ?_
  split
  · refine along_call ?_ fun printed _ => ?_
    · unfold noneRunningOutput
      split
      · intro name nonce wrote
        rw [idle.wrote] at wrote
        cases wrote
      · exact trivial
    · cases printed with
      | ok _ => exact idle
      | error raised => exact idle
  · exact idle

theorem idle_awaitGone (name : Text) (nonce : Json) (rounds : ℕ) {wrote : Option (Text × Json)}
    (idle : Idle wrote seen) :
    Seeing (ι := ι) (requesting args) (Stays (Idle wrote)) (awaitGone name nonce rounds) seen := by
  induction rounds generalizing seen with
  | zero => exact idle
  | succ rounds ih =>
    refine stays_bind (idle_inspect name idle) fun current seen' idle => ?_
    split
    · exact idle
    · exact ih idle

/-- **A request to stop ends well only after its lock was found free again.** -/
theorem requesting_requestStop {name : Text} {result : JsonObject} (stops : args.action = .stop)
    (idle : Idle none seen) (found : Found name result seen) (runs : isTrue result "running" = true) :
    Seeing (ι := ι) (requesting args) (fun outcome seen' => ∀ after, outcome = .ok after →
      ∃ nonce, seen'.wrote = some (name, nonce) ∧
        seen'.look = some (name, true)) (requestStop name result) seen := by
  obtain ⟨opened, read⟩ := found.running runs
  unfold requestStop
  cases held : Json.get? result "nonce" with
  | none => exact fun _ wrong => nomatch wrong
  | some nonce =>
  refine seeing_refuse ?_ (fun _ wrong => nomatch wrong)
  refine seeing_bind (directory_asks name false) mute_directory (fun _ => ?_) fun raised _ _ wrong => nomatch wrong
  have may : MayReplace ι args ⟨name, .stop⟩ [("nonce", nonce)] seen :=
    ⟨stops, idle.wrote, opened, nonce, rfl, read nonce held⟩
  refine (requesting_writeRecord may).bind (fun _ seen' written => ?_)
    fun raised seen' written _ wrong => nomatch wrong
  have asked : Idle (some (name, nonce)) seen' := ⟨written.nonce.trans idle.nonce, written.written rfl rfl⟩
  refine (idle_awaitGone name _ 140 asked).bind (fun _ seen'' asked => ?_)
    fun raised seen'' _ _ wrong => nomatch wrong
  refine (requesting_inspect name asked).bind (fun after last inspected => ?_)
    fun raised last _ _ wrong => nomatch wrong
  cases again : isTrue after "running" with
  | true => exact fun _ wrong => nomatch wrong
  | false =>
    intro _ _
    exact ⟨nonce, inspected.1.wrote, (inspected.2 after rfl).stopped again⟩

theorem requesting_statusOrStop {command : Args} (selected : Option JsonObject)
    (same : command.action = args.action) (idle : Idle none seen) :
    Seeing (ι := ι) (requesting args) (Stays fun _ => True) (statusOrStop command selected) seen := by
  refine (requesting_inspect command.name idle).bind (fun result seen' inspected => ?_) fun _ _ _ => trivial
  refine stays_refuse trivial ?_
  have reported : Seeing (ι := ι) (requesting args) (fun outcome seen'' => ∀ after, outcome = .ok after →
      ∀ name nonce, seen''.wrote = some (name, nonce) → seen''.look = some (name, true))
      (stopIf (command.action = .stop && isTrue result "running") command.name result) seen' := by
    unfold stopIf
    split
    · next wanted =>
      obtain ⟨stops, runs⟩ := Bool.and_eq_true_iff.mp wanted
      refine (requesting_requestStop (same.symm.trans (of_decide_eq_true stops)) inspected.1
        (inspected.2 result rfl) runs).post fun outcome seen'' ended after ok name nonce wrote => ?_
      obtain ⟨_, written, free⟩ := ended after ok
      rw [wrote] at written
      rwa [(Prod.mk.inj (Option.some.inj written)).1]
    · intro _ _ name nonce wrote
      rw [inspected.1.wrote] at wrote
      cases wrote
  refine reported.bind (fun after seen'' gone => ?_) fun _ _ _ => trivial
  have printed : Seeing (ι := ι) (requesting args) (Stays fun _ => True) (printRecord after) seen'' :=
    along_call (gone after rfl) fun printed _ => by cases printed <;> exact trivial
  refine stays_bind printed fun _ _ _ => stays_bind ?_ fun _ _ _ => trivial
  unfold onlyIf
  split
  · exact stays_print trivial trivial
  · exact trivial

theorem requesting_stop {command : Args} (same : command.action = args.action) (idle : Idle none seen) :
    Seeing (ι := ι) (requesting args) (Stays fun _ => True) (stop command) seen := by
  unfold stop
  split
  · exact requesting_statusOrStop _ same idle
  · refine (idle_selectRunning command idle).bind (fun row seen' idle => ?_) fun _ _ _ => trivial
    cases row with
    | none => exact trivial
    | some row => exact requesting_statusOrStop _ same idle

theorem idle_awaitListening (name launchId : Text) (child : ι) (rounds : ℕ) (idle : Idle none seen) :
    Seeing (requesting args) (Stays (Idle none)) (awaitListening name launchId child rounds) seen := by
  induction rounds generalizing seen with
  | zero => exact idle
  | succ rounds ih =>
    refine seeing_call trivial fun code => stays_refuse idle ?_
    refine stays_bind (idle_inspect name idle) fun active seen' idle => ?_
    split
    · exact idle_printRecord active idle
    · exact ih idle

theorem idle_start (around : Surroundings) (command : Args) (idle : Idle none seen) :
    Seeing (ι := ι) (requesting args) (Stays (Idle none)) (start around command) seen := by
  refine stays_bind (stays_asks (checkLaunch_asks _) mute_launch idle) fun _ seen' idle => ?_
  refine stays_bind (idle_inspect _ idle) fun active seen' idle => ?_
  split
  · refine stays_refuse idle ?_
    exact stays_bind (idle_printRecord active idle) fun _ _ idle => idle
  · refine seeing_call trivial fun launchId => seeing_call trivial fun child => ?_
    refine stays_bind (p := attempt child) ?_ fun child seen' idle => ?_
    · cases child with
      | ok _ => exact idle
      | error raised => exact idle
    · exact stays_bind (idle_awaitListening _ _ _ _ idle) fun _ _ idle => idle

/-! ### The server -/

/-- A process that serves under its nonce. -/
def Serving (nonce : Text) (seen : Exchanged) : Prop := seen.nonce = some nonce

theorem nonce_gatewayRecord (around : Surroundings) (command : Args) (pid port : ℤ) (nonce : Text) :
    Json.get? (gatewayRecord around command pid port nonce) "nonce" = some (.str nonce) := by
  rfl

/-- The gateway may replace its own record with one that has its nonce. -/
theorem serving_writeRecord {name : Text} {record : JsonObject} {nonce : Text} (serving : Serving nonce seen)
    (named : Json.get? record "nonce" = some (.str nonce)) :
    Seeing (ι := ι) (requesting args) (Stays (Serving nonce)) (writeRecord ⟨name, .state⟩ record) seen := by
  have may : MayReplace ι args ⟨name, .state⟩ record seen := ⟨nonce, serving, named⟩
  exact (requesting_writeRecord may).post fun _ _ written => written.nonce.trans serving

/-- A stop request that is read, or that cannot be. -/
theorem serving_readStop (name : Text) {nonce : Text} (serving : Serving nonce seen) :
    Seeing (ι := ι) (requesting args) (fun outcome seen' => Serving nonce seen' ∧ ∀ stop other, outcome = .ok stop →
      Json.get? stop "nonce" = some other → seen'.stopRead = some (name, other)) (readStop name) seen := by
  refine (requesting_readRecord ⟨name, .stop⟩).rescue (fun stop seen' read => ?_) fun raised seen' read => ?_
  · exact ⟨read.nonce.trans serving, fun record other same found => read.found record other same found⟩
  · have still : Serving nonce seen' := read.nonce.trans serving
    split
    · refine ⟨still, fun stop other same wrong => ?_⟩
      obtain rfl := Except.ok.inj same
      cases wrong
    · exact ⟨still, fun _ _ wrong => nomatch wrong⟩

theorem hasText_eq {record : JsonObject} {key value : Text} (has : hasText record key value = true) :
    Json.get? record key = some (.str value) := by
  unfold hasText at has
  split at has
  · next other found => rw [found, of_decide_eq_true has]
  · cases has

theorem serving_wake {nonce : Text} {next : GatewayProgram ι Monitored} (serving : Serving nonce seen)
    (goesOn : ∀ seen', Serving nonce seen' → Seeing (requesting args) (Stays (Serving nonce)) next seen') :
    Seeing (requesting args) (Stays (Serving nonce)) (wake args nonce next) seen := by
  refine (serving_readStop args.name serving).bind (fun stop seen' read => ?_) fun raised seen' read => read.1
  obtain ⟨serving, found⟩ := read
  split
  · next has => exact along_call ⟨nonce, serving, found stop _ rfl (hasText_eq has)⟩ fun _ _ => serving
  refine stays_bind ?_ fun alive seen'' serving => ?_
  · unfold ownerAlive
    split
    · refine seeing_call trivial fun alive => ?_
      cases alive with
      | ok _ => exact serving
      | error raised => exact serving
    · exact serving
  · split
    · refine seeing_call trivial fun expired => ?_
      split
      · exact seeing_call trivial fun _ => serving
      · exact goesOn seen'' serving
    · exact seeing_call trivial fun _ => serving

theorem serving_monitorRounds {nonce : Text} (rounds : ℕ) (shouldExit : Bool) (serving : Serving nonce seen) :
    Seeing (ι := ι) (requesting args) (Stays (Serving nonce))
      (monitorRounds args nonce rounds shouldExit) seen := by
  induction rounds generalizing shouldExit seen with
  | zero => exact trivial
  | succ rounds ih =>
    unfold monitorRounds
    split
    · exact serving
    refine seeing_call trivial fun stands => ?_
    cases stands with
    | ended outcome => exact serving
    | running started shouldExit => exact serving_wake serving fun seen' serving => ih shouldExit serving

theorem serving_emitListening (port : ℤ) {nonce : Text} (serving : Serving nonce seen) :
    Seeing (ι := ι) (requesting args) (Stays (Serving nonce)) (emitListening args port) seen := by
  refine stays_bind (stays_print serving trivial) fun _ seen' serving => ?_
  unfold onlyIf
  split
  · exact seeing_call trivial fun _ => serving
  · exact serving

theorem serving_monitorStart {record : JsonObject} {port : ℤ} {nonce : Text} (rounds waits : ℕ)
    (named : Json.get? record "nonce" = some (.str nonce)) (serving : Serving nonce seen) :
    Seeing (ι := ι) (requesting args) (Stays (Serving nonce)) (monitorStart args record port nonce rounds waits)
      seen := by
  induction waits with
  | zero => exact trivial
  | succ waits ih =>
    refine seeing_call trivial fun stands => ?_
    rcases stands with ⟨started, shouldExit⟩ | outcome
    · cases started with
      | true =>
        have listening : Json.get? (updated record "listening" (.bool true)) "nonce" = some (.str nonce) := by
          rw [get?_updated_of_ne (by decide), named]
        refine stays_bind (serving_writeRecord serving listening) fun _ seen' serving => ?_
        refine stays_bind (serving_emitListening port serving) fun _ seen' serving => ?_
        exact serving_monitorRounds rounds shouldExit serving
      | false =>
        cases shouldExit with
        | true => exact serving
        | false => exact ih
    · exact serving

theorem serving_serveWorker {record : JsonObject} {port : ℤ} {nonce : Text} (rounds : ℕ)
    (named : Json.get? record "nonce" = some (.str nonce)) (serving : Serving nonce seen) :
    Seeing (ι := ι) (requesting args) (Stays (Serving nonce)) (serveWorker args record port nonce rounds) seen := by
  refine stays_bind ?_ fun ended seen' serving => stays_bind ?_ fun _ seen'' serving => ?_
  · refine (serving_monitorStart rounds rounds named serving).resume fun outcome seen' serving => ?_
    cases outcome with
    | ok ended => exact serving
    | error raised =>
      unfold monitorEnd
      dsimp only
      split
      · exact seeing_call trivial fun _ => serving
      · exact serving
  · cases ended.2 with
    | none => exact seeing_call trivial fun drained => by cases drained <;> exact serving
    | some outcome => cases outcome <;> exact serving
  · cases ended.1 <;> exact serving

theorem requesting_runServer (around : Surroundings) (rounds : ℕ) (unnamed : seen.nonce = none) :
    Seeing (ι := ι) (requesting args) (Stays fun _ => True) (runServer around args rounds) seen := by
  refine stays_attempt trivial trivial fun _ => ?_
  have served : Seeing (ι := ι) (requesting args) (Stays fun _ => True) (serving around args rounds) seen := by
    refine seeing_call trivial fun port => ?_
    cases port with
    | error raised => exact trivial
    | ok port =>
      refine along_call unnamed fun nonce _ => ?_
      refine seeing_call trivial fun pid => ?_
      have named := nonce_gatewayRecord around args pid port nonce
      refine Along.post (stays_bind (serving_writeRecord rfl named) fun _ seen' serving => ?_) fun _ _ _ => trivial
      exact serving_serveWorker rounds named serving
  refine Along.ensure served fun outcome seen' _ => ?_
  refine seeing_call trivial fun closed => ?_
  cases closed <;> exact trivial

theorem requesting_serve (around : Surroundings) (rounds : ℕ) (unnamed : seen.nonce = none) :
    Seeing (ι := ι) (requesting args) (Stays fun _ => True) (serve around args rounds) seen := by
  refine seeing_bind (checkLaunch_asks _) mute_launch (fun _ => ?_) fun _ _ => trivial
  refine (requesting_ownership args.name unnamed).bind (fun _ seen' attempted => ?_) fun _ _ _ => trivial
  refine stays_bind ?_ fun _ _ _ => trivial
  refine Along.ensure (requesting_runServer around rounds (attempted.nonce.trans unnamed))
    fun outcome seen'' _ => ?_
  refine (seeing_asks (giveUp_asks args.name) fun _ mute => mute).post fun closing last _ => ?_
  cases closing <;> exact trivial

theorem requesting_command (around : Surroundings) (rounds : ℕ) (idle : Idle none seen) :
    Seeing (ι := ι) (requesting args) (Stays fun _ => True) (command around args rounds) seen := by
  have ended {p : GatewayProgram ι ℤ} (along : Seeing (requesting args) (Stays (Idle none)) p seen) :
      Seeing (requesting args) (Stays fun _ => True) p seen := along.post fun _ _ _ => trivial
  unfold command
  cases action : args.action with
  | list => exact ended (idle_inventory args idle)
  | status =>
    dsimp only
    split
    · exact requesting_statusOrStop none rfl idle
    · exact ended (idle_inventory args idle)
  | stop => exact requesting_stop rfl idle
  | start => exact ended (idle_start around args idle)
  | serve => exact requesting_serve around rounds idle.nonce

theorem requesting_handled (raised : GatewayError) :
    Seeing (ι := ι) (requesting args) (Stays fun _ => True) (handled args raised) seen := by
  have failed (code : ℤ) (message : Text) :
      Seeing (ι := ι) (requesting args) (Stays fun _ => True) (failure args raised code message) seen :=
    seeing_call trivial fun emitted => stays_bind (stays_print trivial trivial) fun _ _ _ => trivial
  unfold handled
  split
  all_goals first
    | exact failed _ _
    | exact trivial

/-- **What every process obeys.** -/
theorem process_obeys (around : Surroundings) (rounds : ℕ) :
    Seeing (ι := ι) (requesting args) (fun _ _ => True) (process around args rounds) Exchanged.initial := by
  have ran : Seeing (ι := ι) (requesting args) (Stays fun _ => True) (main around args rounds) Exchanged.initial :=
    (requesting_command around rounds ⟨rfl, rfl⟩).rescue (fun _ _ _ => trivial) fun raised seen' _ =>
      requesting_handled raised
  refine ran.resume fun outcome seen' _ => ?_
  exact seeing_call trivial fun _ => trivial

end Along

end AxiomMcp.Gateway
