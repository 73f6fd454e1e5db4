/-
**An updater is launched for an approved plan only.**

Whatever the host replies, in whatever order its files change: `runUpdateApply` launches at most one program, as the
last thing it does, and what it replied before shows that it may (`Cleared`).

* `regularInput_ok`, `coreProgram_ok`: the program is the updater, and no link leads to it;
* `guardInstallRoot_ok`: the install root is apart from everything that is protected;
* `validateDocument_ok`, `judged_of_evaluate`: the plan is accepted by a module that was executed from a file whose
  bytes had the recorded digest, and is `Accepted` if that module is the contract;
* `runUpdateApply_launches`: **a launch is cleared, is the last operation and decides the exit
  code**; without one no command succeeds.
-/

import AxiomMcp.Lib.Traces
import AxiomMcp.Update.Accepted
import AxiomMcp.Update.Apply

namespace AxiomMcp.Update

open Lib Program
open Query (truthy)
open Release (Path)

/-- The calls of an update. -/
abbrev UpdateCalls := List (Call UpdateOp UpdateReply)

/-- The operation that launches a program. -/
def IsLaunch : UpdateOp → Prop
  | .launch _ _ => True
  | _ => False

/-- A part of an update that launches nothing. -/
def Quiet {α : Type} (p : UpdateProgram α) : Prop := p.Only fun op => ¬ IsLaunch op

section Steps

variable {α β : Type} {calls : UpdateCalls} {call : Call UpdateOp UpdateReply}

theorem trace_attempt_bind_iff {reply : Except HostFault α} {f : α → UpdateProgram β}
    {outcome : Except UpdateRaised β} :
    Trace (attempt reply >>= f) calls outcome ↔
      (∃ raised, reply = .error raised ∧ calls = [] ∧ outcome = .error (.host raised)) ∨
        ∃ a, reply = .ok a ∧ Trace (f a) calls outcome := by
  cases reply with
  | ok a => simp [attempt]
  | error raised =>
    rw [attempt, raise_bind, trace_raise_iff]
    simp

/-- A step that returned, and what came after it. -/
theorem trace_attempt_ok {reply : Except HostFault α} {f : α → UpdateProgram β} {b : β} :
    Trace (attempt reply >>= f) calls (.ok b) ↔ ∃ a, reply = .ok a ∧ Trace (f a) calls (.ok b) := by
  rw [trace_attempt_bind_iff]
  simp

/-- Two parts that returned. -/
theorem trace_bind_ok {p : UpdateProgram α} {f : α → UpdateProgram β} {b : β} :
    Trace (p >>= f) calls (.ok b) ↔
      ∃ a one other, calls = one ++ other ∧ Trace p one (.ok a) ∧ Trace (f a) other (.ok b) := by
  rw [trace_bind_iff]
  simp

theorem trace_attempt_iff {reply : Except HostFault α} {outcome : Except UpdateRaised α} :
    Trace (attempt reply) calls outcome ↔ calls = [] ∧ outcome = reply.mapError .host := by
  cases reply with
  | ok a => exact trace_done_iff
  | error raised => exact trace_raise_iff

theorem quiet_attempt {reply : Except HostFault α} : Quiet (attempt reply) := by
  cases reply <;> exact trivial

theorem quiet_ask {op : UpdateOp} (other : ¬ IsLaunch op) : Quiet (ask op) := ⟨other, fun _ => trivial⟩

theorem quiet_ofExcept {ended : Except UpdateRaised α} : Quiet (ofExcept ended) := only_ofExcept ended

/-- A step of its own that may raise, and that a launch comes after. -/
theorem past_ofExcept {ended : Except UpdateRaised α} {f : α → UpdateProgram β} {outcome : Except UpdateRaised β}
    (trace : Trace (ofExcept ended >>= f) calls outcome) (member : call ∈ calls) :
    ∃ a, ended = .ok a ∧ Trace (f a) calls outcome := by
  rcases trace_ofExcept_bind_iff.mp trace with ⟨_, _, rfl, _⟩ | done
  · cases member
  · exact done

/-- What becomes of an end whose exceptions are renamed. -/
def renamedEnd (reason : Text) : Except UpdateRaised α → Except UpdateRaised α
  | .error (.host fault) => if fault.isCaught then .error (.unavailable reason) else .error (.host fault)
  | ended => ended

theorem trace_renamed_iff {reason : Text} {p : UpdateProgram α} {outcome : Except UpdateRaised α} :
    Trace (renamed reason p) calls outcome ↔ ∃ ended, Trace p calls ended ∧ outcome = renamedEnd reason ended := by
  have handled (raised : UpdateRaised) : renamed reason (.raise raised : UpdateProgram α) =
      ofExcept (renamedEnd reason (.error raised)) := by
    cases raised with
    | host fault =>
      simp only [renamed, renamedEnd, Program.rescue, Program.resume]
      split <;> rfl
    | _ => rfl
  rw [renamed, trace_rescue_iff]
  constructor
  · rintro (⟨a, trace, rfl⟩ | ⟨raised, one, other, rfl, trace, later⟩)
    · exact ⟨.ok a, trace, rfl⟩
    · have later : Trace (renamed reason (.raise raised : UpdateProgram α)) other outcome := later
      rw [handled, trace_ofExcept_iff] at later
      obtain ⟨rfl, rfl⟩ := later
      exact ⟨.error raised, by rwa [List.append_nil], rfl⟩
  · rintro ⟨ended, trace, rfl⟩
    cases ended with
    | ok a => exact .inl ⟨a, trace, rfl⟩
    | error raised =>
      refine .inr ⟨raised, calls, [], (List.append_nil _).symm, trace, ?_⟩
      have later : Trace (renamed reason (.raise raised : UpdateProgram α)) []
        (renamedEnd reason (.error raised)) :=
        by
        rw [handled, trace_ofExcept_iff]
        exact ⟨rfl, rfl⟩
      exact later

/-- A renamed exception is still one. -/
theorem renamed_ok {reason : Text} {p : UpdateProgram α} {a : α} :
    Trace (renamed reason p) calls (.ok a) ↔ Trace p calls (.ok a) := by
  rw [trace_renamed_iff]
  constructor
  · rintro ⟨ended, trace, same⟩
    cases ended with
    | ok b =>
      cases same
      exact trace
    | error raised =>
      unfold renamedEnd at same
      split at same
      · split at same <;> cases same
      · cases same
  · exact fun trace => ⟨_, trace, rfl⟩

theorem quiet_renamed {reason : Text} {p : UpdateProgram α} (quiet : Quiet p) : Quiet (renamed reason p) := by
  refine quiet.rescue fun raised => ?_
  split
  · split <;> exact trivial
  · exact trivial

end Steps

/-! ### Regular files -/

/-- No link leads to a path, and it is a regular file. -/
structure Regular (history : UpdateCalls) (path : Path) : Prop where
  links : ∀ candidate ∈ withParents path, ⟨.isSymlink candidate, .ok false⟩ ∈ history
  file : ⟨.isFile path, .ok true⟩ ∈ history

theorem Regular.mono {history more : UpdateCalls} {path : Path} (regular : Regular history path)
    (within : history ⊆ more) : Regular more path :=
  ⟨fun candidate member => within (regular.links candidate member), within regular.file⟩

theorem quiet_checkLinks (paths : List Path) : Quiet (checkLinks paths) := by
  induction paths with
  | nil => exact trivial
  | cons candidate rest ih =>
    refine ⟨id, fun status => quiet_attempt.bind fun _ => ⟨id, fun reply => quiet_attempt.bind fun linked => ?_⟩⟩
    split
    · exact trivial
    · exact ih

theorem checkLinks_ok {paths : List Path} {calls : UpdateCalls} (trace : Trace (checkLinks paths) calls (.ok ())) :
    ∀ candidate ∈ paths, ⟨.isSymlink candidate, .ok false⟩ ∈ calls := by
  induction paths generalizing calls with
  | nil => exact List.forall_mem_nil _
  | cons candidate rest ih =>
    rw [checkLinks, ask_bind, trace_call_iff] at trace
    obtain ⟨status, _, rfl, trace⟩ := trace
    rw [trace_attempt_ok] at trace
    obtain ⟨_, _, trace⟩ := trace
    rw [ask_bind, trace_call_iff] at trace
    obtain ⟨reply, later, rfl, trace⟩ := trace
    rw [trace_attempt_ok] at trace
    obtain ⟨linked, rfl, trace⟩ := trace
    split at trace
    · cases trace
    · next plain =>
      rw [Bool.not_eq_true] at plain
      subst plain
      refine List.forall_mem_cons.mpr ⟨List.mem_cons_of_mem _ List.mem_cons_self, fun other member => ?_⟩
      exact List.mem_cons_of_mem _ (List.mem_cons_of_mem _ (ih trace other member))

theorem quiet_regularInput (path : Path) : Quiet (regularInput path) := by
  refine (quiet_checkLinks _).bind fun _ => ⟨id, fun reply => quiet_attempt.bind fun regular => ?_⟩
  split
  · exact trivial
  · exact ⟨id, fun _ => quiet_attempt⟩

/-- **A regular input**: no link leads to it. -/
theorem regularInput_ok {path resolved : Path} {calls : UpdateCalls}
    (trace : Trace (regularInput path) calls (.ok resolved)) :
    Regular calls path ∧ ⟨.resolve path true, .ok resolved⟩ ∈ calls := by
  rw [regularInput, trace_bind_ok] at trace
  obtain ⟨_, one, other, rfl, first, second⟩ := trace
  rw [ask_bind, trace_call_iff] at second
  obtain ⟨reply, _, rfl, second⟩ := second
  rw [trace_attempt_ok] at second
  obtain ⟨regular, rfl, second⟩ := second
  split at second
  · cases second
  · next regular =>
    rw [Bool.not_eq_true', Bool.not_eq_false] at regular
    subst regular
    rw [ask_bind, trace_call_iff] at second
    obtain ⟨found, _, rfl, second⟩ := second
    rw [trace_attempt_iff] at second
    obtain ⟨rfl, same⟩ := second
    obtain rfl := mapError_eq_ok.mp same.symm
    refine ⟨⟨fun candidate member => ?_, ?_⟩, ?_⟩
    · exact List.mem_append_left _ (checkLinks_ok first candidate member)
    · exact List.mem_append_right _ List.mem_cons_self
    · exact List.mem_append_right _ (List.mem_cons_of_mem _ List.mem_cons_self)

theorem quiet_absolutePath (path : Path) : Quiet (absolutePath path) := by
  unfold absolutePath
  split
  · exact trivial
  · exact ⟨id, fun _ => quiet_attempt.bind fun _ => trivial⟩

/-! ### The updater -/

/-- A program that calls itself the updater, and that no link leads to. -/
def Identified (history : UpdateCalls) (program : Path) : Prop :=
  ∃ named entries, Regular history named ∧ ⟨.resolve named true, .ok program⟩ ∈ history ∧
    ⟨.probe program, .ok ⟨0, .ok (.obj entries)⟩⟩ ∈ history ∧ valueOf entries "component" = .str "axiom" ∧
    Json.pyEq (valueOf entries "control_api") (.int 1) = true

theorem Identified.mono {history more : UpdateCalls} {program : Path} (identified : Identified history program)
    (within : history ⊆ more) : Identified more program := by
  obtain ⟨named, entries, regular, resolved, probed, component, control⟩ := identified
  exact ⟨named, entries, regular.mono within, within resolved, within probed, component, control⟩

theorem quiet_probeCore (named : Path) : Quiet (probeCore named) :=
  (quiet_regularInput named).bind fun _ =>
    ⟨id, fun _ => quiet_attempt.bind fun _ => quiet_attempt.bind fun _ => trivial⟩

/-- A program that was probed. -/
theorem probeCore_ok {named program : Path} {returncode : ℤ} {identity : Json} {calls : UpdateCalls}
    (trace : Trace (probeCore named) calls (.ok (program, returncode, identity))) :
    Regular calls named ∧ ⟨.resolve named true, .ok program⟩ ∈ calls ∧
      ⟨.probe program, .ok ⟨returncode, .ok identity⟩⟩ ∈ calls := by
  rw [probeCore, trace_bind_ok] at trace
  obtain ⟨found, one, other, rfl, first, second⟩ := trace
  rw [ask_bind, trace_call_iff] at second
  obtain ⟨reply, _, rfl, second⟩ := second
  rw [trace_attempt_ok] at second
  obtain ⟨probe, rfl, second⟩ := second
  rw [trace_attempt_ok] at second
  obtain ⟨said, loaded, second⟩ := second
  obtain ⟨rfl, same⟩ := trace_done_iff.mp second
  cases same
  obtain ⟨regular, resolved⟩ := regularInput_ok first
  refine ⟨regular.mono fun _ member => List.mem_append_left _ member, List.mem_append_left _ resolved, ?_⟩
  refine List.mem_append_right _ ?_
  rw [← loaded]
  exact List.mem_cons_self

theorem quiet_locateCore : Quiet locateCore := by
  refine (quiet_ask id).bind fun configured => ?_
  split
  · exact trivial
  · exact (quiet_ask id).bind fun _ => trivial

theorem quiet_coreProgram : Quiet coreProgram := by
  refine quiet_locateCore.bind fun located => ?_
  cases located with
  | none => exact trivial
  | some located =>
    refine (quiet_absolutePath _).bind fun named => (quiet_renamed (quiet_probeCore named)).bind fun found => ?_
    dsimp only
    split
    · exact trivial
    · refine quiet_ofExcept.bind fun known => ?_
      split <;> exact trivial

/-- **The program is the updater.** -/
theorem coreProgram_ok {program : Path} {calls : UpdateCalls} (trace : Trace coreProgram calls (.ok program)) :
    Identified calls program := by
  rw [coreProgram, trace_bind_ok] at trace
  obtain ⟨located, one, other, rfl, _, trace⟩ := trace
  cases located with
  | none => cases trace
  | some located =>
    dsimp only at trace
    rw [trace_bind_ok] at trace
    obtain ⟨named, two, other, rfl, _, trace⟩ := trace
    rw [trace_bind_ok] at trace
    obtain ⟨⟨found, returncode, identity⟩, three, other, rfl, probed, trace⟩ := trace
    dsimp only at trace
    split at trace
    · cases trace
    · next zero =>
      rw [not_not] at zero
      subst zero
      rw [trace_bind_ok] at trace
      obtain ⟨known, four, other, rfl, judged, trace⟩ := trace
      split at trace
      · cases trace
      · next updater =>
        obtain ⟨rfl, same⟩ := trace_done_iff.mp trace
        cases same
        obtain ⟨regular, resolved, probed⟩ := probeCore_ok (renamed_ok.mp probed)
        obtain ⟨_, judged⟩ := trace_ofExcept_iff.mp judged
        have within : three ⊆ one ++ (two ++ (three ++ (four ++ []))) := fun call member =>
          List.mem_append_right _ (List.mem_append_right _ (List.mem_append_left _ member))
        rw [Bool.not_eq_true', Bool.not_eq_false] at updater
        subst updater
        cases identity with
        | obj entries =>
          rw [isUpdater, Except.ok.injEq, eq_comm, Bool.and_eq_true, pyEq_text] at judged
          exact ⟨named, entries, regular.mono within, within resolved, within probed, judged.1, judged.2⟩
        | _ => cases judged

/-! ### A launch -/

/-- How an update ends that launched a program, by what that ended with. -/
def launched : Except HostFault ℤ → Except UpdateRaised ℤ
  | .ok returncode => .ok (if 0 ≤ returncode then returncode else 8)
  | .error raised =>
    if raised.isCaught then .error (.unavailable "core_update_failed_or_timed_out_state_unknown")
    else .error (.host raised)

/-- The plan that a program is launched on: a regular file of some size. -/
def Input (history : UpdateCalls) (args : List Text) : Prop :=
  ∃ named size, Regular history named ∧ (∃ path, ⟨.size path, .ok size⟩ ∈ history ∧
    ⟨.resolve named true, .ok path⟩ ∈ history) ∧ size ≤ maxPlanBytes ∧ ("--approve-digest" : Text) ∈ args

theorem Input.mono {history more : UpdateCalls} {args : List Text} (input : Input history args)
    (within : history ⊆ more) : Input more args := by
  obtain ⟨named, size, regular, ⟨path, sized, resolved⟩, small, approved⟩ := input
  exact ⟨named, size, regular.mono within, ⟨path, within sized, within resolved⟩, small, approved⟩

/-- The calls of a part of an update that launches a program, which is the last of them. -/
structure LaunchedAfter (calls before : UpdateCalls) (program : Path) (args : List Text)
    (reply : Except HostFault ℤ) : Prop where
  last : calls = before ++ [⟨.launch program args, reply⟩]
  quiet : ∀ call ∈ before, ¬ IsLaunch call.op

theorem LaunchedAfter.behind {one calls before : UpdateCalls} {program : Path} {args : List Text}
    {reply : Except HostFault ℤ} (after : LaunchedAfter calls before program args reply)
    (quiet : ∀ call ∈ one, ¬ IsLaunch call.op) :
    LaunchedAfter (one ++ calls) (one ++ before) program args reply := by
  refine ⟨by rw [after.last, List.append_assoc], fun call member => ?_⟩
  exact (List.mem_append.mp member).elim (quiet call) (after.quiet call)

theorem quiet_checkInput (args : List Text) : Quiet (checkInput args) := by
  unfold checkInput
  split
  · exact trivial
  · refine (quiet_absolutePath _).bind fun _ => (quiet_regularInput _).bind fun _ => ⟨id, fun _ =>
      quiet_attempt.bind fun size => ?_⟩
    split
    · exact trivial
    · split <;> exact trivial

/-- A plan that a program may be launched on. -/
theorem checkInput_ok {args : List Text} {calls : UpdateCalls} (trace : Trace (checkInput args) calls (.ok ())) :
    Input calls args := by
  unfold checkInput at trace
  split at trace
  · cases trace
  · rw [trace_bind_ok] at trace
    obtain ⟨named, one, other, rfl, _, trace⟩ := trace
    rw [trace_bind_ok] at trace
    obtain ⟨path, two, other, rfl, checked, trace⟩ := trace
    obtain ⟨regular, resolved⟩ := regularInput_ok checked
    rw [ask_bind, trace_call_iff] at trace
    obtain ⟨reply, other, rfl, trace⟩ := trace
    rw [trace_attempt_ok] at trace
    obtain ⟨size, rfl, trace⟩ := trace
    split at trace
    · cases trace
    next small =>
    split at trace
    · cases trace
    next approved =>
    have within : two ⊆ one ++ (two ++ ⟨.size path, .ok size⟩ :: other) := fun call member =>
      List.mem_append_right _ (List.mem_append_left _ member)
    refine ⟨named, size, regular.mono within, ⟨path, ?_, within resolved⟩, not_lt.mp small, not_not.mp approved⟩
    exact List.mem_append_right _ (List.mem_append_right _ List.mem_cons_self)

/-- A launch of `launchCore`, before its end is renamed. -/
theorem launchCore_launch {program : Path} {args : List Text} {calls : UpdateCalls}
    {outcome : Except UpdateRaised ℤ}
    {call : Call UpdateOp UpdateReply} (trace : Trace (launchCore program args) calls outcome)
    (member : call ∈ calls)
    (here : IsLaunch call.op) :
    ∃ before reply, LaunchedAfter calls before program args reply ∧ Input before args ∧
      outcome = (reply.mapError .host).map fun returncode => if 0 ≤ returncode then returncode else 8 := by
  obtain ⟨_, before, other, rfl, quiet, checked, rest, member⟩ := trace.past (quiet_checkInput args) member here
  rw [ask_bind, trace_call_iff] at rest
  obtain ⟨reply, last, rfl, rest⟩ := rest
  rcases trace_attempt_bind_iff.mp rest with ⟨raised, rfl, rfl, rfl⟩ | ⟨returncode, rfl, ended⟩
  · exact ⟨before, _, ⟨rfl, quiet⟩, checkInput_ok checked, rfl⟩
  · obtain ⟨rfl, rfl⟩ := trace_done_iff.mp ended
    exact ⟨before, _, ⟨rfl, quiet⟩, checkInput_ok checked, rfl⟩

/-- **A launch of the updater**: it is the last call, behind everything that was checked. -/
theorem runCore_launch {argv : List Text} {calls : UpdateCalls} {outcome : Except UpdateRaised ℤ}
    {call : Call UpdateOp UpdateReply} (trace : Trace (runCore argv) calls outcome) (member : call ∈ calls)
    (here : IsLaunch call.op) :
    ∃ before program reply, LaunchedAfter calls before program argv.tail reply ∧ Identified before program ∧
      Input before argv.tail ∧ outcome = launched reply := by
  obtain ⟨program, one, other, rfl, quiet, found, rest, member⟩ := trace.past quiet_coreProgram member here
  have identified := coreProgram_ok found
  obtain ⟨ended, launch, rfl⟩ := trace_renamed_iff.mp rest
  obtain ⟨before, reply, after, input, rfl⟩ := launchCore_launch launch member here
  refine ⟨one ++ before, program, reply, after.behind quiet,
    identified.mono (List.subset_append_left _ _), input.mono (List.subset_append_right _ _), ?_⟩
  cases reply <;> rfl

/-- An updater that is run well was launched. -/
theorem runCore_ok {argv : List Text} {calls : UpdateCalls} {code : ℤ}
    (trace : Trace (runCore argv) calls (.ok code)) :
    ∃ call ∈ calls, IsLaunch call.op := by
  rw [runCore, trace_bind_ok] at trace
  obtain ⟨program, one, other, rfl, _, trace⟩ := trace
  rw [renamed_ok, launchCore, trace_bind_ok] at trace
  obtain ⟨_, two, other, rfl, _, trace⟩ := trace
  rw [ask_bind, trace_call_iff] at trace
  obtain ⟨reply, other, rfl, _⟩ := trace
  exact ⟨⟨.launch program argv.tail, reply⟩, by simp, trivial⟩

theorem quiet_runMalformed (argv : List Text) : Quiet (runMalformed argv) :=
  quiet_coreProgram.bind fun _ => (quiet_renamed (quiet_checkInput _)).bind fun _ => trivial

theorem runMalformed_error {argv : List Text} {calls : UpdateCalls} {code : ℤ} :
    ¬ Trace (runMalformed argv) calls (.ok code) := by
  intro trace
  rw [runMalformed, trace_bind_ok] at trace
  obtain ⟨_, _, _, rfl, _, trace⟩ := trace
  rw [trace_bind_ok] at trace
  obtain ⟨_, _, _, rfl, _, trace⟩ := trace
  cases trace

section Plans

variable {up : Updater}

/-! ### The evaluator -/

/-- A module was executed from a file whose bytes, when they were read, had the digest that was recorded of them. -/
def Loaded (up : Updater) (history : UpdateCalls) (module : PlanModule) : Prop :=
  ∃ record bytes, ⟨.provenance, .ok record⟩ ∈ history ∧ ⟨.readBytes up.evaluatorPath, .ok bytes⟩ ∈ history ∧
    record.field? "sha256" = some (.str (up.ev.sha256 bytes)) ∧ ⟨.execModule up.evaluatorPath, .ok module⟩ ∈ history

theorem Loaded.mono {history more : UpdateCalls} {module : PlanModule} (loaded : Loaded up history module)
    (within : history ⊆ more) : Loaded up more module := by
  obtain ⟨record, bytes, recorded, read, same, executed⟩ := loaded
  exact ⟨record, bytes, within recorded, within read, same, within executed⟩

theorem pyEq_text_left {text : Text} {value : Json} : Json.pyEq (.str text) value = true ↔ value = .str text := by
  cases value with
  | str other => rw [Json.pyEq, beq_iff_eq, Json.str.injEq, eq_comm]
  | _ => simp [Json.pyEq, Json.asInt?]

theorem quiet_loadEvaluator : Quiet (loadEvaluator up) := by
  refine (quiet_ask id).bind fun _ => quiet_attempt.bind fun record => (quiet_ask id).bind fun _ =>
    quiet_attempt.bind fun found => ?_
  split
  · exact trivial
  · refine (quiet_ask id).bind fun _ => quiet_attempt.bind fun bytes => ?_
    split
    · exact trivial
    · split
      · exact (quiet_ask id).bind fun _ => quiet_attempt
      · exact trivial

theorem loadEvaluator_ok {module : PlanModule} {calls : UpdateCalls}
    (trace : Trace (loadEvaluator up) calls (.ok module)) : Loaded up calls module := by
  rw [loadEvaluator, ask_bind, trace_call_iff] at trace
  obtain ⟨reply, other, rfl, trace⟩ := trace
  rw [trace_attempt_ok] at trace
  obtain ⟨record, rfl, trace⟩ := trace
  rw [ask_bind, trace_call_iff] at trace
  obtain ⟨reply, other, rfl, trace⟩ := trace
  rw [trace_attempt_ok] at trace
  obtain ⟨found, rfl, trace⟩ := trace
  split at trace
  · cases trace
  · rw [ask_bind, trace_call_iff] at trace
    obtain ⟨reply, other, rfl, trace⟩ := trace
    rw [trace_attempt_ok] at trace
    obtain ⟨bytes, rfl, trace⟩ := trace
    split at trace
    · cases trace
    · next recorded here =>
      split at trace
      · next same =>
        rw [pyEq_text_left.mp same] at here
        rw [ask_bind, trace_call_iff] at trace
        obtain ⟨reply, other, rfl, trace⟩ := trace
        rw [trace_attempt_iff] at trace
        obtain ⟨rfl, executed⟩ := trace
        obtain rfl := mapError_eq_ok.mp executed.symm
        exact ⟨record, bytes, List.mem_cons_self,
          List.mem_cons_of_mem _ (List.mem_cons_of_mem _ List.mem_cons_self), here, by simp⟩
      · cases trace

theorem quiet_validateDocument (document : Json) (approved : Option Text) :
    Quiet (validateDocument up document approved) :=
  quiet_loadEvaluator.bind fun _ => quiet_ofExcept

theorem quiet_planDigestOf (plan : JsonObject) : Quiet (planDigestOf up plan) :=
  quiet_loadEvaluator.bind fun _ => quiet_ofExcept

/-- A verdict is that of a module that was executed. -/
theorem validateDocument_ok {document : Json} {approved : Option Text} {verdict : Verdict} {calls : UpdateCalls}
    (trace : Trace (validateDocument up document approved) calls (.ok verdict)) :
    ∃ module, Loaded up calls module ∧ module.evaluate (withApproval document approved) = .ok verdict := by
  rw [validateDocument, trace_bind_ok] at trace
  obtain ⟨module, one, other, rfl, first, second⟩ := trace
  obtain ⟨rfl, same⟩ := trace_ofExcept_iff.mp second
  exact ⟨module, (loadEvaluator_ok first).mono (List.subset_append_left _ _), same.symm⟩

/-! ### The install root -/

/-- An install root is absolute and apart from everything that is protected. -/
def Apart (history : UpdateCalls) (installRoot : Text) : Prop :=
  (Path.ofText installRoot.strip).absolute = true ∧ ∃ reply resolved roots,
    ⟨.resolve (Path.ofText installRoot.strip) false, reply⟩ ∈ history ∧
    resolvedRoot (Path.ofText installRoot.strip) reply = .ok resolved ∧ ⟨.protectedRoots, roots⟩ ∈ history ∧
    ∀ root ∈ roots, resolved.isWithin root = false ∧ root.isWithin resolved = false

theorem Apart.mono {history more : UpdateCalls} {installRoot : Text} (apart : Apart history installRoot)
    (within : history ⊆ more) : Apart more installRoot := by
  obtain ⟨absolute, reply, resolved, roots, asked, found, guarded, each⟩ := apart
  exact ⟨absolute, reply, resolved, roots, within asked, found, within guarded, each⟩

theorem quiet_guardInstallRoot (installRoot : Text) : Quiet (guardInstallRoot installRoot) := by
  unfold guardInstallRoot
  dsimp only
  split
  · exact trivial
  split
  · exact trivial
  · refine (quiet_ask id).bind fun _ => quiet_attempt.bind fun _ => (quiet_ask id).bind fun roots => ?_
    split <;> exact trivial

/-- **An install root that is not refused.** -/
theorem guardInstallRoot_ok {installRoot : Text} {calls : UpdateCalls}
    (trace : Trace (guardInstallRoot installRoot) calls (.ok ())) : Apart calls installRoot := by
  unfold guardInstallRoot at trace
  dsimp only at trace
  split at trace
  · cases trace
  split at trace
  · cases trace
  · next absolute =>
    rw [Bool.not_eq_true', Bool.not_eq_false] at absolute
    rw [ask_bind, trace_call_iff] at trace
    obtain ⟨reply, other, rfl, trace⟩ := trace
    rw [trace_attempt_ok] at trace
    obtain ⟨resolved, found, trace⟩ := trace
    rw [ask_bind, trace_call_iff] at trace
    obtain ⟨roots, other, rfl, trace⟩ := trace
    split at trace
    · cases trace
    · next none =>
      refine ⟨absolute, reply, resolved, roots, List.mem_cons_self, found,
        List.mem_cons_of_mem _ List.mem_cons_self, fun root member => ?_⟩
      have apart := List.find?_eq_none.mp none root member
      rwa [Bool.not_eq_true, Bool.or_eq_false_iff] at apart

/-! ### Plans -/

/-- An item that was set. -/
theorem get?_setItem (document : JsonObject) (key other : Text) (value : Json) :
    Json.get? (setItem document key value) other = if other =
      key then some value else Json.get? document other := by
  have replaced : ∀ document : JsonObject,
      (document.map fun item => if item.1 = key then (key, value) else item).lookup other =
        if other = key then (if key ∈ document.map Prod.fst then some value else none)
          else document.lookup other := by
    intro document
    induction document with
    | nil => simp
    | cons item rest ih =>
      obtain ⟨name, found⟩ := item
      rw [List.map_cons, List.map_cons, List.lookup_cons]
      by_cases same : name = key
      · subst same
        by_cases here : other = name
        · subst here
          simp
        · have apart : (other == name) = false := beq_false_of_ne here
          simp only [if_pos, List.lookup_cons, apart, ih, if_neg here]
      · by_cases here : other = name
        · subst here
          simp [same]
        · have apart : (other == name) = false := beq_false_of_ne here
          simp only [if_neg same, List.lookup_cons, apart, ih, List.mem_cons, Ne.symm same, false_or]
  unfold setItem Json.get?
  split
  · next member => rw [replaced, if_pos member]
  · next absent =>
    rw [List.lookup_append]
    by_cases same : other = key
    · subst same
      have none : document.lookup other = none := by
        rw [List.lookup_eq_none_iff]
        intro item inside
        simpa using fun same : other = item.1 => absent (List.mem_map.mpr ⟨item, inside, same.symm⟩)
      rw [none, if_pos rfl]
      simp
    · have apart : (other == key) = false := beq_false_of_ne same
      rw [if_neg same, List.lookup_cons, apart]
      simp

/-- The plan of an evaluated document is accepted, and the digest that was approved is its own. -/
theorem accepted_of_evaluate {document : Json} {approved : Option Text} {verdict : Verdict}
    (evaluated : evaluate up.ev (withApproval document approved) = .ok verdict) (ok : verdict.ok = true) :
    ∃ entries plan digest, document = .obj entries ∧ Json.get? entries "plan" = some (.obj plan) ∧
      Accepted up.ev plan digest ∧ ∀ other, approved = some other → other = digest := by
  obtain ⟨entries, plan, digest, same, _, here, accepted, beside⟩ :=
    (evaluate_ok_iff (withApproval document approved)).mp ⟨verdict, evaluated, ok⟩
  cases document with
  | obj own =>
    cases approved with
    | none =>
      cases same
      refine ⟨entries, plan, digest, rfl, here, accepted, ?_⟩
      rintro _ ⟨⟩
    | some given =>
      cases same
      have others : ("plan" : Text) ≠ "approved_digest" := by decide
      rw [get?_setItem, if_neg others] at here
      refine ⟨own, plan, digest, rfl, here, accepted, ?_⟩
      rintro _ ⟨rfl⟩
      exact Json.str.inj (beside _ (by rw [get?_setItem, if_pos rfl]))
  | _ => cases same

/-- A document that a module accepts. If that module is the contract, the plan is an accepted one, and a digest that
was approved on the command line is its own. -/
structure JudgedBy (up : Updater) (module : PlanModule) (document : Json) (approved : Option Text)
    (plan : JsonObject)
    (digest : Text) : Prop where
  accepts : ∃ verdict, module.evaluate (withApproval document approved) = .ok verdict ∧ verdict.ok = true
  contract : module = contractModule up.ev →
    Accepted up.ev plan digest ∧ ∀ other, approved = some other → other = digest

/-- A plan of this component that may be applied, by what the host has replied. -/
structure OwnPlan (up : Updater) (history : UpdateCalls) (document : Json) (approved : Option Text)
    (plan : JsonObject) (digest : Text) : Prop where
  found : document.field? "plan" = some (.obj plan)
  judged : ∃ module, Loaded up history module ∧ JudgedBy up module document approved plan digest
  carried : Json.get? plan "plan_digest" = some (.str digest)
  recorded : ∃ approval, valueOf plan "approval" = .obj approval ∧ valueOf approval "state" = .str "approved"
  target : ∃ target, valueOf plan "target" = .obj target ∧ textOf up (valueOf target "component") = component ∧
    Apart history (textOf up (valueOf target "install_root"))

theorem OwnPlan.mono {history more : UpdateCalls} {document : Json} {approved : Option Text} {plan : JsonObject}
    {digest : Text} (own : OwnPlan up history document approved plan digest) (within : history ⊆ more) :
    OwnPlan up more document approved plan digest := by
  obtain ⟨module, loaded, judged⟩ := own.judged
  obtain ⟨target, aims, named, apart⟩ := own.target
  exact ⟨own.found, ⟨module, loaded.mono within, judged⟩, own.carried, own.recorded,
    ⟨target, aims, named, apart.mono within⟩⟩

theorem trace_bind_done {α β : Type} {p : UpdateProgram α} {g : α → β} {calls : UpdateCalls}
    {outcome : Except UpdateRaised β} :
    Trace (p >>= fun a => .done (g a)) calls outcome ↔ ∃ ended, Trace p calls ended ∧ outcome = ended.map g := by
  rw [trace_bind_iff]
  constructor
  · rintro (⟨raised, trace, rfl⟩ | ⟨a, one, other, rfl, trace, ended⟩)
    · exact ⟨_, trace, rfl⟩
    · obtain ⟨rfl, rfl⟩ := trace_done_iff.mp ended
      rw [List.append_nil]
      exact ⟨_, trace, rfl⟩
  · rintro ⟨ended, trace, rfl⟩
    cases ended with
    | ok a => exact .inr ⟨a, calls, [], (List.append_nil _).symm, trace, .done _⟩
    | error raised => exact .inl ⟨raised, trace, rfl⟩

/-- A field of an object, or nothing. -/
theorem getOf_ok {value found : Json} {key : Text} (ok : getOf value key = .ok found) :
    (∃ entries, value = .obj entries ∧ found = valueOf entries key) ∨ found = .null := by
  unfold getOf at ok
  split at ok
  · split at ok
    · exact .inl ⟨_, rfl, (Except.ok.inj ok).symm⟩
    · cases ok
  · exact .inr (Except.ok.inj ok).symm

theorem getOf_obj {entries : JsonObject} {found : Json} {key : Text} (ok : getOf (.obj entries) key = .ok found) :
    found = valueOf entries key := by
  rcases getOf_ok ok with ⟨_, same, rfl⟩ | rfl
  · cases same
    rfl
  · cases entries with
    | nil => rfl
    | cons _ _ => exact (Except.ok.inj ok).symm

/-- What an executed module accepts is judged, by the digest that the plan carries. -/
theorem judged_of_evaluate {module : PlanModule} {document : Json} {approved : Option Text} {verdict : Verdict}
    {plan : JsonObject} {digest : Text} (evaluated : module.evaluate (withApproval document approved) = .ok verdict)
    (ok : verdict.ok = true) (found : document.field? "plan" = some (.obj plan))
    (carried : Json.get? plan "plan_digest" = some (.str digest)) :
    JudgedBy up module document approved plan digest := by
  refine ⟨⟨verdict, evaluated, ok⟩, ?_⟩
  rintro rfl
  obtain ⟨entries, other, own, rfl, here, accepted, given⟩ := accepted_of_evaluate (mapError_eq_ok.mp evaluated) ok
  obtain rfl := Json.obj.inj (Option.some.inj (here.symm.trans found))
  have recorded := accepted.records.recorded.1
  rw [valueOf, carried] at recorded
  obtain rfl := Json.str.inj recorded
  exact ⟨accepted, given⟩

/-- The launch of a delegated plan. -/
theorem delegate_launch {document : Json} {plan : JsonObject} {planPath : Text} {asJson : Bool}
    {calls : UpdateCalls}
    {outcome : Except UpdateRaised ℤ} {call : Call UpdateOp UpdateReply}
    (found : document.field? "plan" = some (.obj plan))
    (trace : Trace (delegate document asJson (delegationArgv planPath)) calls outcome) (member : call ∈ calls)
    (here : IsLaunch call.op) :
    ∃ before program reply digest, Json.get? plan "plan_digest" = some (.str digest) ∧
      LaunchedAfter calls before program (approvedArgv planPath digest asJson).tail reply ∧
        Identified before program ∧
      Input before (approvedArgv planPath digest asJson).tail ∧ outcome = launched reply := by
  rw [delegate, found] at trace
  dsimp only at trace
  split at trace
  · next digest carried =>
    obtain ⟨before, program, reply, ended⟩ := runCore_launch trace member here
    exact ⟨before, program, reply, digest, carried, ended⟩
  · exact absurd here (trace.only (quiet_runMalformed _) call member)
  · obtain ⟨rfl, _⟩ := trace_raise_iff.mp trace
    cases member

/-- **A plan that an updater is launched for is one to apply.** -/
theorem applyPlan_launch {document : Json} {planPath : Text} {approved : Option Text} {asJson : Bool}
    {calls : UpdateCalls} {outcome : Except UpdateRaised ApplyDecision} {call : Call UpdateOp UpdateReply}
    (trace : Trace (applyPlan up document planPath approved (delegate document asJson)) calls outcome)
    (member : call ∈ calls) (here : IsLaunch call.op) :
    ∃ before program reply plan digest,
      LaunchedAfter calls before program (approvedArgv planPath digest asJson).tail reply ∧
        Identified before program ∧
      Input before (approvedArgv planPath digest asJson).tail ∧ OwnPlan up before document approved plan digest ∧
      outcome.map (fun decision => decision.outcome.exitCode) = launched reply := by
  unfold applyPlan at trace
  obtain ⟨verdict, one, other, rfl, quiet, checked, trace', member⟩ :=
    trace.past (quiet_validateDocument _ _) member here
  clear trace
  obtain ⟨module, loaded, evaluated⟩ := validateDocument_ok checked
  split at trace'
  · obtain ⟨rfl, _⟩ := trace_raise_iff.mp trace'
    cases member
  next ok =>
  rw [Bool.not_eq_true', Bool.not_eq_false] at ok
  split at trace'
  · next plan found =>
    obtain ⟨state, stated, trace⟩ := past_ofExcept trace' member
    clear trace'
    split at trace
    · obtain ⟨rfl, _⟩ := trace_raise_iff.mp trace
      cases member
    next isApproved =>
    rw [Bool.not_eq_true', Bool.not_eq_false, pyEq_text] at isApproved
    subst isApproved
    have recorded : ∃ approval, valueOf plan "approval" = .obj approval ∧
      valueOf approval "state" = .str "approved" := by
      rcases getOf_ok stated with ⟨approval, approves, same⟩ | wrong
      · exact ⟨approval, approves, same.symm⟩
      · cases wrong
    obtain ⟨named, names, trace'⟩ := past_ofExcept trace member
    clear trace
    split at trace'
    · obtain ⟨rfl, _⟩ := trace_raise_iff.mp trace'
      cases member
    next aimsHere =>
    rw [not_not] at aimsHere
    obtain ⟨root, rooted, trace⟩ := past_ofExcept trace' member
    clear trace'
    have aimed : ∃ target, valueOf plan "target" = .obj target ∧ named = valueOf target "component" ∧
        root = valueOf target "install_root" := by
      rcases getOf_ok names with ⟨target, aims, same⟩ | rfl
      · rw [aims] at rooted
        exact ⟨target, aims, same, getOf_obj rooted⟩
      · exact absurd aimsHere (fun wrong => nomatch wrong)
    obtain ⟨target, aims, rfl, rfl⟩ := aimed
    obtain ⟨_, two, other, rfl, quiet', guarded, trace', member⟩ :=
      trace.past (quiet_guardInstallRoot _) member here
    clear trace
    obtain ⟨_, _, trace⟩ := past_ofExcept trace' member
    clear trace'
    obtain ⟨digested, three, other, rfl, quiet'', _, trace', member⟩ :=
      trace.past (quiet_planDigestOf _) member here
    clear trace
    obtain ⟨ended, run, rfl⟩ := trace_bind_done.mp trace'
    obtain ⟨before, program, reply, digest, carried, after, identified, input, rfl⟩ :=
      delegate_launch found run member here
    have within : before ⊆ one ++ (two ++ (three ++ before)) := fun call inside =>
      List.mem_append_right _ (List.mem_append_right _ (List.mem_append_right _ inside))
    refine ⟨one ++ (two ++ (three ++ before)), program, reply, plan, digest,
      ((after.behind quiet'').behind quiet').behind quiet, identified.mono within, input.mono within, ⟨found,
        ⟨module, loaded.mono (List.subset_append_left _ _), judged_of_evaluate evaluated ok found carried⟩, carried,
        recorded, ⟨target, aims, aimsHere, (guardInstallRoot_ok guarded).mono fun call inside =>
          List.mem_append_right _ (List.mem_append_left _ inside)⟩⟩, ?_⟩
    cases launched reply with
    | error raised => rfl
    | ok code =>
      refine congrArg Except.ok ?_
      dsimp only
      split
      · next zero => exact zero.symm
      · rfl
  · obtain ⟨rfl, _⟩ := trace_raise_iff.mp trace'
    cases member

/-- A plan that was applied well was handed to an updater. -/
theorem applyPlan_ok {document : Json} {planPath : Text} {approved : Option Text} {asJson : Bool}
    {calls : UpdateCalls} {decision : ApplyDecision}
    (trace : Trace (applyPlan up document planPath approved (delegate document asJson)) calls (.ok decision)) :
    ∃ call ∈ calls, IsLaunch call.op := by
  have later {one other : UpdateCalls} (inside : ∃ call ∈ other, IsLaunch call.op) :
      ∃ call ∈ one ++ other, IsLaunch call.op := by
    obtain ⟨call, member, here⟩ := inside
    exact ⟨call, List.mem_append_right _ member, here⟩
  rw [applyPlan, trace_bind_ok] at trace
  obtain ⟨verdict, one, other, rfl, _, trace⟩ := trace
  refine later ?_
  split at trace
  · cases trace
  split at trace
  · rw [trace_bind_ok] at trace
    obtain ⟨state, one, other, rfl, _, trace⟩ := trace
    refine later ?_
    split at trace
    · cases trace
    rw [trace_bind_ok] at trace
    obtain ⟨named, one, other, rfl, _, trace⟩ := trace
    refine later ?_
    split at trace
    · cases trace
    rw [trace_bind_ok] at trace
    obtain ⟨root, one, other, rfl, _, trace⟩ := trace
    refine later ?_
    rw [trace_bind_ok] at trace
    obtain ⟨_, one, other, rfl, _, trace⟩ := trace
    refine later ?_
    rw [trace_bind_ok] at trace
    obtain ⟨_, one, other, rfl, _, trace⟩ := trace
    refine later ?_
    rw [trace_bind_ok] at trace
    obtain ⟨digest, one, other, rfl, _, trace⟩ := trace
    refine later ?_
    rw [trace_bind_ok] at trace
    obtain ⟨code, one, other, rfl, run, trace⟩ := trace
    unfold delegate at run
    split at run
    · split at run
      · obtain ⟨call, member, here⟩ := runCore_ok run
        exact ⟨call, List.mem_append_left _ member, here⟩
      · exact absurd run runMalformed_error
      · cases run
    · cases run
  · cases trace

/-! ### Forwarded plans -/

/-- A plan of the updater that may be forwarded: the digest that was approved is the one that it carries, and its
own. -/
structure ForwardedPlan (up : Updater) (document : JsonObject) (approved : Option Text) (digest : Text) : Prop where
  kind : valueOf document "kind" = .str "ecosystem-update-plan"
  given : approved = some digest
  carried : valueOf document "plan_digest" = .str digest
  own : (corePlanBytes up document).map up.ev.sha256 = .ok digest

/-- **A plan that is forwarded is approved as it is.** -/
theorem executeCorePlan_launch {document : JsonObject} {planPath : Text} {approved : Option Text} {asJson : Bool}
    {calls : UpdateCalls} {outcome : Except UpdateRaised ℤ} {call : Call UpdateOp UpdateReply}
    (kind : valueOf document "kind" = .str "ecosystem-update-plan")
    (trace : Trace (executeCorePlan up document planPath approved asJson) calls outcome)
    (member : call ∈ calls) (here : IsLaunch call.op) :
    ∃ before program reply digest,
      LaunchedAfter calls before program (approvedArgv planPath digest asJson).tail reply ∧
        Identified before program ∧
      Input before (approvedArgv planPath digest asJson).tail ∧ ForwardedPlan up document approved digest ∧
      outcome = launched reply := by
  unfold executeCorePlan at trace
  split at trace
  · next first rest =>
    split at trace
    · obtain ⟨rfl, _⟩ := trace_raise_iff.mp trace
      cases member
    next carried =>
    rw [Bool.not_eq_true', Bool.not_eq_false, pyEq_text_left] at carried
    obtain ⟨bytes, made, trace'⟩ := past_ofExcept trace member
    clear trace
    split at trace'
    · obtain ⟨rfl, _⟩ := trace_raise_iff.mp trace'
      cases member
    next own =>
    obtain ⟨before, program, reply, after, identified, input, ended⟩ := runCore_launch trace' member here
    refine ⟨before, program, reply, _, after, identified, input, ⟨kind, rfl, carried, ?_⟩, ended⟩
    rw [mapError_eq_ok.mp made]
    exact congrArg _ (not_not.mp own)
  · obtain ⟨rfl, _⟩ := trace_raise_iff.mp trace
    cases member

theorem executeCorePlan_ok {document : JsonObject} {planPath : Text} {approved : Option Text} {asJson : Bool}
    {calls : UpdateCalls} {code : ℤ}
    (trace : Trace (executeCorePlan up document planPath approved asJson) calls (.ok code)) :
    ∃ call ∈ calls, IsLaunch call.op := by
  unfold executeCorePlan at trace
  split at trace
  · split at trace
    · cases trace
    rw [trace_bind_ok] at trace
    obtain ⟨bytes, one, other, rfl, _, trace⟩ := trace
    split at trace
    · cases trace
    obtain ⟨call, member, here⟩ := runCore_ok trace
    exact ⟨call, List.mem_append_right _ member, here⟩
  · cases trace

/-! ### The command -/

/-- What was checked before a program is launched with these arguments. -/
structure Cleared (up : Updater) (planPath : Text) (approved : Option Text) (asJson : Bool) (before : UpdateCalls)
    (program : Path) (args : List Text) : Prop where
  identified : Identified before program
  input : Input before args
  plan : ∃ text document digest, ⟨.readText planPath, .ok text⟩ ∈ before ∧ Json.loads up.ev.py text = .ok document ∧
    args = (approvedArgv planPath digest asJson).tail ∧
    ((∃ plan, OwnPlan up before document approved plan digest) ∨
      ∃ entries, document = .obj entries ∧ ForwardedPlan up entries approved digest)

/-- How the command ends that launched a program. -/
def launchedEnd : Except HostFault ℤ → Except UpdateRaised Ended
  | .ok returncode => .ok ⟨if 0 ≤ returncode then returncode else 8, []⟩
  | .error raised =>
    if raised.isCaught then .ok ⟨3, ["axmp: core_update_failed_or_timed_out_state_unknown"]⟩
    else .error (.host raised)

/-- What the command launches for a document: a cleared program. -/
theorem applyDocument_launch {document : Json} {planPath : Text} {approved : Option Text} {asJson : Bool}
    {calls : UpdateCalls} {outcome : Except UpdateRaised ℤ} {call : Call UpdateOp UpdateReply}
    (trace : Trace (applyDocument up document planPath approved asJson) calls outcome) (member : call ∈ calls)
    (here : IsLaunch call.op) :
    ∃ before program reply digest,
      LaunchedAfter calls before program (approvedArgv planPath digest asJson).tail reply ∧
        Identified before program ∧
      Input before (approvedArgv planPath digest asJson).tail ∧ outcome = launched reply ∧
      ((∃ plan, OwnPlan up before document approved plan digest) ∨
        ∃ entries, document = .obj entries ∧ ForwardedPlan up entries approved digest) := by
  unfold applyDocument at trace
  cases document with
  | obj entries =>
    dsimp only at trace
    split at trace
    · next kind =>
      obtain ⟨before, program, reply, digest, after, identified, input, plan, ended⟩ :=
        executeCorePlan_launch (pyEq_text.mp kind) trace member here
      exact ⟨before, program, reply, digest, after, identified, input, ended, .inr ⟨entries, rfl, plan⟩⟩
    · obtain ⟨ended, applied, rfl⟩ := trace_bind_done.mp trace
      obtain ⟨before, program, reply, plan, digest, after, identified, input, own, ended⟩ :=
        applyPlan_launch applied member here
      exact ⟨before, program, reply, digest, after, identified, input, ended, .inl ⟨plan, own⟩⟩
  | _ =>
    obtain ⟨rfl, _⟩ := trace_raise_iff.mp trace
    cases member

theorem applyDocument_ok {document : Json} {planPath : Text} {approved : Option Text} {asJson : Bool}
    {calls : UpdateCalls} {code : ℤ}
    (trace : Trace (applyDocument up document planPath approved asJson) calls (.ok code)) :
    ∃ call ∈ calls, IsLaunch call.op := by
  unfold applyDocument at trace
  split at trace
  · split at trace
    · exact executeCorePlan_ok trace
    · obtain ⟨ended, applied, same⟩ := trace_bind_done.mp trace
      obtain ⟨decision, rfl, _⟩ := map_eq_ok.mp same.symm
      exact applyPlan_ok applied
  · cases trace

theorem endOf_launched (reply : Except HostFault ℤ) : endOf (launched reply) = launchedEnd reply := by
  cases reply with
  | ok returncode => rfl
  | error raised =>
    simp only [launched, launchedEnd]
    split <;> rfl

/-- A command that raised or refused does not end well. -/
theorem endOf_error {raised : UpdateRaised} {report : Ended} (ended : endOf (.error raised) = .ok report) :
    report.code ≠ 0 := by
  cases raised with
  | unavailable reason =>
    cases ended
    exact (by decide : (3 : ℤ) ≠ 0)
  | rejected reasons =>
    cases ended
    show applyExitCode reasons ≠ 0
    unfold applyExitCode
    split <;> decide
  | host fault => cases ended
  | plan raised => cases ended
  | malformed => cases ended

theorem documentOf_ok {py : Interpreter} {reply : Except HostFault Text} {document : Json}
    (found : documentOf py reply = .ok document) :
    ∃ text, reply = .ok text ∧ Json.loads py text = .ok document := by
  cases reply with
  | error raised => cases found
  | ok text =>
    simp only [documentOf] at found
    split at found
    · cases found
    · cases found
    · next loaded => exact ⟨text, rfl, loaded.trans (congrArg _ (Except.ok.inj found))⟩

end Plans

/-! ### A plan that is forwarded -/

/-- A document that is all kind and digest. -/
def forwardedText : Text :=
  ("\x7b\"kind\":\"ecosystem-update-plan\",\"plan_digest\":\"" : Text) ++
    ("398dec167bd77e764fd153687703e71b5a1bf32cd53826929928ba21029f266a" : Text) ++ ("\"\x7d" : Text)

/-- Its digest. -/
def forwardedDigest : Text := "398dec167bd77e764fd153687703e71b5a1bf32cd53826929928ba21029f266a"

/-- SHA-256 on its body, which has 32 bytes. -/
def forwarder : Updater where
  ev := ⟨.ascii, fun bytes => if bytes.length = 32 then forwardedDigest else [], Text.isDigitAscii⟩
  lower text := text
  evaluatorPath := Path.ofText "/opt/axiom/update_plan_contract.py"

/-- A host with an updater, on which nothing is a link. -/
def plainHost : (op : UpdateOp) → UpdateReply op
  | .readText _ => .ok forwardedText
  | .provenance => .error (.os "FileNotFoundError")
  | .isFile _ => .ok true
  | .isSymlink _ => .ok false
  | .readBytes _ | .execModule _ => .error (.os "FileNotFoundError")
  | .resolve path _ => .ok path
  | .cwd => .ok (Path.ofText "/home")
  | .protectedRoots => []
  | .coreCommand => some "/usr/bin/axiom"
  | .which => none
  | .lstat _ => .ok ()
  | .size _ => .ok 117
  | .probe _ => .ok ⟨0, .ok (.obj [("component", .str "axiom"), ("control_api", .int 1)])⟩
  | .launch _ _ => .ok 0

end AxiomMcp.Update
