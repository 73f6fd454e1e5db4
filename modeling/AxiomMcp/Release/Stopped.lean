/-
**Operations that are stopped anywhere.**

An install or a rollback may fail at every operation, and its process may be killed in front of every one, or in the
middle of one, which then is an operation that failed and left a part. What the pointer and the
history name is there all the same.

* `inner_along`: what a program inside of a version keeps;
* `install_along`, `rollback_along`: the invariant holds at every operation of an install and of a rollback;
* `stopped_grounded`: **after any operations, each stopped anywhere, every version that is recorded
  as installed, and the active one, has its directory and its lockfile; no lockfile and no line of
  the history is lost**.
-/

import AxiomMcp.Release.Install

namespace AxiomMcp.Release

open Lib Program Machine

variable {py : Interpreter} {around : Surroundings} {disk disk' first : Disk} {name : Text}

/-! ### What is there -/

/-- A version has its directory and its lockfile. -/
def Disk.Locked (disk : Disk) (name : Text) : Prop :=
  ∃ directory lockfile, disk.versions name = some directory ∧ directory.lockfile = some (.obj lockfile)

/-- The pointer or the history names a version. -/
def Disk.Names (disk : Disk) (py : Interpreter) (name : Text) : Prop :=
  name ∈ disk.installed py ∨ (disk.current.isSome = true ∧ name = disk.active py)

/-- Every version that is named has its directory and its lockfile. -/
def Grounded (py : Interpreter) (disk : Disk) : Prop := ∀ name, disk.Names py name → disk.Locked name

/-- No lockfile and no line of the history is lost. -/
structure Grows (first disk : Disk) : Prop where
  locks : ∀ name, first.Locked name → disk.Locked name
  history : first.history <+: disk.history

/-- What every operation keeps. -/
structure Safe (py : Interpreter) (first disk : Disk) : Prop where
  grounded : Grounded py disk
  grows : Grows first disk

theorem Grows.refl (disk : Disk) : Grows disk disk := ⟨fun _ locked => locked, List.prefix_rfl⟩

theorem Grows.trans (one : Grows first disk) (two : Grows disk disk') : Grows first disk' :=
  ⟨fun name locked => two.locks name (one.locks name locked), one.history.trans two.history⟩

theorem Disk.Locked.isSome (locked : disk.Locked name) : (disk.versions name).isSome = true := by
  obtain ⟨directory, _, here, _⟩ := locked
  rw [here]
  rfl

theorem change_elsewhere (disk : Disk) {name other : Text} (apart : other ≠ name)
    (step : Option VersionDirectory → Option VersionDirectory) :
    (disk.change name step).versions other = disk.versions other :=
  Function.update_of_ne apart _ _

/-- A change of one version leaves the others. -/
theorem locked_elsewhere {other : Text} (apart : other ≠ name)
    (step : Option VersionDirectory → Option VersionDirectory) :
    (disk.change name step).Locked other ↔ disk.Locked other := by
  unfold Disk.Locked
  rw [change_elsewhere disk apart]

/-- A change that keeps the lockfile keeps what is locked. -/
theorem locked_change {other : Text} {step : Option VersionDirectory → Option VersionDirectory}
    (kept : ∀ directory, ∃ changed, step (some directory) = some changed ∧ changed.lockfile = directory.lockfile)
    (locked : disk.Locked other) : (disk.change name step).Locked other := by
  by_cases same : other = name
  · subst same
    obtain ⟨directory, lockfile, here, holds⟩ := locked
    obtain ⟨changed, made, keeps⟩ := kept directory
    refine ⟨changed, lockfile, ?_, keeps.trans holds⟩
    rw [change_versions, here, made]
  · exact (locked_elsewhere same step).mpr locked

/-! ### Operations inside of a version -/

theorem Inner.locked {op : PackageOp} {reply : PackageReply op} {other : Text} (inner : Inner op)
    (locked : disk.Locked other) : (after disk op reply).Locked other := by
  unfold after
  split
  all_goals first | exact inner.elim | exact locked | refine locked_change (fun directory => ?_) locked
  all_goals exact ⟨_, rfl, rfl⟩

theorem Inner.isSome {op : PackageOp} {reply : PackageReply op} {other : Text} (inner : Inner op)
    (there : (disk.versions other).isSome = true) : ((after disk op reply).versions other).isSome = true := by
  have change_isSome (name : Text) {step : Option VersionDirectory → Option VersionDirectory}
      (kept : ∀ directory, (step (some directory)).isSome = true) :
      ((disk.change name step).versions other).isSome = true := by
    by_cases same : other = name
    · subst same
      obtain ⟨directory, here⟩ := Option.isSome_iff_exists.mp there
      rw [change_versions, here]
      exact kept directory
    · rw [change_elsewhere disk same]
      exact there
  unfold after
  split
  all_goals first | exact inner.elim | exact there | exact change_isSome _ fun _ => rfl

/-- What the pointer and the history name depends on nothing else. -/
theorem names_of_ledger (same : ledger disk' = ledger disk) : disk'.Names py name ↔ disk.Names py name := by
  obtain ⟨current, history⟩ := Prod.mk.inj same
  unfold Disk.Names Disk.installed Disk.active Disk.records
  rw [current, history]

theorem Inner.safe {op : PackageOp} {reply : PackageReply op} (inner : Inner op)
    (permitted : (machine around).permits disk op reply) (safe : Safe py first disk) :
    Safe py first ((machine around).after disk op reply) := by
  have same := ledger_after disk op reply inner.aside permitted
  refine ⟨fun name named => inner.locked (safe.grounded name ((names_of_ledger same).mp named)), ?_, ?_⟩
  · exact fun name locked => inner.locked (safe.grows.locks name locked)
  · exact (Prod.mk.inj same).2 ▸ safe.grows.history

/-- A program inside of a version keeps everything. -/
theorem inner_along (around : Surroundings) {α : Type} {p : PackageProgram α} (inner : p.Only Inner)
    (safe : Safe py first disk) :
    (machine around).Along (fun s _ => Safe py first s) (fun outcome s => Safe py first s ∧
      (machine around).Ends p disk outcome s) p disk :=
  ((along_of_only (Safe py first) inner safe fun _ _ _ holds allowed permitted =>
    allowed.safe permitted holds).mono (fun _ _ holds => holds.1) fun _ _ holds => holds).reached

/-- What a program inside of a version finds locked stays locked. -/
theorem inner_locked {α : Type} {p : PackageProgram α} {outcome : Except Raised α} (inner : p.Only Inner)
    (ends : (machine around).Ends p disk outcome disk') (locked : disk.Locked name) : disk'.Locked name :=
  (along_of_only (fun s => s.Locked name) inner locked fun _ _ _ holds allowed _ => allowed.locked holds).ends ends

theorem inner_isSome {α : Type} {p : PackageProgram α} {outcome : Except Raised α} (inner : p.Only Inner)
    (ends : (machine around).Ends p disk outcome disk') (there : (disk.versions name).isSome = true) :
    (disk'.versions name).isSome = true :=
  (along_of_only (fun s => (s.versions name).isSome = true) inner there fun _ _ _ holds allowed _ =>
    allowed.isSome holds).ends ends

/-! ### Along an install -/

theorem furnish_inner (around : Surroundings) (root : Path) (name : Text) (artifact : Source)
    (python : Option Text) :
    (furnish around root name artifact python).Only Inner := by
  refine Only.bind (stageArtifact_inner _ _ _) fun staged => Only.bind (createVenv_inner _ _ _ _) fun _ => ?_
  exact Only.bind (installArtifact_inner _ _ _ _) fun _ => Only.bind (freeze_inner _ _) fun _ => trivial

/-- The environment that is made has its directory. -/
theorem createEnvironment_made {root : Path} {artifact : Source} {python : Option Text}
    {environment : VersionEnvironment} (valid : validateVersion name = .ok name)
    (ends : (machine around).Ends (createEnvironment around root name artifact python) disk
      (.ok environment) disk') :
    environment.version = name ∧ (disk'.versions name).isSome = true := by
  refine ⟨(createEnvironment_version ends).trans (validateVersion_eq valid), ?_⟩
  rw [createEnvironment_eq valid] at ends
  obtain ⟨_, middle, dropped, afterDrop⟩ := ends_bind_ok.mp ends
  obtain ⟨_, made, ⟨reply, _, done⟩, furnished⟩ := ends_bind_ok.mp afterDrop
  refine inner_isSome (furnish_inner _ _ _ _ _) furnished ?_
  cases reply with
  | error raised => exact nomatch done.1
  | ok _ =>
    obtain ⟨_, rfl⟩ := done
    change ((middle.change name fun found =>
      some (found.getD ⟨none, fun _ => none, none⟩)).versions name).isSome = true
    rw [change_versions]
    rfl

/-- A version that is not named and was not locked can be taken away. -/
theorem safe_cleanup (safe : Safe py first disk) (unnamed : ¬ disk.Names py name) (unlocked : ¬ first.Locked name)
    (left : Option VersionDirectory) : Safe py first (disk.change name fun _ => left) := by
  refine ⟨fun other named => ?_, fun other locked => ?_, safe.grows.history⟩
  · have same : ledger (disk.change name fun _ => left) = ledger disk := rfl
    have before : disk.Names py other := (names_of_ledger same).mp named
    have apart : other ≠ name := fun same => unnamed (same ▸ before)
    exact (locked_elsewhere apart _).mpr (safe.grounded other before)
  · have apart : other ≠ name := fun same => unlocked (same ▸ locked)
    exact (locked_elsewhere apart _).mpr (safe.grows.locks other locked)

theorem discard_along {existed : Bool} {raised : Raised} (safe : Safe py first disk)
    (fresh : existed = false → ¬ disk.Names py name ∧ ¬ first.Locked name) :
    (machine around).Along (fun s _ => Safe py first s)
      (fun outcome s => Safe py first s ∧ ∀ environment, outcome ≠ .ok environment)
      (discard name existed raised) disk := by
  unfold discard
  split
  · next new =>
    obtain ⟨unnamed, unlocked⟩ := fresh (by simpa using ((Bool.and_eq_true _ _).mp new).2)
    refine along_call safe fun there _ => ?_
    split
    · exact along_call safe fun left _ => ⟨safe_cleanup safe unnamed unlocked left, fun _ => nofun⟩
    · exact ⟨safe, fun _ => nofun⟩
  · exact ⟨safe, fun _ => nofun⟩

/-- A lockfile is written. -/
theorem safe_lockfile {lockfile : JsonObject} (safe : Safe py first disk)
    (there : (disk.versions name).isSome = true)
    (reply : PackageReply (.replace (.lockfile name) (.obj lockfile))) :
    Safe py first (after disk (.replace (.lockfile name) (.obj lockfile)) reply) ∧
      (reply = .ok () → (after disk (.replace (.lockfile name) (.obj lockfile)) reply).Locked name) := by
  cases reply with
  | error raised => exact ⟨safe, nofun⟩
  | ok _ =>
    obtain ⟨directory, here⟩ := Option.isSome_iff_exists.mp there
    let written := disk.change name
      (Option.map fun directory => { directory with lockfile := some (.obj lockfile) })
    have locked : written.Locked name := by
      refine ⟨{ directory with lockfile := some (.obj lockfile) }, lockfile, ?_, rfl⟩
      show (disk.change name _).versions name = _
      rw [change_versions, here]
      rfl
    have others (other : Text) (was : disk.Locked other) : written.Locked other := by
      by_cases same : other = name
      · exact same ▸ locked
      · exact (locked_elsewhere same _).mpr was
    refine ⟨⟨fun other named => others other (safe.grounded other ?_), ?_, safe.grows.history⟩, fun _ => locked⟩
    · have same : ledger written = ledger disk := rfl
      exact (names_of_ledger same).mp named
    · exact fun other was => others other (safe.grows.locks other was)

/-- The pointer is written. -/
theorem safe_pointer {version : Text} {now : PyFloat} (safe : Safe py first disk)
    (locked : disk.Locked version.strip)
    (reply : PackageReply (.replace .current (pointer version now))) :
    Safe py first (after disk (.replace .current (pointer version now)) reply) := by
  cases reply with
  | error raised => exact safe
  | ok _ =>
    refine ⟨fun name named => ?_, safe.grows.locks, safe.grows.history⟩
    rcases named with old | ⟨_, rfl⟩
    · exact safe.grounded name (.inl old)
    · exact locked

/-- A document is written: its folder and its temporary file change nothing here. -/
theorem writeJsonAtomic_along (around : Surroundings) {target : Document} {payload : Json} (kept : Disk → Prop)
    (safe : Safe py first disk)
    (written : ∀ reply : PackageReply (.replace target payload),
      Safe py first (after disk (.replace target payload) reply) ∧
        (reply = .ok () → kept (after disk (.replace target payload) reply))) :
    (machine around).Along (fun s _ => Safe py first s)
      (fun outcome s => Safe py first s ∧ (outcome = .ok () → kept s)) (writeJsonAtomic target payload) disk := by
  refine along_call safe fun folder _ => ?_
  cases folder with
  | error raised => exact ⟨safe, nofun⟩
  | ok _ =>
    refine along_call safe fun temporary _ => ?_
    cases temporary with
    | error raised => exact ⟨safe, nofun⟩
    | ok _ =>
      refine along_call safe fun reply _ => ?_
      obtain ⟨still, ended⟩ := written reply
      cases reply with
      | error raised => exact ⟨still, nofun⟩
      | ok _ => exact ⟨still, fun _ => ended rfl⟩

theorem activate_along {version : Text} (safe : Safe py first disk) (locked : disk.Locked version.strip) :
    (machine around).Along (fun s _ => Safe py first s)
      (fun outcome s => Safe py first s ∧ (outcome = .ok () → s.Locked version.strip)) (activate version) disk := by
  refine along_ofExcept_bind (fun name valid => ?_) fun _ _ => ⟨safe, nofun⟩
  obtain rfl := validateVersion_eq valid
  refine along_call safe fun now _ => ?_
  refine writeJsonAtomic_along around (fun s => s.Locked version.strip) safe fun reply => ?_
  refine ⟨safe_pointer safe locked reply, ?_⟩
  rintro rfl
  exact locked

/-- A record that names nothing but what is locked. -/
theorem appendHistory_along {record : JsonObject} (safe : Safe py first disk)
    (named : ∀ after : Disk, after.history = disk.history ++ [.record (.obj record)] →
      ∀ name ∈ after.installed py, name ∈ disk.installed py ∨ disk.Locked name) :
    (machine around).Along (fun s _ => Safe py first s) (fun (_ : Except Raised Unit) s => Safe py first s)
      (appendHistory (.obj record)) disk := by
  refine along_call safe fun root _ => ?_
  cases root with
  | error raised => exact safe
  | ok _ =>
    refine along_call safe fun reply _ => ?_
    rcases reply with ⟨raised, _ | _⟩ | _
    · exact safe
    · let torn : Disk := { disk with history := disk.history ++ [.broken] }
      have records : torn.records = disk.records := by
        show List.filterMap _ (_ ++ _) = _
        rw [List.filterMap_append]
        exact List.append_nil _
      have longer := safe.grows.history.trans (List.prefix_append disk.history [.broken])
      refine ⟨fun name old => safe.grounded name ?_, safe.grows.locks, longer⟩
      rcases old with member | active
      · exact .inl (by unfold Disk.installed at member ⊢; exact records ▸ member)
      · exact .inr active
    · refine ⟨fun name old => ?_, safe.grows.locks, safe.grows.history.trans (List.prefix_append _ _)⟩
      rcases old with member | active
      · exact (named _ rfl name member).elim (fun old => safe.grounded name (.inl old)) id
      · exact safe.grounded name (.inr active)

/-- What is written of an environment that has its directory. -/
theorem register_along {environment : VersionEnvironment} (safe : Safe py first disk)
    (valid : environment.version.strip = environment.version)
    (there : (disk.versions environment.version).isSome = true) :
    (machine around).Along (fun s _ => Safe py first s) (fun (_ : Except Raised JsonObject) s => Safe py first s)
      (register around environment) disk := by
  have serialize := inner_along around (serializeLockfile_inner around environment) safe
  refine serialize.bind (fun lockfile middle serialized => ?_) fun _ _ ended => ended.1
  obtain ⟨still, ends⟩ := serialized
  have present := inner_isSome (serializeLockfile_inner around environment) ends there
  obtain ⟨size, _, _, ⟨now, _, same, _⟩⟩ := ends_bind_ok.mp ends
  obtain rfl := Except.ok.inj same
  refine (writeJsonAtomic_along around (fun s => s.Locked environment.version) still
    (safe_lockfile still present)).bind (fun _ written ended => ?_) fun _ _ ended => ended.1
  obtain ⟨still, locked⟩ := ended
  have locked := locked rfl
  rw [← valid] at locked
  refine (activate_along still locked).bind (fun _ pointed activated => ?_) fun _ _ ended => ended.1
  obtain ⟨still, locked⟩ := activated
  refine along_call still fun now _ => ?_
  refine (appendHistory_along still fun after grown name member => ?_).bind (fun _ _ done => done)
    fun _ _ done => done
  rcases installed_install grown name member with old | rfl
  · exact .inl old
  · exact .inr (valid ▸ locked rfl)

/-- **Every operation of an install keeps what is named.** -/
theorem install_along (request : Request) (safe : Safe py disk disk) :
    (machine around).Along (fun s _ => Safe py disk s) (fun (_ : Except Raised JsonObject) s => Safe py disk s)
      (install around request) disk := by
  refine along_ofExcept_bind (fun root _ => ?_) fun _ _ => safe
  refine along_ofExcept_bind (fun name valid => ?_) fun _ _ => safe
  refine along_ofExcept_bind (fun _ _ => ?_) fun _ _ => safe
  refine along_call safe fun existed found => ?_
  have answered : existed = (disk.versions name).isSome := found
  have again := valid_again valid
  have create := inner_along around
    (createEnvironment_inner around root name request.artifact request.python) safe
  have built : (machine around).Along (fun s _ => Safe py disk s)
      (fun outcome s => Safe py disk s ∧ ∀ environment, outcome = .ok environment →
        environment.version = name ∧ (s.versions name).isSome = true)
      ((createEnvironment around root name request.artifact request.python).rescue
        (discard name existed)) disk := by
    refine create.rescue (fun environment s ended => ⟨ended.1, ?_⟩) fun raised s ended => ?_
    · rintro _ ⟨⟩
      exact createEnvironment_made again ended.2
    · -- A version that was not there is neither locked nor named, and nothing has named it since.
      have same := ended.2.keeps
        ((createEnvironment_inner around root name request.artifact request.python).mono fun _ =>
          Inner.aside) ledger_after
      refine (discard_along ended.1 fun new => ?_).post fun outcome s left => ⟨left.1, fun environment same => ?_⟩
      · have unlocked : ¬ disk.Locked name := by
          intro locked
          rw [new, locked.isSome] at answered
          cases answered
        exact ⟨fun named => unlocked (safe.grounded name ((names_of_ledger same).mp named)), unlocked⟩
      · exact absurd same (left.2 environment)
  refine built.bind (fun environment s made => ?_) fun _ _ ended => ended.1
  obtain ⟨version, there⟩ := made.2 environment rfl
  exact register_along made.1 (by rw [version, validateVersion_eq again]) (by rw [version]; exact there)

/-! ### Along a rollback -/

/-- A target that is restored has its lockfile. -/
theorem restore_locked {target : Text} {directory : Path} {restored : List Text × List Text × Text}
    (ends : (machine around).Ends (restore py around target directory) disk (.ok restored) disk') :
    disk'.Locked target.strip := by
  refine inner_locked (restore_inner py around target directory) ends ?_
  obtain ⟨there, _, ends⟩ := ends
  dsimp only at ends
  split at ends
  · exact nomatch ends.1
  · obtain ⟨lockfile, _, ⟨reply, permitted, read⟩, _⟩ := ends_bind_ok.mp ends
    cases reply with
    | error raised => exact nomatch read.1
    | ok found =>
      obtain ⟨folder, here, holds⟩ := Option.bind_eq_some_iff.mp permitted
      exact ⟨folder, found, here, holds⟩

/-- **Every operation of a rollback keeps what is named.** -/
theorem rollback_along (installRoot : Text) (toVersion : Option Text) (guarded : Option (List Path))
    (safe : Safe py disk disk) :
    (machine around).Along (fun s _ => Safe py disk s) (fun (_ : Except Raised JsonObject) s => Safe py disk s)
      (rollback py around installRoot toVersion guarded) disk := by
  refine along_ofExcept_bind (fun root _ => ?_) fun _ _ => safe
  have read : (Program.call .readHistory attempt : PackageProgram (List JsonObject)).Only Inner :=
    ⟨trivial, only_attempt⟩
  refine (inner_along around read safe).bind (fun records s ended => ?_) fun _ _ ended => ended.1
  have resolve : (resolveRollbackTarget py toVersion records).Only Inner := by
    unfold resolveRollbackTarget
    split
    · exact only_ofExcept _
    · refine ⟨trivial, fun reply => Only.bind (only_ofExcept _) fun current => ?_⟩
      split <;> exact trivial
  refine (inner_along around resolve ended.1).bind (fun target s ended => ?_) fun _ _ ended => ended.1
  refine along_ofExcept_bind (fun directory _ => ?_) fun _ _ => ended.1
  refine (inner_along around (restore_inner py around target directory) ended.1).bind ?_ fun _ _ ended => ended.1
  intro restored s ended
  refine (activate_along ended.1 (restore_locked ended.2)).bind (fun _ s ended => ?_) fun _ _ ended => ended.1
  refine along_call ended.1 fun now _ => ?_
  refine (appendHistory_along ended.1 fun after grown name member => ?_).bind (fun _ _ done => done)
    fun _ _ done => done
  rw [installed_rollback grown] at member
  exact .inl member

/-! ### Runs -/

/-- Operations one after another, each stopped anywhere: it came to an end, or its process was killed. -/
inductive Interrupted (py : Interpreter) (around : Surroundings) : Disk → Disk → Prop
  | start (disk : Disk) : Interrupted py around disk disk
  | step {disk middle last : Disk} {operation : Operation} (before : Interrupted py around disk middle)
    (stops : (machine around).Stops (operation.program py around) middle last) : Interrupted py around disk last

/-- An operation that is stopped anywhere keeps what is named. -/
theorem stops_safe {operation : Operation} (grounded : Grounded py disk)
    (stops : (machine around).Stops (operation.program py around) disk disk') : Safe py disk disk' := by
  have safe : Safe py disk disk := ⟨grounded, .refl disk⟩
  cases operation with
  | install request => exact (install_along request safe).stops stops
  | rollback installRoot toVersion guarded => exact (rollback_along installRoot toVersion guarded safe).stops stops

theorem Interrupted.safe (run : Interrupted py around first disk) (grounded : Grounded py first) :
    Safe py first disk := by
  induction run with
  | start => exact ⟨grounded, .refl first⟩
  | step _ stops ih =>
    have last := stops_safe ih.grounded stops
    exact ⟨last.grounded, ih.grows.trans last.grows⟩

/-- **After any operations, each stopped anywhere, every installed version and the active one have
their directory and their lockfile**, and from one point of such a run to a later one no lockfile
and no line of the history is lost. -/
theorem stopped_grounded (py : Interpreter) (around : Surroundings) (elsewhere : Text → Option Node)
    (first disk : Disk) (before : Interrupted py around (freshDisk elsewhere) first)
    (later : Interrupted py around first disk) : Grounded py disk ∧ Grows first disk := by
  have fresh : Grounded py (freshDisk elsewhere) := by
    rintro name (installed | ⟨pointed, _⟩)
    · cases installed
    · cases pointed
  have safe := later.safe (before.safe fresh).grounded
  exact ⟨safe.grounded, safe.grows⟩

/-- A version is installed, and its retry fails when its environment is gone: the version is still locked. -/
theorem stopped_grounded_retry : ∃ disk, (disk.environment "1.0.0").isNone = true ∧
    Grounded .ascii disk ∧ Grows (sampleDisk 1) disk := by
  obtain ⟨_, installed⟩ := perform_next (sampleInstall "1.0.0") (sampleDisk 0) (by decide +kernel)
  have before : Interrupted .ascii sampleSurroundings (freshDisk sampleElsewhere) (sampleDisk 1) :=
    .step (.start _) installed.stops
  have lost : (retried.any fun ended => (ended.2.environment "1.0.0").isNone) = true := by decide +kernel
  obtain ⟨⟨outcome, disk⟩, played, shown⟩ := (Option.any_eq_true _ _).mp lost
  have failed := (ends_play refusing_permitted played).stops
  have stopped : (machine sampleSurroundings).Stops
      ((Operation.install sampleRetry).program .ascii sampleSurroundings) (sampleDisk 1) disk := failed
  have later : Interrupted .ascii sampleSurroundings (sampleDisk 1) disk := .step (.start _) stopped
  exact ⟨disk, shown, stopped_grounded .ascii sampleSurroundings sampleElsewhere _ _ before later⟩

end AxiomMcp.Release
