/-
**What an accepted update plan is.**

An evaluator collects reasons. Here a plan is described instead: `Accepted plan digest` says what its records are
and how they fit together, without a loop, an accumulator or a reason.

* `rowReasons_ok_iff`: nothing is said against the rows of a section iff each row is good and no name comes twice;
* `placeholders_eq_nil_iff`: nothing is left to be filled in iff no text of a plan says so;
* `evaluate_ok_iff`: **an evaluator accepts a document iff its plan is `Accepted`**, and the approved digest that
  comes with it, if one does, is the digest of that plan.
-/

import AxiomMcp.Lib.JsonRound
import AxiomMcp.Update.Contract

namespace AxiomMcp.Update

open Lib
open Query (isSha256 isIdentifier isPortableRelative truthy)

/-! ### Values -/

/-- A text of a pattern. -/
def TextOf (pattern : Text → Bool) (value : Json) : Prop := ∃ text, value = .str text ∧ pattern text = true

/-- One of these names. -/
def NameOf (names : List Text) (value : Json) : Prop := ∃ name ∈ names, value = .str name

/-- An integer that is no smaller. -/
def CountOf (minimum : ℤ) (value : Json) : Prop := ∃ count, value = .int count ∧ minimum ≤ count

/-- A text that is not blank. -/
def Worded (value : Json) : Prop := TextOf (fun text => text.strip ≠ []) value

/-- A truth value. -/
def Flagged (value : Json) : Prop := ∃ flag, value = .bool flag

/-- A text stands somewhere in a value. -/
inductive Holds (text : Text) : Json → Prop
  | here : Holds text (.str text)
  | item {items : List Json} {item : Json} (member : item ∈ items) (inside : Holds text item) :
    Holds text (.arr items)
  | entry {entries : JsonObject} {item : Text × Json} (member : item ∈ entries) (inside : Holds text item.2) :
    Holds text (.obj entries)

/-- A section is a list of good rows. -/
def RowsOf (good : JsonObject → Prop) (value : Json) (rows : List JsonObject) : Prop :=
  value = .arr (rows.map .obj) ∧ ∀ row ∈ rows, good row

/-! ### Records -/

section Records

variable (ev : Evaluator)

/-- The head of a plan. -/
structure Head (plan : JsonObject) : Prop where
  schema : Json.pyEq (valueOf plan "schema_version") (.int 1) = true
  worded : Worded (valueOf plan "spec_version")
  spec : TextOf (isSemver ev.isDecimal) (valueOf plan "spec_version")
  identifier : TextOf isIdentifier (valueOf plan "plan_id")
  created : TextOf (isTimestamp ev.isDecimal) (valueOf plan "created_at")
  expires : TextOf (isTimestamp ev.isDecimal) (valueOf plan "expires_at")
  /-- A plan expires after it was created. -/
  lasts : ∀ start last, valueOf plan "created_at" = .str start → isTimestamp ev.isDecimal start = true →
    valueOf plan "expires_at" = .str last → start < last
  channel : NameOf channels (valueOf plan "channel")

/-- The target of a plan. -/
structure Target (target : JsonObject) : Prop where
  component : NameOf components (valueOf target "component")
  host : NameOf hosts (valueOf target "host")
  root : Worded (valueOf target "install_root")

/-- An action fits the installed version and the target version. -/
inductive ActionFits (target : Text) : Text → Json → Prop
  | install : ActionFits target "install" .null
  | upgrade {installed : Json} (present : installed ≠ .null) (other : installed ≠ .str target) :
    ActionFits target "upgrade" installed
  | reinstall {installed : Json} (present : installed ≠ .null) : ActionFits target "reinstall" installed
  | noop : ActionFits target "noop" (.str target)

/-- The row of a component. -/
structure ComponentRow (row : JsonObject) : Prop where
  fields : ∀ key ∈ componentFields, key ∈ row.map Prod.fst
  component : NameOf components (valueOf row "component")
  installed : valueOf row "installed_version" = .null ∨
    TextOf (isSemver ev.isDecimal) (valueOf row "installed_version")
  installedRevision : valueOf row "installed_revision" = .null ∨
    TextOf isRevision (valueOf row "installed_revision")
  target : TextOf (isSemver ev.isDecimal) (valueOf row "target_version")
  targetRevision : TextOf isRevision (valueOf row "target_revision")
  artifact : TextOf isSha256 (valueOf row "artifact_sha256")
  action : ∃ action version, valueOf row "action" = .str action ∧ valueOf row "target_version" = .str version ∧
    ActionFits version action (valueOf row "installed_version")

/-- The row of a download. -/
structure DownloadRow (row : JsonObject) : Prop where
  artifact : Worded (valueOf row "artifact")
  url : TextOf (fun url => Text.startsWith url "https://") (valueOf row "url")
  digest : TextOf isSha256 (valueOf row "sha256")
  size : CountOf 1 (valueOf row "size_bytes")

/-- The row of a migration. -/
structure MigrationRow (row : JsonObject) : Prop where
  identifier : TextOf isIdentifier (valueOf row "migration_id")
  /-- A migration goes forward. -/
  forward : ∃ source target : ℤ, valueOf row "from_queue_schema" = .int source ∧
    valueOf row "to_queue_schema" = .int target ∧ 0 ≤ source ∧ source < target
  /-- What cannot be undone requires a backup. -/
  backed : valueOf row "reversible" = .bool false → valueOf row "requires_backup" = .bool true

/-- The backup, for these migrations. -/
structure Backup (steps : List JsonObject) (backup : JsonObject) : Prop where
  required : Flagged (valueOf backup "required")
  targets : ∃ names, valueOf backup "targets" = .arr names ∧ ∀ name ∈ names, TextOf isPortableRelative name
  needed : ∀ row ∈ steps, valueOf row "requires_backup" = .bool true → valueOf backup "required" = .bool true

/-- The row of an interruption. -/
structure InterruptionRow (row : JsonObject) : Prop where
  service : NameOf components (valueOf row "service")
  action : NameOf interruptionActions (valueOf row "action")
  seconds : CountOf 0 (valueOf row "max_seconds")

/-- The reconnection of the host. -/
structure Reconnect (reconnect : JsonObject) : Prop where
  required : Flagged (valueOf reconnect "required")
  reason : Worded (valueOf reconnect "reason")

/-- The row of a change of the bootstrap. -/
structure ChangeRow (row : JsonObject) : Prop where
  repo : TextOf isIdentifier (valueOf row "repo_id")
  template : TextOf (isSemver ev.isDecimal) (valueOf row "template_version")
  destinations : ∃ names, valueOf row "destinations" = .arr names ∧ names ≠ [] ∧
    ∀ name ∈ names, TextOf isPortableRelative name

/-- The rollback, for these migrations. -/
structure Rollback (steps : List JsonObject) (rollback : JsonObject) : Prop where
  supported : Flagged (valueOf rollback "supported")
  restores : Flagged (valueOf rollback "restores_previous_versions")
  limits : ∃ limits, valueOf rollback "limits" = .arr limits ∧
    (valueOf rollback "supported" = .bool true → ∀ limit ∈ limits, Worded limit)
  /-- A plan with migrations can be rolled back. -/
  backward : steps ≠ [] → valueOf rollback "supported" = .bool true

/-- The trust in a plan that was created then. -/
structure Trust (created : Json) (trust : JsonObject) : Prop where
  version : CountOf 1 (valueOf trust "metadata_version")
  expiry : TextOf (isTimestamp ev.isDecimal) (valueOf trust "metadata_expiry")
  lasts : ∀ start last, created = .str start → isTimestamp ev.isDecimal start = true →
    valueOf trust "metadata_expiry" = .str last → start < last
  /-- A root that is no text is not looked at. -/
  root : valueOf trust "trust_root" ≠ .null ∧
    ∀ root, valueOf trust "trust_root" = .str root → isSha256 root = true
  signed : valueOf trust "signature_present" = .bool true

/-- The approval inside of a plan with this digest. -/
inductive Recorded (digest : Text) (approval : JsonObject) : Prop
  | unapproved (state : valueOf approval "state" = .str "unapproved")
    (digest : valueOf approval "approved_digest" = .null) (person : valueOf approval "approved_by" = .null)
    (time : valueOf approval "approved_at" = .null)
  | approved (state : valueOf approval "state" = .str "approved")
    (digest : valueOf approval "approved_digest" = .str digest) (person : Worded (valueOf approval "approved_by"))
    (time : TextOf (isTimestamp ev.isDecimal) (valueOf approval "approved_at"))

/-- The records of a plan. -/
structure Records (plan : JsonObject) (digest : Text) : Prop where
  head : Head ev plan
  target : ∃ target, valueOf plan "target" = .obj target ∧ Target target
  components : ∃ rows, RowsOf (ComponentRow ev) (valueOf plan "components") rows ∧ rows ≠ [] ∧
    (rows.map fun row => valueOf row "component").Nodup
  downloads : ∃ rows, RowsOf DownloadRow (valueOf plan "downloads") rows ∧
    (rows.map fun row => valueOf row "artifact").Nodup
  changed : ∃ steps, RowsOf MigrationRow (valueOf plan "migrations") steps ∧
    (steps.map fun row => valueOf row "migration_id").Nodup ∧
    (∃ backup, valueOf plan "backup" = .obj backup ∧ Backup steps backup) ∧
    ∃ rollback, valueOf plan "rollback" = .obj rollback ∧ Rollback steps rollback
  headroom : CountOf 0 (valueOf plan "disk_headroom_bytes")
  interruptions : ∃ rows, RowsOf InterruptionRow (valueOf plan "service_interruptions") rows
  reconnect : ∃ reconnect, valueOf plan "host_reconnect" = .obj reconnect ∧ Reconnect reconnect
  changes : ∃ rows, RowsOf (ChangeRow ev) (valueOf plan "bootstrap_changes") rows
  trust : ∃ trust, valueOf plan "trust" = .obj trust ∧ Trust ev (valueOf plan "created_at") trust
  approval : ∃ approval, valueOf plan "approval" = .obj approval ∧ Recorded ev digest approval
  /-- A plan carries its own digest. -/
  recorded : valueOf plan "plan_digest" = .str digest ∧ isSha256 digest = true ∧ planDigest ev plan = .ok digest

/-- A plan that is accepted, and its digest. -/
structure Accepted (plan : JsonObject) (digest : Text) : Prop where
  fields : ∀ key, key ∈ plan.map Prod.fst ↔ key ∈ planRequired
  resolved : ∀ text, Holds text (.obj plan) → isPlaceholder text = false
  records : Records ev plan digest

end Records

/-! ### Tests of values -/

@[simp] theorem flag_eq_nil {refused : Bool} {reason : Text} : flag refused reason = [] ↔ refused = false := by
  cases refused <;> simp [flag]

theorem isTextOf_iff {pattern : Text → Bool} {value : Json} :
    isTextOf pattern value = true ↔ TextOf pattern value := by
  cases value <;> simp [isTextOf, TextOf]

theorem isText_iff {value : Json} : isText value = true ↔ Worded value := isTextOf_iff

theorem isCount_iff {minimum : ℤ} {value : Json} : isCount minimum value = true ↔ CountOf minimum value := by
  cases value <;> simp [isCount, CountOf]

theorem isBool_iff {value : Json} : isBool value = true ↔ Flagged value := by
  cases value <;> simp [isBool, Flagged]

theorem isTrue_iff {value : Json} : isTrue value = true ↔ value = .bool true := by
  cases value <;> simp [isTrue]

theorem isFalse_iff {value : Json} : isFalse value = true ↔ value = .bool false := by
  cases value <;> simp [isFalse]

theorem isNull_iff {value : Json} : isNull value = true ↔ value = .null := by
  cases value <;> simp [isNull]

/-- A test in a set that ended well. -/
theorem isOneOf_iff {names : List Text} {value : Json} :
    isOneOf names value = .ok true ↔ NameOf names value := by
  cases value <;> simp [isOneOf, NameOf]

/-- A value is equal to a text only if it is this text. -/
theorem pyEq_text {value : Json} {text : Text} : Json.pyEq value (.str text) = true ↔ value = .str text := by
  cases value <;> simp [Json.pyEq, Json.asInt?]

/-- Texts are found among texts. -/
theorem isSeen_iff {seen : List Json} {name : Json} (text : ∃ text, name = .str text) :
    isSeen seen name = true ↔ name ∈ seen := by
  obtain ⟨text, rfl⟩ := text
  rw [isSeen, List.any_eq_true]
  constructor
  · rintro ⟨other, member, same⟩
    rwa [← pyEq_text.mp same]
  · exact fun member => ⟨_, member, pyEq_text.mpr rfl⟩

/-- A step that may raise, and a judgement over what it found. -/
theorem step_ok_iff {x : Except PlanFault Bool} {f : Bool → Except PlanFault (List Text)}
    (refused : f false ≠ .ok []) : x >>= f = .ok [] ↔ x = .ok true ∧ f true = .ok [] := by
  rw [bind_eq_ok]
  constructor
  · rintro ⟨known, found, judged⟩
    cases known with
    | false => exact absurd judged refused
    | true => exact ⟨found, judged⟩
  · exact fun both => ⟨true, both⟩

/-! ### Rows -/

section Rows

variable {notObject : Text} {names : JsonObject → List Json}
  {reasons : ℕ → List Json → JsonObject → Except PlanFault (List Text)} {good : JsonObject → Prop}

/-- Two judgements without reasons. -/
theorem both_ok_iff {x y : Except PlanFault (List Text)} :
    (x >>= fun here => y >>= fun later => .ok (here ++ later)) = .ok [] ↔ x = .ok [] ∧ y = .ok [] := by
  simp only [bind_eq_ok, Except.ok.injEq, List.append_eq_nil_iff]
  constructor
  · rintro ⟨here, first, later, second, rfl, rfl⟩
    exact ⟨first, second⟩
  · exact fun both => ⟨[], both.1, [], both.2, rfl, rfl⟩

/-- A row that is no object. -/
theorem notObject_not_ok {x : Except PlanFault (List Text)} :
    (x >>= fun later => .ok (notObject :: later)) ≠ .ok [] := by
  rw [Ne, bind_eq_ok]
  rintro ⟨later, _, wrong⟩
  cases wrong

/-- The loop over rows, behind names that were seen. -/
theorem rowReasons_from
    (each : ∀ index seen row, reasons index seen row = .ok [] ↔ good row ∧ ∀ name ∈ names row, name ∉ seen)
    (index : ℕ) (seen rows : List Json) :
    rowReasons notObject names reasons index seen rows = .ok [] ↔
      ∃ entries : List JsonObject, rows = entries.map .obj ∧ (∀ row ∈ entries, good row) ∧
        (∀ row ∈ entries, ∀ name ∈ names row, name ∉ seen) ∧
        entries.Pairwise fun earlier later => ∀ name ∈ names later, name ∉ names earlier := by
  induction rows generalizing index seen with
  | nil =>
    refine iff_of_true rfl ⟨[], rfl, ?_⟩
    simp
  | cons row rest ih =>
    cases row with
    | obj entries =>
      rw [rowReasons, both_ok_iff, each, ih]
      constructor
      · rintro ⟨⟨here, fresh⟩, later, rfl, goods, others, apart⟩
        refine ⟨entries :: later, rfl, List.forall_mem_cons.mpr ⟨here, goods⟩,
          List.forall_mem_cons.mpr ⟨fresh, fun other member name named seen => ?_⟩,
          List.pairwise_cons.mpr ⟨fun other member name named seen => ?_, apart⟩⟩
        · exact others other member name named (List.mem_append_left _ seen)
        · exact others other member name named (List.mem_append_right _ seen)
      · rintro ⟨found, same, goods, fresh, apart⟩
        cases found with
        | nil => cases same
        | cons first later =>
          obtain ⟨⟨rfl⟩, rfl⟩ := List.cons.inj same
          obtain ⟨here, goods⟩ := List.forall_mem_cons.mp goods
          obtain ⟨unseen, others⟩ := List.forall_mem_cons.mp fresh
          obtain ⟨before, apart⟩ := List.pairwise_cons.mp apart
          refine ⟨⟨here, unseen⟩, later, rfl, goods, fun other member name named seen => ?_, apart⟩
          rcases List.mem_append.mp seen with earlier | first
          · exact others other member name named earlier
          · exact before other member name named first
    | _ =>
      refine iff_of_false notObject_not_ok ?_
      rintro ⟨found, same, _⟩
      cases found <;> cases same

/-- **A section without reasons**: every row is good, and no name comes twice. -/
theorem rowReasons_ok_iff (name : JsonObject → Json) (named : ∀ row, good row → names row = [name row])
    (each : ∀ index seen row, reasons index seen row = .ok [] ↔ good row ∧ name row ∉ seen) (rows : List Json) :
    rowReasons notObject names reasons 0 [] rows = .ok [] ↔
      ∃ entries, RowsOf good (.arr rows) entries ∧ (entries.map name).Nodup := by
  have behind : ∀ index seen row,
      reasons index seen row = .ok [] ↔ good row ∧ ∀ found ∈ names row, found ∉ seen := by
    intro index seen row
    rw [each]
    refine and_congr_right fun here => ?_
    rw [named row here, List.forall_mem_singleton]
  rw [rowReasons_from behind]
  refine exists_congr fun entries => ?_
  have apart : (∀ row ∈ entries, good row) →
      ((entries.Pairwise fun earlier later => ∀ found ∈ names later, found ∉ names earlier) ↔
        (entries.map name).Nodup) := by
    intro goods
    rw [List.Nodup, List.pairwise_map]
    refine List.Pairwise.iff_of_mem fun {earlier later} before after => ?_
    rw [named earlier (goods earlier before), named later (goods later after), List.forall_mem_singleton,
      List.mem_singleton]
    exact ⟨fun other same => other same.symm, fun other same => other same.symm⟩
  constructor
  · rintro ⟨rfl, goods, _, distinct⟩
    exact ⟨⟨rfl, goods⟩, (apart goods).mp distinct⟩
  · rintro ⟨⟨same, goods⟩, distinct⟩
    exact ⟨Json.arr.inj same, goods, fun _ _ _ _ => List.not_mem_nil, (apart goods).mpr distinct⟩

/-- A section whose rows have no names. -/
theorem rowReasons_nameless
    (each : ∀ index seen row, reasons index seen row = .ok [] ↔ good row) (rows : List Json) :
    rowReasons notObject (fun _ => []) reasons 0 [] rows = .ok [] ↔ ∃ entries, RowsOf good (.arr rows) entries := by
  have behind : ∀ index seen row, reasons index seen row = .ok [] ↔
      good row ∧ ∀ found ∈ ([] : List Json), found ∉ seen := by
    intro index seen row
    rw [each]
    exact (and_iff_left (List.forall_mem_nil _)).symm
  rw [rowReasons_from behind]
  refine exists_congr fun entries => ?_
  constructor
  · rintro ⟨rfl, goods, _⟩
    exact ⟨rfl, goods⟩
  · rintro ⟨same, goods⟩
    exact ⟨Json.arr.inj same, goods, fun _ _ _ named => absurd named List.not_mem_nil,
      List.pairwise_of_forall fun _ _ _ named => absurd named List.not_mem_nil⟩

end Rows

/-! ### Placeholders -/

/-- **Nothing is left to be filled in** iff no text says so. -/
theorem placeholders_eq_nil_iff (path : Text) (value : Json) :
    placeholders path value = [] ↔ ∀ text, Holds text value → isPlaceholder text = false := by
  induction value using Json.induct generalizing path with
  | str text =>
    rw [placeholders]
    constructor
    · rintro none found ⟨⟩
      exact Bool.eq_false_iff.mpr fun left => by simp [left] at none
    · exact fun none => if_neg (Bool.eq_false_iff.mp (none text .here))
  | arr items ih =>
    have each : ∀ index, itemPlaceholders path index items = [] ↔
        ∀ item ∈ items, ∀ text, Holds text item → isPlaceholder text = false := by
      induction items with
      | nil => simp [itemPlaceholders]
      | cons item rest later =>
        intro index
        rw [itemPlaceholders, List.append_eq_nil_iff, List.forall_mem_cons, ih item List.mem_cons_self,
          later fun other member => ih other (List.mem_cons_of_mem _ member)]
    rw [placeholders, each]
    constructor
    · rintro none text ⟨⟩
      next item inside member => exact none item member text inside
    · exact fun none item member text inside => none text (.item member inside)
  | obj entries ih =>
    have each : (∀ item ∈ entryPlaceholders path entries, item.2 = []) ↔
        ∀ item ∈ entries, ∀ text, Holds text item.2 → isPlaceholder text = false := by
      induction entries with
      | nil => simp [entryPlaceholders]
      | cons item rest later =>
        rw [entryPlaceholders, List.forall_mem_cons, List.forall_mem_cons, ih item List.mem_cons_self,
          later fun other member => ih other (List.mem_cons_of_mem _ member)]
    rw [placeholders, List.flatten_eq_nil_iff, List.forall_mem_map]
    simp only [mem_sortedBy]
    rw [each]
    constructor
    · rintro none text ⟨⟩
      next item inside member => exact none item member text inside
    · exact fun none item member text inside => none text (.entry member inside)
  | _ =>
    rw [placeholders]
    · refine iff_of_true rfl ?_
      rintro text ⟨⟩
    all_goals simp

/-! ### Sections -/

section Sections

variable {ev : Evaluator}

theorem fieldReasons_eq_nil_iff {plan : JsonObject} :
    fieldReasons plan = [] ↔ ∀ key, key ∈ plan.map Prod.fst ↔ key ∈ planRequired := by
  simp only [fieldReasons, List.append_eq_nil_iff, List.map_eq_nil_iff, List.filter_eq_nil_iff, mem_sortedBy,
    decide_eq_true_eq, not_not]
  exact ⟨fun both key => ⟨both.1 key, both.2 key⟩,
    fun same => ⟨fun key => (same key).mp, fun key => (same key).mpr⟩⟩

/-- A time before another. -/
theorem endsEarly_iff {start last : Json} (one : TextOf (isTimestamp ev.isDecimal) last) :
    endsEarly ev start last = false ↔ ∀ first second, start = .str first → isTimestamp ev.isDecimal first = true →
      last = .str second → first < second := by
  obtain ⟨last, rfl, timed⟩ := one
  cases start <;> simp [endsEarly, timed]

theorem headReasons_ok_iff {plan : JsonObject} : headReasons ev plan = .ok [] ↔ Head ev plan := by
  rw [headReasons, step_ok_iff (by simp), isOneOf_iff]
  simp only [Except.ok.injEq, List.append_eq_nil_iff, flag_eq_nil, Bool.not_eq_false', Bool.or_eq_false_iff,
    isText_iff, isTextOf_iff, Bool.not_true, and_true]
  constructor
  · rintro ⟨channel, ⟨⟨⟨⟨schema, worded, spec⟩, identifier⟩, created⟩, expires⟩, lasts⟩
    exact ⟨schema, worded, spec, identifier, created, expires, (endsEarly_iff expires).mp lasts, channel⟩
  · intro head
    exact ⟨head.channel, ⟨⟨⟨⟨head.schema, head.worded, head.spec⟩, head.identifier⟩, head.created⟩, head.expires⟩,
      (endsEarly_iff head.expires).mpr head.lasts⟩

theorem targetReasons_ok_iff {value : Json} :
    targetReasons ev value = .ok [] ↔ ∃ target, value = .obj target ∧ Target target := by
  cases value with
  | obj target =>
    rw [targetReasons, step_ok_iff (by rw [Ne, bind_eq_ok]; simp), step_ok_iff (by simp), isOneOf_iff, isOneOf_iff]
    simp only [Except.ok.injEq, List.append_eq_nil_iff, flag_eq_nil, Bool.not_eq_false', isText_iff, Bool.not_true,
      true_and, Json.obj.injEq, exists_eq_left']
    exact ⟨fun all => ⟨all.1, all.2.1, all.2.2⟩, fun target => ⟨target.component, target.host, target.root⟩⟩
  | _ => simp [targetReasons]

theorem ActionFits.known {action target : Text} {installed : Json} (fits : ActionFits target action installed) :
    action ∈ actions := by
  cases fits <;> decide

/-- Nothing is said against an action iff it fits. -/
theorem actionReasons_eq_nil_iff {component installed : Json} {action target : Text} (known : action ∈ actions) :
    actionReasons ev component installed action target = [] ↔ ActionFits target action installed := by
  have install_upgrade : ("install" : Text) ≠ "upgrade" := by decide
  have install_reinstall : ("install" : Text) ≠ "reinstall" := by decide
  have install_noop : ("install" : Text) ≠ "noop" := by decide
  have upgrade_reinstall : ("upgrade" : Text) ≠ "reinstall" := by decide
  have upgrade_noop : ("upgrade" : Text) ≠ "noop" := by decide
  have reinstall_noop : ("reinstall" : Text) ≠ "noop" := by decide
  have absent : isNull installed = false ↔ installed ≠ .null := by
    rw [← Bool.not_eq_true, isNull_iff]
  have same : Json.pyEq installed (.str target) = false ↔ installed ≠ .str target := by
    rw [← Bool.not_eq_true, pyEq_text]
  have fits : ActionFits target action installed ↔
      (action = "install" ∧ installed = .null) ∨
      (action = "upgrade" ∧ installed ≠ .null ∧ installed ≠ .str target) ∨
      (action = "reinstall" ∧ installed ≠ .null) ∨ (action = "noop" ∧ installed = .str target) := by
    constructor
    · rintro (_ | ⟨present, other⟩ | present | _)
      · exact .inl ⟨rfl, rfl⟩
      · exact .inr (.inl ⟨rfl, present, other⟩)
      · exact .inr (.inr (.inl ⟨rfl, present⟩))
      · exact .inr (.inr (.inr ⟨rfl, rfl⟩))
    · rintro (⟨rfl, rfl⟩ | ⟨rfl, present, other⟩ | ⟨rfl, present⟩ | ⟨rfl, rfl⟩)
      · exact .install
      · exact .upgrade present other
      · exact .reinstall present
      · exact .noop
  rw [fits]
  simp only [actionReasons, List.append_eq_nil_iff, flag_eq_nil, Bool.and_eq_false_iff, Bool.or_eq_false_iff,
    decide_eq_false_iff_not, Bool.not_eq_false', isNull_iff, pyEq_text, absent, same]
  rcases List.mem_cons.mp known with rfl | known
  · simp [install_upgrade, install_reinstall, install_noop]
  rcases List.mem_cons.mp known with rfl | known
  · simp only [install_upgrade.symm, upgrade_reinstall, upgrade_noop]
    simp
    exact fun present absent => absurd absent present
  rcases List.mem_cons.mp known with rfl | known
  · simp [install_reinstall.symm, upgrade_reinstall.symm, reinstall_noop]
  · obtain rfl := List.mem_singleton.mp known
    simp [install_noop.symm, upgrade_noop.symm, reinstall_noop.symm]

/-- Nothing is said against the row of a component iff it is good and no row before it is about its component. -/
theorem componentReasons_ok_iff {index : ℕ} {seen : List Json} {row : JsonObject} :
    componentReasons ev index seen row = .ok [] ↔ ComponentRow ev row ∧ valueOf row "component" ∉ seen := by
  rw [componentReasons, step_ok_iff (by rw [Ne, bind_eq_ok]; simp), step_ok_iff (by simp), isOneOf_iff, isOneOf_iff]
  have fields : (componentFields.filter fun key => key ∉ row.map Prod.fst) = [] ↔
      ∀ key ∈ componentFields, key ∈ row.map Prod.fst := by
    simp only [List.filter_eq_nil_iff, decide_eq_true_eq, not_not]
  have version (value : Json) (pattern : Text → Bool) :
      (!isNull value && !isTextOf pattern value) = false ↔ value = .null ∨ TextOf pattern value := by
    rw [Bool.and_eq_false_iff, Bool.not_eq_false', Bool.not_eq_false', isNull_iff, isTextOf_iff]
  simp only [Except.ok.injEq, List.append_eq_nil_iff, flag_eq_nil, Bool.not_eq_false', Bool.not_true, isTextOf_iff,
    List.map_eq_nil_iff, fields, version, and_true]
  constructor
  · rintro ⟨component, action,
      ⟨⟨⟨⟨⟨⟨fields, fresh⟩, target⟩, installed⟩, revision⟩, targetRevision⟩, artifact⟩, fits⟩
    obtain ⟨action, known, acts⟩ := action
    obtain ⟨version, aims, valid⟩ := target
    obtain ⟨name, _, named⟩ := id component
    rw [acts, aims, versionReasons, if_pos ⟨known, valid⟩, actionReasons_eq_nil_iff known] at fits
    refine ⟨⟨fields, component, installed, revision, ⟨version, aims, valid⟩, targetRevision, artifact,
      action, version, acts, aims, fits⟩, fun member => ?_⟩
    rw [(isSeen_iff ⟨name, named⟩).mpr member] at fresh
    cases fresh
  · rintro ⟨good, fresh⟩
    obtain ⟨action, version, acts, aims, fits⟩ := good.action
    obtain ⟨name, _, named⟩ := id good.component
    have known : action ∈ actions := fits.known
    have valid : isSemver ev.isDecimal version = true := by
      obtain ⟨text, same, valid⟩ := good.target
      rw [aims] at same
      cases same
      exact valid
    refine ⟨good.component, ⟨action, known, acts⟩, ⟨⟨⟨⟨⟨⟨good.fields, ?_⟩, good.target⟩, good.installed⟩,
      good.installedRevision⟩, good.targetRevision⟩, good.artifact⟩, ?_⟩
    · rw [← Bool.not_eq_true, isSeen_iff ⟨name, named⟩]
      exact fresh
    · rw [acts, aims, versionReasons, if_pos ⟨known, valid⟩, actionReasons_eq_nil_iff known]
      exact fits

theorem componentsReasons_ok_iff {value : Json} :
    componentsReasons ev value = .ok [] ↔ ∃ rows, RowsOf (ComponentRow ev) value rows ∧ rows ≠ [] ∧
      (rows.map fun row => valueOf row "component").Nodup := by
  cases value with
  | arr rows =>
    have each (index : ℕ) (seen : List Json) (row : JsonObject) : componentReasons ev index seen row = .ok [] ↔
        ComponentRow ev row ∧ valueOf row "component" ∉ seen := componentReasons_ok_iff
    have rowed := @rowReasons_ok_iff "component_not_object" _ _ _ (fun row => valueOf row "component")
      (fun row _ => rfl) each rows
    cases rows with
    | nil =>
      refine iff_of_false (by simp [componentsReasons]) ?_
      rintro ⟨rows, ⟨same, _⟩, some, _⟩
      exact some (List.map_eq_nil_iff.mp (Json.arr.inj same).symm)
    | cons first rest =>
      rw [componentsReasons, rowed]
      · refine exists_congr fun rows => ?_
        constructor
        · rintro ⟨good, distinct⟩
          refine ⟨good, ?_, distinct⟩
          rintro rfl
          cases good.1
        · exact fun all => ⟨all.1, all.2.2⟩
      · simp
  | _ => simp [componentsReasons, RowsOf]

/-- A name that a loop remembers, of a text. -/
theorem nameOf_eq {pattern : Text → Bool} {value : Json} (text : TextOf pattern value) :
    nameOf pattern value = [value] := if_pos (isTextOf_iff.mpr text)

/-- A name that is a text of a pattern, and in no row before it. -/
theorem named_eq_nil_iff {pattern : Text → Bool} {seen : List Json} {value : Json} {again wrong : Text} :
    (if isTextOf pattern value then flag (isSeen seen value) again else [wrong]) = [] ↔
      TextOf pattern value ∧ value ∉ seen := by
  rw [← isTextOf_iff]
  split
  · next text =>
    obtain ⟨name, rfl, _⟩ := isTextOf_iff.mp text
    rw [flag_eq_nil, ← Bool.not_eq_true, isSeen_iff ⟨name, rfl⟩]
    exact (and_iff_right text).symm
  · next other => exact iff_of_false (List.cons_ne_nil _ _) fun both => other both.1

/-- Nothing is said against the row of a download iff it is good and no row before it is about its artifact. -/
theorem downloadReasons_eq_nil_iff {seen : List Json} {row : JsonObject} :
    downloadReasons ev seen row = [] ↔ DownloadRow row ∧ valueOf row "artifact" ∉ seen := by
  have named (artifact : Json) (again wrong : Text) :
      (if isText artifact then flag (isSeen seen artifact) again else [wrong]) = [] ↔
        Worded artifact ∧ artifact ∉ seen := named_eq_nil_iff
  simp only [downloadReasons, List.append_eq_nil_iff, named, flag_eq_nil, Bool.not_eq_false', isTextOf_iff,
    isCount_iff]
  constructor
  · rintro ⟨⟨⟨⟨artifact, fresh⟩, url⟩, digest⟩, size⟩
    exact ⟨⟨artifact, url, digest, size⟩, fresh⟩
  · rintro ⟨good, fresh⟩
    exact ⟨⟨⟨⟨good.artifact, fresh⟩, good.url⟩, good.digest⟩, good.size⟩

theorem downloadsReasons_ok_iff {value : Json} :
    downloadsReasons ev value = .ok [] ↔ ∃ rows, RowsOf DownloadRow value rows ∧
      (rows.map fun row => valueOf row "artifact").Nodup := by
  cases value with
  | arr rows =>
    refine rowReasons_ok_iff (fun row => valueOf row "artifact") (fun row good => nameOf_eq good.artifact)
      (fun index seen row => ?_) rows
    rw [Except.ok.injEq]
    exact downloadReasons_eq_nil_iff
  | _ => simp [downloadsReasons, RowsOf]

/-- A migration that goes forward. -/
theorem forward_iff {source target : Json} {steps back : Text} :
    (if isCount 0 source ∧ isCount 0 target then flag (isAtMost target source) back else [steps]) = [] ↔
      ∃ first second : ℤ, source = .int first ∧ target = .int second ∧ 0 ≤ first ∧ first < second := by
  split
  · next counts =>
    obtain ⟨first, rfl, positive⟩ := isCount_iff.mp counts.1
    obtain ⟨second, rfl, _⟩ := isCount_iff.mp counts.2
    simp [isAtMost, positive]
  · next other =>
    refine iff_of_false (List.cons_ne_nil _ _) ?_
    rintro ⟨first, second, rfl, rfl, positive, further⟩
    exact other ⟨isCount_iff.mpr ⟨first, rfl, positive⟩, isCount_iff.mpr ⟨second, rfl, by omega⟩⟩

/-- Nothing is said against the row of a migration iff it is good and no row before it has its id. -/
theorem migrationReasons_eq_nil_iff {seen : List Json} {row : JsonObject} :
    migrationReasons ev seen row = [] ↔ MigrationRow row ∧ valueOf row "migration_id" ∉ seen := by
  have backed : (isFalse (valueOf row "reversible") && !isTrue (valueOf row "requires_backup")) = false ↔
      (valueOf row "reversible" = .bool false → valueOf row "requires_backup" = .bool true) := by
    rw [Bool.and_eq_false_iff, Bool.not_eq_false', isTrue_iff, ← Bool.not_eq_true, isFalse_iff]
    exact imp_iff_not_or.symm
  simp only [migrationReasons, List.append_eq_nil_iff, named_eq_nil_iff, forward_iff, flag_eq_nil, backed]
  constructor
  · rintro ⟨⟨⟨identifier, fresh⟩, forward⟩, backed⟩
    exact ⟨⟨identifier, forward, backed⟩, fresh⟩
  · rintro ⟨good, fresh⟩
    exact ⟨⟨⟨good.identifier, fresh⟩, good.forward⟩, good.backed⟩

theorem migrationsReasons_ok_iff {value : Json} :
    migrationsReasons ev value = .ok [] ↔ ∃ rows, RowsOf MigrationRow value rows ∧
      (rows.map fun row => valueOf row "migration_id").Nodup := by
  cases value with
  | arr rows =>
    refine rowReasons_ok_iff (fun row => valueOf row "migration_id") (fun row good => nameOf_eq good.identifier)
      (fun index seen row => ?_) rows
    rw [Except.ok.injEq]
    exact migrationReasons_eq_nil_iff
  | _ => simp [migrationsReasons, RowsOf]

/-- The reasons of texts in a list. -/
theorem texts_eq_nil_iff {pattern : Text → Bool} {names : List Json} {reason : Json → Text} :
    (names.flatMap fun name => flag (!isTextOf pattern name) (reason name)) = [] ↔
      ∀ name ∈ names, TextOf pattern name := by
  simp only [List.flatMap_eq_nil_iff, flag_eq_nil, Bool.not_eq_false', isTextOf_iff]

/-- The migrations that require a backup. -/
theorem needsBackup_eq_nil_iff {steps : List JsonObject} :
    needsBackup (steps.map .obj) = [] ↔ ∀ row ∈ steps, valueOf row "requires_backup" ≠ .bool true := by
  rw [needsBackup, List.filterMap_map, List.filterMap_eq_nil_iff]
  refine forall₂_congr fun row _ => ?_
  simp [isTrue_iff]

theorem backupReasons_ok_iff {steps : List JsonObject} {value : Json} :
    backupReasons ev (.arr (steps.map .obj)) value = .ok [] ↔ ∃ backup, value = .obj backup ∧
      Backup steps backup := by
  cases value with
  | obj backup =>
    have needed : (!(needsBackup (steps.map .obj)).isEmpty && !isTrue (valueOf backup "required")) = false ↔
        ∀ row ∈ steps, valueOf row "requires_backup" = .bool true → valueOf backup "required" = .bool true := by
      rw [Bool.and_eq_false_iff, Bool.not_eq_false', Bool.not_eq_false', isTrue_iff, List.isEmpty_iff,
        needsBackup_eq_nil_iff]
      constructor
      · rintro (none | required) row member requires
        · exact absurd requires (none row member)
        · exact required
      · intro each
        by_cases required : valueOf backup "required" = .bool true
        · exact .inr required
        · exact .inl fun row member requires => required (each row member requires)
    simp only [backupReasons, migrationItems, ok_bind, Except.ok.injEq, List.append_eq_nil_iff, flag_eq_nil,
      Bool.not_eq_false', isBool_iff, needed, Json.obj.injEq, exists_eq_left']
    constructor
    · rintro ⟨⟨required, targets⟩, needed⟩
      refine ⟨required, ?_, needed⟩
      split at targets
      · next names here => exact ⟨names, here, texts_eq_nil_iff.mp targets⟩
      · cases targets
    · rintro ⟨required, ⟨names, here, portable⟩, needed⟩
      refine ⟨⟨required, ?_⟩, needed⟩
      rw [here]
      exact texts_eq_nil_iff.mpr portable
  | _ => simp [backupReasons]

/-- Nothing is said against the row of an interruption iff it is good. -/
theorem interruptionReasons_ok_iff {row : JsonObject} :
    interruptionReasons ev row = .ok [] ↔ InterruptionRow row := by
  rw [interruptionReasons, step_ok_iff (by rw [Ne, bind_eq_ok]; simp), step_ok_iff (by simp),
    isOneOf_iff, isOneOf_iff]
  simp only [Except.ok.injEq, List.append_eq_nil_iff, flag_eq_nil, Bool.not_eq_false', Bool.not_true, true_and,
    isCount_iff]
  exact ⟨fun all => ⟨all.1, all.2.1, all.2.2⟩, fun good => ⟨good.service, good.action, good.seconds⟩⟩

theorem interruptionsReasons_ok_iff {value : Json} :
    interruptionsReasons ev value = .ok [] ↔ ∃ rows, RowsOf InterruptionRow value rows := by
  cases value with
  | arr rows =>
    have each (_ : ℕ) (_ : List Json) (row : JsonObject) :
        interruptionReasons ev row = .ok [] ↔ InterruptionRow row := interruptionReasons_ok_iff
    exact rowReasons_nameless each rows
  | _ => simp [interruptionsReasons, RowsOf]

theorem reconnectReasons_eq_nil_iff {value : Json} :
    reconnectReasons value = [] ↔ ∃ reconnect, value = .obj reconnect ∧ Reconnect reconnect := by
  cases value with
  | obj reconnect =>
    simp only [reconnectReasons, List.append_eq_nil_iff, flag_eq_nil, Bool.not_eq_false', isBool_iff, isText_iff,
      Json.obj.injEq, exists_eq_left']
    exact ⟨fun both => ⟨both.1, both.2⟩, fun good => ⟨good.required, good.reason⟩⟩
  | _ => simp [reconnectReasons]

/-- Nothing is said against the row of a change iff it is good. -/
theorem changeReasons_eq_nil_iff {row : JsonObject} : changeReasons ev row = [] ↔ ChangeRow ev row := by
  simp only [changeReasons, List.append_eq_nil_iff, flag_eq_nil, Bool.not_eq_false', isTextOf_iff]
  constructor
  · rintro ⟨⟨repo, template⟩, destinations⟩
    refine ⟨repo, template, ?_⟩
    split at destinations
    · next first more here => exact ⟨_, here, List.cons_ne_nil _ _, texts_eq_nil_iff.mp destinations⟩
    · cases destinations
  · rintro ⟨repo, template, names, here, some, portable⟩
    refine ⟨⟨repo, template⟩, ?_⟩
    rw [here]
    cases names with
    | nil => exact absurd rfl some
    | cons first more => exact texts_eq_nil_iff.mpr portable

theorem changesReasons_ok_iff {value : Json} :
    changesReasons ev value = .ok [] ↔ ∃ rows, RowsOf (ChangeRow ev) value rows := by
  cases value with
  | arr rows =>
    refine rowReasons_nameless (fun _ _ row => ?_) rows
    rw [Except.ok.injEq]
    exact changeReasons_eq_nil_iff
  | _ => simp [changesReasons, RowsOf]

theorem rollbackReasons_eq_nil_iff {steps : List JsonObject} {value : Json} :
    rollbackReasons (.arr (steps.map .obj)) value = [] ↔ ∃ rollback, value = .obj rollback ∧
      Rollback steps rollback := by
  cases value with
  | obj rollback =>
    have some : truthy (.arr (steps.map .obj)) = false ↔ steps = [] := by
      cases steps <;> simp [truthy]
    have backward : (!isTrue (valueOf rollback "supported") && truthy (.arr (steps.map .obj))) = false ↔
        (steps ≠ [] → valueOf rollback "supported" = .bool true) := by
      rw [Bool.and_eq_false_iff, Bool.not_eq_false', isTrue_iff, some, or_comm]
      exact or_iff_not_imp_left
    have limited (limits : List Json) :
        (isTrue (valueOf rollback "supported") && limits.any fun limit => !isText limit) = false ↔
          (valueOf rollback "supported" = .bool true → ∀ limit ∈ limits, Worded limit) := by
      rw [Bool.and_eq_false_iff, ← Bool.not_eq_true, isTrue_iff, List.any_eq_false]
      simp only [Bool.not_eq_true', Bool.not_eq_false, isText_iff]
      exact imp_iff_not_or.symm
    simp only [rollbackReasons, List.append_eq_nil_iff, flag_eq_nil, Bool.not_eq_false', isBool_iff, backward,
      Json.obj.injEq, exists_eq_left']
    constructor
    · rintro ⟨⟨⟨supported, restores⟩, limits⟩, backward⟩
      refine ⟨supported, restores, ?_, backward⟩
      split at limits
      · next names here => exact ⟨names, here, (limited names).mp (flag_eq_nil.mp limits)⟩
      · cases limits
    · rintro ⟨supported, restores, ⟨names, here, worded⟩, backward⟩
      refine ⟨⟨⟨supported, restores⟩, ?_⟩, backward⟩
      rw [here]
      exact flag_eq_nil.mpr ((limited names).mpr worded)
  | _ => simp [rollbackReasons]

theorem isUnresolved_iff {value : Json} :
    isUnresolved value = false ↔ value ≠ .null ∧ ∀ root, value = .str root → isSha256 root = true := by
  cases value <;> simp [isUnresolved]

theorem trustReasons_eq_nil_iff {created value : Json} :
    trustReasons ev created value = [] ↔ ∃ trust, value = .obj trust ∧ Trust ev created trust := by
  cases value with
  | obj trust =>
    have expiring (wrong early : Text) :
        (if isTextOf (isTimestamp ev.isDecimal) (valueOf trust "metadata_expiry") then
            flag (endsEarly ev created (valueOf trust "metadata_expiry")) early
          else [wrong]) = [] ↔
          TextOf (isTimestamp ev.isDecimal) (valueOf trust "metadata_expiry") ∧
            endsEarly ev created (valueOf trust "metadata_expiry") = false := by
      rw [← isTextOf_iff]
      split
      · next timed => exact flag_eq_nil.trans (and_iff_right timed).symm
      · next other => exact iff_of_false (List.cons_ne_nil _ _) fun both => other both.1
    simp only [trustReasons, List.append_eq_nil_iff, flag_eq_nil, Bool.not_eq_false', isCount_iff, expiring,
      isUnresolved_iff, isTrue_iff, Json.obj.injEq, exists_eq_left']
    constructor
    · rintro ⟨⟨⟨version, expiry, lasts⟩, root⟩, signed⟩
      exact ⟨version, expiry, (endsEarly_iff expiry).mp lasts, root, signed⟩
    · rintro ⟨version, expiry, lasts, root, signed⟩
      exact ⟨⟨⟨version, expiry, (endsEarly_iff expiry).mpr lasts⟩, root⟩, signed⟩
  | _ => simp [trustReasons]

/-- The judgement over an approved plan. -/
theorem approvedDigest_eq_nil_iff {digest : Text} {value : Json} {differs lacks : Text}
    (isDigest : isSha256 digest = true) :
    (if isTextOf isSha256 value then flag (!Json.pyEq (.str digest) value) differs else [lacks]) = [] ↔
      value = .str digest := by
  split
  · next text =>
    obtain ⟨other, rfl, _⟩ := isTextOf_iff.mp text
    rw [flag_eq_nil, Bool.not_eq_false', pyEq_text]
    exact eq_comm
  · next other =>
    refine iff_of_false (List.cons_ne_nil _ _) ?_
    rintro rfl
    exact other isDigest

/-- Nothing is said against an approval inside of a plan with this digest iff it is one of this digest. -/
theorem recordedReasons_ok_iff {digest : Text} {value : Json} (isDigest : isSha256 digest = true) :
    recordedReasons ev (.str digest) value = .ok [] ↔ ∃ approval, value = .obj approval ∧
      Recorded ev digest approval := by
  cases value with
  | obj approval =>
    rw [recordedReasons, step_ok_iff (by simp), isOneOf_iff]
    simp only [Json.obj.injEq, exists_eq_left', Bool.not_true, Bool.false_eq_true, if_false]
    have others : ("unapproved" : Text) ≠ "approved" := by decide
    constructor
    · rintro ⟨⟨name, known, state⟩, judged⟩
      rw [state, isTextOf] at judged
      rcases List.mem_cons.mp known with rfl | known
      · rw [if_neg (by simpa using others)] at judged
        simp only [Except.ok.injEq, List.append_eq_nil_iff, flag_eq_nil, Bool.not_eq_false', isNull_iff] at judged
        exact .unapproved state judged.1.1 judged.1.2 judged.2
      · obtain rfl := List.mem_singleton.mp known
        rw [if_pos (by simp)] at judged
        simp only [Except.ok.injEq, List.append_eq_nil_iff, flag_eq_nil, Bool.not_eq_false', isText_iff,
          isTextOf_iff] at judged
        exact .approved state ((approvedDigest_eq_nil_iff isDigest).mp judged.2) judged.1.1 judged.1.2
    · rintro (⟨state, digest, person, time⟩ | ⟨state, digest, person, time⟩)
      · refine ⟨⟨"unapproved", by decide, state⟩, ?_⟩
        rw [state, isTextOf, if_neg (by simpa using others)]
        simp [digest, person, time, isNull]
      · refine ⟨⟨"approved", by decide, state⟩, ?_⟩
        rw [state, isTextOf, if_pos (by simp), Except.ok.injEq, List.append_eq_nil_iff, List.append_eq_nil_iff,
          approvedDigest_eq_nil_iff isDigest, flag_eq_nil, flag_eq_nil, Bool.not_eq_false', Bool.not_eq_false',
          isText_iff, isTextOf_iff]
        exact ⟨⟨person, time⟩, digest⟩
  | _ => simp [recordedReasons]

/-- Nothing is said against the digest of a plan iff it is its own. -/
theorem digestReasons_ok_iff {plan : JsonObject} :
    digestReasons ev plan = .ok [] ↔ ∃ digest, valueOf plan "plan_digest" = .str digest ∧ isSha256 digest = true ∧
      planDigest ev plan = .ok digest := by
  rw [digestReasons]
  split
  · next recorded here =>
    split
    · next isDigest =>
      simp [map_eq_ok, here, isDigest]
    · next other => simp [here, other]
  · next other =>
    refine iff_of_false (by simp) ?_
    rintro ⟨digest, here, _⟩
    exact other digest here

/-- Nothing is said against the records of a plan iff they are what they should be. -/
theorem recordReasons_ok_iff {plan : JsonObject} :
    recordReasons ev plan = .ok [] ↔ ∃ digest, Records ev plan digest := by
  have all : recordReasons ev plan = .ok [] ↔
      headReasons ev plan = .ok [] ∧ targetReasons ev (valueOf plan "target") = .ok [] ∧
      componentsReasons ev (valueOf plan "components") = .ok [] ∧
      downloadsReasons ev (valueOf plan "downloads") = .ok [] ∧
      migrationsReasons ev (valueOf plan "migrations") = .ok [] ∧
      backupReasons ev (valueOf plan "migrations") (valueOf plan "backup") = .ok [] ∧
      isCount 0 (valueOf plan "disk_headroom_bytes") = true ∧
      interruptionsReasons ev (valueOf plan "service_interruptions") = .ok [] ∧
      reconnectReasons (valueOf plan "host_reconnect") = [] ∧
      changesReasons ev (valueOf plan "bootstrap_changes") = .ok [] ∧
      rollbackReasons (valueOf plan "migrations") (valueOf plan "rollback") = [] ∧
      trustReasons ev (valueOf plan "created_at") (valueOf plan "trust") = [] ∧
      recordedReasons ev (valueOf plan "plan_digest") (valueOf plan "approval") = .ok [] ∧
      digestReasons ev plan = .ok [] := by
    simp only [recordReasons, bind_eq_ok, Except.ok.injEq, List.append_eq_nil_iff, flag_eq_nil, Bool.not_eq_false']
    constructor
    · rintro ⟨_, head, _, target, _, components, _, downloads, _, steps, _, backup, _, interruptions, _, changes, _,
        approval, _, digest, ⟨⟨⟨⟨⟨⟨⟨⟨⟨⟨⟨⟨⟨rfl, rfl⟩, rfl⟩, rfl⟩, rfl⟩, rfl⟩, headroom⟩, rfl⟩, reconnect⟩, rfl⟩,
        rollback⟩, trust⟩, rfl⟩, rfl⟩⟩
      exact ⟨head, target, components, downloads, steps, backup, headroom, interruptions, reconnect,
        changes, rollback,
        trust, approval, digest⟩
    · rintro ⟨head, target, components, downloads, steps, backup, headroom, interruptions, reconnect, changes,
        rollback, trust, approval, digest⟩
      exact ⟨_, head, _, target, _, components, _, downloads, _, steps, _, backup, _, interruptions, _, changes, _,
        approval, _, digest, ⟨⟨⟨⟨⟨⟨⟨⟨⟨⟨⟨⟨⟨rfl, rfl⟩, rfl⟩, rfl⟩, rfl⟩, rfl⟩, headroom⟩, rfl⟩, reconnect⟩, rfl⟩,
        rollback⟩, trust⟩, rfl⟩, rfl⟩⟩
  rw [all, headReasons_ok_iff, targetReasons_ok_iff, componentsReasons_ok_iff, downloadsReasons_ok_iff,
    migrationsReasons_ok_iff, isCount_iff, interruptionsReasons_ok_iff, reconnectReasons_eq_nil_iff,
    changesReasons_ok_iff, trustReasons_eq_nil_iff, digestReasons_ok_iff]
  constructor
  · rintro ⟨head, target, components, downloads, ⟨steps, rows, distinct⟩, backup, headroom,
      interruptions, reconnect,
      changes, rollback, trust, approval, digest, recorded, isDigest, found⟩
    rw [rows.1] at backup rollback
    rw [recorded] at approval
    exact ⟨digest, head, target, components, downloads,
      ⟨steps, rows, distinct, backupReasons_ok_iff.mp backup, rollbackReasons_eq_nil_iff.mp rollback⟩, headroom,
      interruptions, reconnect, changes, trust, (recordedReasons_ok_iff isDigest).mp approval, recorded, isDigest,
      found⟩
  · rintro ⟨digest, head, target, components, downloads, ⟨steps, rows, distinct, backup, rollback⟩, headroom,
      interruptions, reconnect, changes, trust, approval, recorded, isDigest, found⟩
    refine ⟨head, target, components, downloads, ⟨steps, rows, distinct⟩, ?_, headroom, interruptions, reconnect,
      changes, ?_, trust, ?_, digest, recorded, isDigest, found⟩
    · rw [rows.1]
      exact backupReasons_ok_iff.mpr backup
    · rw [rows.1]
      exact rollbackReasons_eq_nil_iff.mpr rollback
    · rw [recorded]
      exact (recordedReasons_ok_iff isDigest).mpr approval

/-- Nothing is said against a plan iff it is one to accept. -/
theorem structuralReasons_ok_iff {value : Json} :
    structuralReasons ev value = .ok [] ↔ ∃ plan digest, value = .obj plan ∧ Accepted ev plan digest := by
  cases value with
  | obj plan =>
    have placed : placeholderReasons plan = [] ↔ ∀ text, Holds text (.obj plan) → isPlaceholder text = false := by
      rw [placeholderReasons, List.map_eq_nil_iff, placeholders_eq_nil_iff]
    rw [structuralReasons]
    by_cases fields : fieldReasons plan = []
    · rw [if_neg (not_not.mpr fields), map_eq_ok]
      constructor
      · rintro ⟨reasons, judged, none⟩
        obtain ⟨resolved, rfl⟩ := List.append_eq_nil_iff.mp none
        obtain ⟨digest, records⟩ := recordReasons_ok_iff.mp judged
        exact ⟨plan, digest, rfl, fieldReasons_eq_nil_iff.mp fields, placed.mp resolved, records⟩
      · rintro ⟨_, digest, ⟨rfl⟩, accepted⟩
        exact ⟨[], recordReasons_ok_iff.mpr ⟨digest, accepted.records⟩,
          List.append_eq_nil_iff.mpr ⟨placed.mpr accepted.resolved, rfl⟩⟩
    · rw [if_pos fields]
      refine iff_of_false (fun none => fields (List.append_eq_nil_iff.mp (Except.ok.inj none)).1) ?_
      rintro ⟨_, digest, ⟨rfl⟩, accepted⟩
      exact fields (fieldReasons_eq_nil_iff.mpr accepted.fields)
  | _ => simp [structuralReasons]

/-- Nothing is said against an approval of an accepted plan iff it is of its digest. -/
theorem approvalReasons_ok_iff {plan : JsonObject} {digest : Text} {approved : Json}
    (accepted : Accepted ev plan digest) :
    approvalReasons ev (.obj plan) approved = .ok [] ↔ approved = .str digest := by
  obtain ⟨recorded, isDigest, found⟩ := accepted.records.recorded
  cases approved with
  | str other =>
    rw [approvalReasons, found, recorded]
    split
    · simp only [map_eq_ok, Except.ok.injEq, exists_eq_left', List.append_eq_nil_iff, flag_eq_nil,
        decide_eq_false_iff_not, not_not, Bool.not_eq_false', pyEq_text, Json.str.injEq]
      exact ⟨fun both => both.1.symm, fun same => ⟨same.symm, same.symm⟩⟩
    · next other =>
      refine iff_of_false (by simp) ?_
      rintro ⟨⟩
      exact other isDigest
  | _ => simp [approvalReasons]

/-- **What an evaluator accepts**: a plan that is `Accepted`, with no approval beside it or one of its digest. -/
theorem evaluate_ok_iff (document : Json) :
    (∃ verdict, evaluate ev document = .ok verdict ∧ verdict.ok = true) ↔
      ∃ entries plan digest, document = .obj entries ∧ (∀ key ∈ entries.map Prod.fst, key ∈ documentKeys) ∧
        Json.get? entries "plan" = some (.obj plan) ∧ Accepted ev plan digest ∧
        ∀ approved, Json.get? entries "approved_digest" = some approved → approved = .str digest := by
  cases document with
  | obj entries =>
    have declared : ((sortedBy id (entries.map Prod.fst)).filter fun key => key ∉ documentKeys) = [] ↔
        ∀ key ∈ entries.map Prod.fst, key ∈ documentKeys := by
      simp only [List.filter_eq_nil_iff, mem_sortedBy, decide_eq_true_eq, not_not]
    rw [evaluate]
    cases here : Json.get? entries "plan" with
    | none =>
      refine iff_of_false ?_ ?_
      · rintro ⟨_, ⟨rfl⟩, wrong⟩
        cases wrong
      · rintro ⟨_, plan, digest, ⟨rfl⟩, _, found, _⟩
        rw [here] at found
        cases found
    | some value =>
      simp only [bind_eq_ok]
      constructor
      · rintro ⟨verdict, ⟨own, judged, approval, approves, digest, found, ⟨rfl⟩⟩, accepted⟩
        obtain ⟨first, rfl⟩ := List.append_eq_nil_iff.mp (List.isEmpty_iff.mp accepted)
        obtain ⟨undeclared, rfl⟩ := List.append_eq_nil_iff.mp first
        obtain ⟨plan, digest, rfl, accepted⟩ := structuralReasons_ok_iff.mp judged
        refine ⟨entries, plan, digest, rfl, declared.mp (List.map_eq_nil_iff.mp undeclared), here, accepted, ?_⟩
        intro approved beside
        rw [beside, besideReasons] at approves
        exact (approvalReasons_ok_iff accepted).mp approves
      · rintro ⟨_, plan, digest, ⟨rfl⟩, keys, found, accepted, approves⟩
        obtain rfl := Option.some.inj (here.symm.trans found)
        have none := declared.mpr keys
        refine ⟨⟨true, [], [], [], some digest⟩,
          ⟨[], structuralReasons_ok_iff.mpr ⟨plan, digest, rfl, accepted⟩, [],
          ?_, some digest, ?_, ?_⟩, rfl⟩
        · cases beside : Json.get? entries "approved_digest" with
          | none => rfl
          | some approved => exact (approvalReasons_ok_iff accepted).mpr (approves approved beside)
        · rw [digestOf, accepted.records.recorded.2.2]
          rfl
        · rw [none]
          rfl
  | _ => simp [evaluate]

end Sections

end AxiomMcp.Update
