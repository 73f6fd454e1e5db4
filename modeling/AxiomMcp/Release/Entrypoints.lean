/-
**The entry-point lock (`entrypoints.py`).**

A `LaunchPlan` is the command line, directory and environment of one transport. `write_lock` records the plans of an
install root in one document, each with the digest of what decides a launch, and
`entrypoint_lock_reasons` compares a recorded document with plans made anew.

* `LaunchPlan`, `planDigest`, `lockDocument`: what is recorded;
* `entrypointLockReasons`: what the check finds;
* `Describes`: a document records exactly these plans, one entry a mode;
* `lock_describes_iff`: **a document that checks clean describes the plans exactly when it is not
  forged**: each entry is a mapping, no mode is recorded twice, and an entry with a plan's mode and
  digest has that plan's fields. What `write_lock` writes always checks clean.
-/

import AxiomMcp.Lib.Fallible
import AxiomMcp.Lib.JsonRound
import AxiomMcp.Lib.Recency
import AxiomMcp.Security.Loopback

namespace AxiomMcp.Release

open Lib
open Security (EntrypointRefused)

/-! ### Plans -/

/-- `RuntimeLock` -/
structure RuntimeLock where
  installRoot : Text
  version : Text
  venv : Text
  interpreter : Text
  pythonVersion : Text
  pythonRequires : Text
  componentVersion : Text
  interpreterPrefix : Text
  basePrefix : Text
  sdkPackage : Text
  sdkPin : Text
  sdkVersion : Text
  sdkPath : Text
  sdkInsideEnvironment : Bool
  sharedBasePackages : Bool
  frozen : List Text
  lockfile : Text
  lockfileSha256 : Text

/-- `[str(item) for item in items]`, as JSON. -/
def textArray (items : List Text) : Json := .arr (items.map .str)

/-- `runtime.isolated` -/
def RuntimeLock.isolated (runtime : RuntimeLock) : Bool := decide (runtime.interpreterPrefix ≠ runtime.basePrefix)

/-- `runtime.as_dict()` -/
def RuntimeLock.asDict (runtime : RuntimeLock) : JsonObject :=
  [("install_root", .str runtime.installRoot), ("version", .str runtime.version), ("venv", .str runtime.venv),
    ("interpreter", .str runtime.interpreter), ("python_version", .str runtime.pythonVersion),
    ("python_requires", .str runtime.pythonRequires), ("component_version", .str runtime.componentVersion),
    ("interpreter_prefix", .str runtime.interpreterPrefix), ("base_prefix", .str runtime.basePrefix),
    ("isolated", .bool runtime.isolated), ("sdk_package", .str runtime.sdkPackage),
      ("sdk_pin", .str runtime.sdkPin),
    ("sdk_version", .str runtime.sdkVersion), ("sdk_path", .str runtime.sdkPath),
    ("sdk_inside_environment", .bool runtime.sdkInsideEnvironment),
    ("shared_base_packages", .bool runtime.sharedBasePackages), ("frozen", textArray runtime.frozen),
    ("lockfile", .str runtime.lockfile), ("lockfile_sha256", .str runtime.lockfileSha256)]

/-- `LaunchPlan` -/
structure LaunchPlan where
  mode : Text
  executable : Text
  arguments : List Text
  cwd : Text
  environment : List (Text × Text)
  runtime : RuntimeLock

/-- `plan.environment_map` -/
def LaunchPlan.environmentMap (plan : LaunchPlan) : Dict Text Text := Dict.empty.assign plan.environment

/-- The environment as a JSON object. -/
def LaunchPlan.environmentObject (plan : LaunchPlan) : JsonObject :=
  plan.environmentMap.entries.map fun entry => (entry.1, .str entry.2)

/-- What is digested of a plan. -/
def LaunchPlan.payload (plan : LaunchPlan) : Json :=
  .obj [("mode", .str plan.mode), ("executable", .str plan.executable), ("arguments", textArray plan.arguments),
    ("cwd", .str plan.cwd), ("environment", .obj plan.environmentObject),
    ("runtime", .obj [("interpreter", .str plan.runtime.interpreter),
      ("python_version", .str plan.runtime.pythonVersion), ("sdk_pin", .str plan.runtime.sdkPin),
      ("sdk_version", .str plan.runtime.sdkVersion), ("lockfile_sha256", .str plan.runtime.lockfileSha256)])]

/-- What the lock's functions raise: a refusal, or the `UnicodeEncodeError` of a digest. -/
inductive LockRaised
  | refused (refusal : EntrypointRefused)
  | encode

section Lock

variable (py : Interpreter) (sha256 : Bytes → Text)

/-- `plan_digest(plan)` -/
def planDigest (plan : LaunchPlan) : Except LockRaised Text :=
  match (Json.dumps py plan.payload).bind Utf8.encode with
  | some bytes => .ok (sha256 bytes)
  | none => .error .encode

/-- `plan.as_dict()` -/
def planDict (plan : LaunchPlan) : Except LockRaised JsonObject := do
  let digest ← planDigest py sha256 plan
  return [("mode", .str plan.mode), ("executable", .str plan.executable), ("arguments", textArray plan.arguments),
    ("cwd", .str plan.cwd), ("environment", .obj plan.environmentObject), ("digest", .str digest),
    ("runtime", .obj plan.runtime.asDict)]

/-! ### Writing -/

/-- The document that `write_lock(install_root, plans)` writes. -/
def lockDocument (plans : List LaunchPlan) (createdAt : PyFloat) : Except LockRaised JsonObject :=
  match plans with
  | [] => .error (.refused ⟨"no_plans", []⟩)
  | first :: rest =>
    let modes := sortedBy id (plans.map LaunchPlan.mode)
    if modes.Nodup then
      match rest.find? fun plan => decide (plan.runtime.interpreter ≠ first.runtime.interpreter ∨
          plan.runtime.lockfileSha256 ≠ first.runtime.lockfileSha256) with
      | some plan => .error (.refused ⟨"runtime_mismatch", plan.mode⟩)
      | none => do
        let recorded ← plans.mapM (planDict py sha256)
        return [("layout", .int 1), ("component", .str "axiom-mcp"), ("runtime", .obj first.runtime.asDict),
          ("plans", .arr (recorded.map .obj)), ("created_at", .float createdAt)]
    else .error (.refused ⟨"plan_mode_duplicated", Text.join "," modes⟩)

/-! ### Checking -/

/-- `str(entry.get("mode"))` -/
def modeOf (entry : JsonObject) : Text := Json.pyStr py ((Json.get? entry "mode").getD .null)

/-- The entries that are mappings. -/
def mappings (recorded : List Json) : List JsonObject := recorded.filterMap Json.object?

/-- The recorded entries by their mode, the last of each. -/
def planIndex (recorded : List Json) : Dict Text JsonObject := Dict.ofList (modeOf py) (mappings recorded)

/-- The loop over the plans: its reasons, and what is left of the index. -/
def checkPlans : Dict Text JsonObject → List LaunchPlan → Except LockRaised (List Text × Dict Text JsonObject)
  | index, [] => .ok ([], index)
  | index, plan :: rest =>
    match index.get? plan.mode with
    | none => do
      let (reasons, left) ← checkPlans index rest
      return (Text.format ["lock_plan_missing:", plan.mode] :: reasons, left)
    | some entry => do
      let digest ← planDigest py sha256 plan
      let (reasons, left) ← checkPlans (index.erase plan.mode) rest
      return (if Json.strField py entry "digest" ≠ digest then
          Text.format ["lock_plan_digest_mismatch:", plan.mode] :: reasons
        else reasons, left)

/-- A reason, if it applies. -/
def reasonIf (applies : Bool) (reason : Text) : List Text := if applies then [reason] else []

/-- `_runtime_reasons(recorded, current)` -/
def runtimeReasons (recorded : JsonObject) (current : RuntimeLock) : List Text :=
  reasonIf (Json.strField py recorded "interpreter" ≠ current.interpreter) "lock_interpreter_mismatch" ++
    reasonIf (Json.strField py recorded "lockfile_sha256" ≠ current.lockfileSha256) "lock_lockfile_mismatch" ++
    reasonIf (Json.strField py recorded "sdk_version" ≠ current.sdkVersion) "lock_sdk_mismatch"

/-- The reasons about the layout and the component. -/
def headReasons (document : JsonObject) : List Text :=
  let layout := (Json.get? document "layout").getD .null
  let component := Json.strField py document "component"
  reasonIf (!Json.pyEq layout (.int 1)) (Text.format ["lock_layout_unsupported:", Json.pyStr py layout]) ++
    reasonIf (component ≠ "axiom-mcp") (Text.format ["lock_component_mismatch:",
      if component = [] then "absent" else component])

/-- The reasons about the recorded runtime. -/
def recordedRuntimeReasons (document : JsonObject) (plans : List LaunchPlan) : List Text :=
  match Json.get? document "runtime", plans with
  | some (.obj recorded), first :: _ => runtimeReasons py recorded first.runtime
  | _, _ => []

/-- `entrypoint_lock_reasons(document, plans)` -/
def entrypointLockReasons (document : JsonObject) (plans : List LaunchPlan) : Except LockRaised (List Text) :=
  match Json.get? document "plans" with
  | some (.arr recorded) => do
    let (reasons, left) ← checkPlans py sha256 (planIndex py recorded) plans
    let unexpected := (sortedBy id left.keys).map fun mode => Text.format ["lock_plan_unexpected:", mode]
    return headReasons py document ++ reasons ++ unexpected ++ recordedRuntimeReasons py document plans
  | _ => .ok (headReasons py document ++ [("lock_plans_absent" : Text)])

/-! ### What a clean lock should say -/

/-- An entry records a plan's mode, executable, arguments, directory and environment. -/
structure Records (plan : LaunchPlan) (entry : JsonObject) : Prop where
  mode : Json.get? entry "mode" = some (.str plan.mode)
  executable : Json.get? entry "executable" = some (.str plan.executable)
  arguments : Json.get? entry "arguments" = some (textArray plan.arguments)
  cwd : Json.get? entry "cwd" = some (.str plan.cwd)
  environment : ∃ recorded, Json.get? entry "environment" = some (.obj recorded) ∧
    ∀ name, Json.get? recorded name = (plan.environmentMap.get? name).map .str

/-- A document records exactly these plans, one entry a mode. -/
def Describes (document : JsonObject) (plans : List LaunchPlan) : Prop :=
  ∃ entries : List JsonObject, Json.get? document "plans" = some (.arr (entries.map .obj)) ∧
    (entries.map (modeOf py)).Nodup ∧ (plans.map LaunchPlan.mode).Nodup ∧
    (∀ plan ∈ plans, ∃ entry ∈ entries, Records plan entry) ∧
    ∀ entry ∈ entries, ∃ plan ∈ plans, Records plan entry

/-- Every recorded entry is a mapping, no mode is recorded twice, and an entry that has a plan's mode and digest has
the plan's fields. -/
def Unforged (document : JsonObject) (plans : List LaunchPlan) : Prop :=
  ∀ recorded, Json.get? document "plans" = some (.arr recorded) →
    (∀ value ∈ recorded, ∃ entry, value = .obj entry) ∧ ((mappings recorded).map (modeOf py)).Nodup ∧
      ∀ entry ∈ mappings recorded, ∀ plan ∈ plans, modeOf py entry = plan.mode →
        planDigest py sha256 plan = .ok (Json.strField py entry "digest") → Records plan entry

variable {py sha256}

/-! ### What the check compares -/

/-- The loop is silent when each plan finds an entry of its own with its digest. -/
theorem checkPlans_iff {index left : Dict Text JsonObject} {plans : List LaunchPlan} :
    checkPlans py sha256 index plans = .ok ([], left) ↔
      (plans.map LaunchPlan.mode).Nodup ∧
        (∀ plan ∈ plans, ∃ entry, index.get? plan.mode = some entry ∧
          planDigest py sha256 plan = .ok (Json.strField py entry "digest")) ∧
        left = plans.foldl (fun index plan => index.erase plan.mode) index := by
  induction plans generalizing index with
  | nil =>
    rw [checkPlans]
    constructor
    · intro same
      exact ⟨List.nodup_nil, fun _ wrong => (nomatch wrong), (congrArg Prod.snd (Except.ok.inj same)).symm⟩
    · rintro ⟨_, _, rfl⟩
      rfl
  | cons plan rest ih =>
    rw [checkPlans, List.map_cons, List.nodup_cons, List.forall_mem_cons, List.foldl_cons]
    cases found : index.get? plan.mode with
    | none =>
      constructor
      · intro same
        obtain ⟨later, _, wrong⟩ := bind_eq_ok.mp same
        cases wrong
      · rintro ⟨_, ⟨⟨_, wrong, _⟩, _⟩, _⟩
        cases wrong
    | some entry =>
      dsimp only
      constructor
      · intro same
        obtain ⟨digest, digested, same⟩ := bind_eq_ok.mp same
        obtain ⟨⟨reasons, remains⟩, later, same⟩ := bind_eq_ok.mp same
        have pair := Prod.mk.inj (Except.ok.inj same)
        dsimp only at pair
        by_cases equal : Json.strField py entry "digest" = digest
        · rw [if_neg (not_not.mpr equal)] at pair
          obtain ⟨rfl, rfl⟩ := pair
          obtain ⟨distinct, each, remains⟩ := ih.mp later
          have other : plan.mode ∉ rest.map LaunchPlan.mode := by
            rintro again
            obtain ⟨plan', member, mode⟩ := List.mem_map.mp again
            obtain ⟨_, wrong, _⟩ := each plan' member
            rw [Dict.get?_erase, if_pos mode] at wrong
            cases wrong
          refine ⟨⟨other, distinct⟩, ⟨⟨entry, rfl, equal ▸ digested⟩, fun plan' member => ?_⟩, remains⟩
          obtain ⟨entry', found', digested'⟩ := each plan' member
          have apart : plan'.mode ≠ plan.mode := by
            intro mode
            exact other (List.mem_map.mpr ⟨plan', member, mode⟩)
          rw [Dict.get?_erase, if_neg apart] at found'
          exact ⟨entry', found', digested'⟩
        · rw [if_pos equal] at pair
          exact nomatch pair.1
      · rintro ⟨⟨other, distinct⟩, ⟨⟨entry', same, digested⟩, each⟩, remains⟩
        obtain rfl := Option.some.inj same
        have later : checkPlans py sha256 (index.erase plan.mode) rest = .ok ([], left) := by
          refine ih.mpr ⟨distinct, fun plan' member => ?_, remains⟩
          obtain ⟨entry', found', digested'⟩ := each plan' member
          have apart : plan'.mode ≠ plan.mode := by
            intro mode
            exact other (List.mem_map.mpr ⟨plan', member, mode⟩)
          rw [Dict.get?_erase, if_neg apart]
          exact ⟨entry', found', digested'⟩
        rw [digested, ok_bind, later, ok_bind]
        simp only [ne_eq, not_true_eq_false, if_false]
        rfl

/-- What the loop leaves: the entries of no plan. -/
theorem mem_keys_left {index : Dict Text JsonObject} {plans : List LaunchPlan} {mode : Text} :
    mode ∈ (plans.foldl (fun index plan => index.erase plan.mode) index).keys ↔
      mode ∈ index.keys ∧ ∀ plan ∈ plans, plan.mode ≠ mode := by
  induction plans generalizing index with
  | nil => simp
  | cons plan rest ih =>
    rw [List.foldl_cons, ih, List.forall_mem_cons, ← Dict.get?_isSome, Dict.get?_erase, ← Dict.get?_isSome]
    by_cases same : mode = plan.mode
    · rw [if_pos same]
      constructor
      · rintro ⟨wrong, _⟩
        cases wrong
      · rintro ⟨_, wrong, _⟩
        exact absurd same.symm wrong
    · rw [if_neg same]
      exact ⟨fun both => ⟨both.1, Ne.symm same, both.2⟩, fun both => ⟨both.1, both.2.2⟩⟩

theorem mappings_map_obj (entries : List JsonObject) : mappings (entries.map .obj) = entries := by
  unfold mappings
  rw [List.filterMap_map]
  exact List.filterMap_some

theorem map_obj_mappings {recorded : List Json} (all : ∀ value ∈ recorded, ∃ entry, value = .obj entry) :
    (mappings recorded).map .obj = recorded := by
  induction recorded with
  | nil => rfl
  | cons value rest ih =>
    obtain ⟨⟨entry, rfl⟩, others⟩ := List.forall_mem_cons.mp all
    have later := ih others
    unfold mappings at later ⊢
    have first : Json.object? (.obj entry) = some entry := rfl
    rw [List.filterMap_cons_some first, List.map_cons, later]

/-- A lock that checks clean: its loop is silent, and it leaves nothing. -/
theorem entrypointLockReasons_nil {document : JsonObject} {plans : List LaunchPlan}
    (clean : entrypointLockReasons py sha256 document plans = .ok []) :
    ∃ recorded, Json.get? document "plans" = some (.arr recorded) ∧ (plans.map LaunchPlan.mode).Nodup ∧
      (∀ plan ∈ plans, ∃ entry, (planIndex py recorded).get? plan.mode = some entry ∧
        planDigest py sha256 plan = .ok (Json.strField py entry "digest")) ∧
      ∀ mode ∈ (planIndex py recorded).keys, ∃ plan ∈ plans, plan.mode = mode := by
  unfold entrypointLockReasons at clean
  split at clean
  · next recorded found =>
    obtain ⟨⟨reasons, left⟩, checked, same⟩ := bind_eq_ok.mp clean
    have empty := Except.ok.inj same
    rw [List.append_eq_nil_iff, List.append_eq_nil_iff, List.append_eq_nil_iff, List.map_eq_nil_iff] at empty
    obtain ⟨⟨⟨_, rfl⟩, none⟩, _⟩ := empty
    obtain ⟨distinct, each, rfl⟩ := checkPlans_iff.mp checked
    refine ⟨recorded, found, distinct, each, fun mode member => ?_⟩
    by_contra unclaimed
    push Not at unclaimed
    have extra := mem_keys_left.mpr ⟨member, unclaimed⟩
    rw [← mem_sortedBy id, none] at extra
    cases extra
  · have wrong := Except.ok.inj clean
    rw [List.append_eq_nil_iff] at wrong
    cases wrong.2

/-- The entry a clean lock has for a plan's mode. -/
theorem mem_planIndex {recorded : List Json} {mode : Text} {entry : JsonObject}
    (distinct : ((mappings recorded).map (modeOf py)).Nodup) :
    (planIndex py recorded).get? mode = some entry ↔ entry ∈ mappings recorded ∧ modeOf py entry = mode :=
  Dict.get?_ofList distinct

theorem modeOf_records {plan : LaunchPlan} {entry : JsonObject} (records : Records plan entry) :
    modeOf py entry = plan.mode := by
  unfold modeOf
  rw [records.mode]
  rfl

/-- A clean lock describes the plans exactly when it is not forged. -/
theorem describes_iff {document : JsonObject} {plans : List LaunchPlan}
    (clean : entrypointLockReasons py sha256 document plans = .ok []) :
    Describes py document plans ↔ Unforged py sha256 document plans := by
  obtain ⟨recorded, found, modes, each, claimed⟩ := entrypointLockReasons_nil clean
  constructor
  · rintro ⟨entries, found', distinct, planModes, -, described⟩ others found''
    obtain rfl := Json.arr.inj (Option.some.inj (found'.symm.trans found''))
    refine ⟨fun value member => ?_, ?_, ?_⟩
    · obtain ⟨entry, _, rfl⟩ := List.mem_map.mp member
      exact ⟨entry, rfl⟩
    · rw [mappings_map_obj]
      exact distinct
    · intro entry member plan mine mode _
      rw [mappings_map_obj] at member
      obtain ⟨plan', other, records⟩ := described entry member
      have same : plan' = plan :=
        List.inj_on_of_nodup_map planModes other mine ((modeOf_records records).symm.trans mode)
      exact same ▸ records
  · intro unforged
    obtain ⟨all, distinct, honest⟩ := unforged recorded found
    have entryOf : ∀ plan ∈ plans, ∃ entry ∈ mappings recorded, Records plan entry := by
      intro plan member
      obtain ⟨entry, stored, digested⟩ := each plan member
      obtain ⟨listed, mode⟩ := (mem_planIndex distinct).mp stored
      exact ⟨entry, listed, honest entry listed plan member mode digested⟩
    refine ⟨mappings recorded, ?_, distinct, modes, entryOf, fun entry listed => ?_⟩
    · rw [map_obj_mappings all]
      exact found
    · have key : modeOf py entry ∈ (planIndex py recorded).keys :=
        Dict.get?_isSome.mp (Option.isSome_iff_exists.mpr ⟨entry, (mem_planIndex distinct).mpr ⟨listed, rfl⟩⟩)
      obtain ⟨plan, member, mode⟩ := claimed _ key
      obtain ⟨entry', listed', records⟩ := entryOf plan member
      have same : entry' = entry :=
        List.inj_on_of_nodup_map distinct listed' listed ((modeOf_records records).trans mode)
      exact ⟨plan, member, same ▸ records⟩

/-! ### What is written -/

/-- The entry of a plan has its mode and its digest. -/
theorem planDict_spec {plan : LaunchPlan} {entry : JsonObject} (recorded : planDict py sha256 plan = .ok entry) :
    modeOf py entry = plan.mode ∧ planDigest py sha256 plan = .ok (Json.strField py entry "digest") := by
  obtain ⟨digest, digested, same⟩ := bind_eq_ok.mp recorded
  obtain rfl := Except.ok.inj same
  exact ⟨rfl, digested⟩

/-- The entries of some plans have their modes, in order. -/
theorem modeOf_planDicts {plans : List LaunchPlan} {entries : List JsonObject}
    (recorded : List.Forall₂ (fun plan entry => planDict py sha256 plan = .ok entry) plans entries) :
    entries.map (modeOf py) = plans.map LaunchPlan.mode := by
  induction recorded with
  | nil => rfl
  | cons here _ ih => rw [List.map_cons, List.map_cons, ih, (planDict_spec here).1]

theorem exists_planDict {plans : List LaunchPlan} {entries : List JsonObject}
    (recorded : List.Forall₂ (fun plan entry => planDict py sha256 plan = .ok entry) plans entries) :
    ∀ plan ∈ plans, ∃ entry ∈ entries, planDict py sha256 plan = .ok entry := by
  induction recorded with
  | nil => exact fun _ wrong => nomatch wrong
  | cons here _ ih =>
    refine List.forall_mem_cons.mpr ⟨⟨_, List.mem_cons_self, here⟩, fun plan member => ?_⟩
    obtain ⟨entry, later, same⟩ := ih plan member
    exact ⟨entry, List.mem_cons_of_mem _ later, same⟩

/-- The loop over what was recorded is silent and leaves nothing. -/
theorem checkPlans_planDicts {plans : List LaunchPlan} {entries : List JsonObject}
    (distinct : (plans.map LaunchPlan.mode).Nodup)
    (recorded : List.Forall₂ (fun plan entry => planDict py sha256 plan = .ok entry) plans entries) :
    ∃ left, checkPlans py sha256 (planIndex py (entries.map .obj)) plans = .ok ([], left) ∧ left.keys = [] := by
  have modes := modeOf_planDicts recorded
  have apart : ((mappings (entries.map .obj)).map (modeOf py)).Nodup := by
    rw [mappings_map_obj, modes]
    exact distinct
  refine ⟨_, checkPlans_iff.mpr ⟨distinct, fun plan member => ?_, rfl⟩, ?_⟩
  · obtain ⟨entry, listed, same⟩ := exists_planDict recorded plan member
    obtain ⟨mode, digested⟩ := planDict_spec same
    refine ⟨entry, (mem_planIndex apart).mpr ⟨?_, mode⟩, digested⟩
    rw [mappings_map_obj]
    exact listed
  · refine List.eq_nil_iff_forall_not_mem.mpr fun mode member => ?_
    obtain ⟨stored, unclaimed⟩ := mem_keys_left.mp member
    have listed := Dict.mem_keys_ofList.mp stored
    rw [mappings_map_obj, ← List.mem_map, modes] at listed
    obtain ⟨plan, mine, same⟩ := List.mem_map.mp listed
    exact unclaimed plan mine same

theorem runtimeReasons_asDict (runtime : RuntimeLock) : runtimeReasons py runtime.asDict runtime = [] := by
  have interpreter : Json.strField py runtime.asDict "interpreter" = runtime.interpreter := rfl
  have lockfile : Json.strField py runtime.asDict "lockfile_sha256" = runtime.lockfileSha256 := rfl
  have sdk : Json.strField py runtime.asDict "sdk_version" = runtime.sdkVersion := rfl
  unfold runtimeReasons
  rw [interpreter, lockfile, sdk]
  simp [reasonIf]

/-- A lock that is written checks clean. -/
theorem entrypointLockReasons_lockDocument {plans : List LaunchPlan} {createdAt : PyFloat} {document : JsonObject}
    (written : lockDocument py sha256 plans createdAt = .ok document) :
    entrypointLockReasons py sha256 document plans = .ok [] := by
  cases plans with
  | nil => cases written
  | cons first rest =>
    unfold lockDocument at written
    dsimp only at written
    split at written
    · next distinct =>
      rw [((sortedBy_perm id _).nodup_iff)] at distinct
      split at written
      · cases written
      · obtain ⟨entries, recorded, same⟩ := bind_eq_ok.mp written
        obtain rfl := Except.ok.inj same
        obtain ⟨left, silent, empty⟩ := checkPlans_planDicts distinct (mapM_ok.mp recorded)
        have head : headReasons py [("layout", .int 1), ("component", .str "axiom-mcp"),
            ("runtime", .obj first.runtime.asDict), ("plans", .arr (entries.map .obj)),
            ("created_at", .float createdAt)] = [] := rfl
        have plans : Json.get? [("layout", .int 1), ("component", .str "axiom-mcp"),
            ("runtime", .obj first.runtime.asDict), ("plans", .arr (entries.map .obj)),
            ("created_at", .float createdAt)] "plans" = some (.arr (entries.map .obj)) := rfl
        have runtime : recordedRuntimeReasons py [("layout", .int 1), ("component", .str "axiom-mcp"),
            ("runtime", .obj first.runtime.asDict), ("plans", .arr (entries.map .obj)),
            ("created_at", .float createdAt)] (first :: rest) = [] := runtimeReasons_asDict first.runtime
        unfold entrypointLockReasons
        rw [plans]
        dsimp only
        rw [silent, ok_bind, head, runtime, empty]
        rfl
    · cases written

/-- **A clean lock describes the plans exactly when it is not forged**, and a lock that is written checks clean. -/
theorem lock_describes_iff (py : Interpreter) (sha256 : Bytes → Text) :
    (∀ document plans, entrypointLockReasons py sha256 document plans = .ok [] →
      (Describes py document plans ↔ Unforged py sha256 document plans)) ∧
    ∀ plans createdAt document, lockDocument py sha256 plans createdAt = .ok document →
      entrypointLockReasons py sha256 document plans = .ok [] :=
  ⟨fun _ _ => describes_iff, fun _ _ _ => entrypointLockReasons_lockDocument⟩

end Lock

/-! ### A gateway on standard input -/

/-- The environment of a sample install root. -/
def sampleRuntime : RuntimeLock where
  installRoot := "/opt"
  version := "1.0.0"
  venv := "/opt/venv"
  interpreter := "/opt/venv/bin/python"
  pythonVersion := "3.13.0"
  pythonRequires := ">=3.13"
  componentVersion := "1.0.0"
  interpreterPrefix := "/opt/venv"
  basePrefix := "/usr"
  sdkPackage := "mcp"
  sdkPin := "1.0"
  sdkVersion := "1.0"
  sdkPath := "/opt/venv/mcp"
  sdkInsideEnvironment := true
  sharedBasePackages := false
  frozen := []
  lockfile := "/opt/lock.json"
  lockfileSha256 := "00"

/-- Its plan for standard input. -/
def samplePlan : LaunchPlan where
  mode := "stdio"
  executable := "/opt/venv/bin/python"
  arguments := [("-m" : Text), "axiom_mcp.stdio"]
  cwd := "/opt"
  environment := [("PATH", "/usr/bin")]
  runtime := sampleRuntime

/-- The bytes that are digested of it. -/
def sampleBytes : Bytes := ((Json.dumps .ascii samplePlan.payload).bind Utf8.encode).getD []

/-- Their digest. -/
def sampleDigest : Text := "620a24968526e6ab2ee5632e69cf833d144a9330be8bdc4e971d15c009155b96"

/-- SHA-256, on the bytes of the sample. -/
def planSha256 (bytes : Bytes) : Text := if bytes = sampleBytes then sampleDigest else []

/-- The entry recorded for the plan, with some arguments. -/
def sampleEntry (arguments : List Text) : JsonObject :=
  [("mode", .str samplePlan.mode), ("executable", .str samplePlan.executable), ("arguments", textArray arguments),
    ("cwd", .str samplePlan.cwd), ("environment", .obj samplePlan.environmentObject), ("digest", .str sampleDigest),
    ("runtime", .obj sampleRuntime.asDict)]

/-- The lock of the plan, with some arguments recorded. -/
def sampleLock (arguments : List Text) : JsonObject :=
  [("layout", .int 1), ("component", .str "axiom-mcp"), ("runtime", .obj sampleRuntime.asDict),
    ("plans", .arr [.obj (sampleEntry arguments)]), ("created_at", .float ⟨0⟩)]

theorem planDigest_sample : planDigest .ascii planSha256 samplePlan = .ok sampleDigest := by
  have encodes : ((Json.dumps .ascii samplePlan.payload).bind Utf8.encode).isSome = true := by decide +kernel
  obtain ⟨bytes, same⟩ := Option.isSome_iff_exists.mp encodes
  have whole : bytes = sampleBytes := by
    unfold sampleBytes
    rw [same]
    rfl
  unfold planDigest planSha256
  rw [same]
  dsimp only
  rw [if_pos whole]

theorem lockDocument_sample :
    lockDocument .ascii planSha256 [samplePlan] ⟨0⟩ = .ok (sampleLock samplePlan.arguments) := by
  have recorded : [samplePlan].mapM (planDict .ascii planSha256) = .ok [sampleEntry samplePlan.arguments] := by
    refine mapM_ok.mpr (.cons ?_ .nil)
    unfold planDict
    rw [planDigest_sample, ok_bind]
    rfl
  unfold lockDocument
  dsimp only
  rw [if_pos (by decide +kernel), List.find?_nil]
  dsimp only
  rw [recorded, ok_bind]
  rfl

/-- A lock as it is written describes its plan. -/
theorem lock_describes_iff_sample :
    Describes .ascii (sampleLock samplePlan.arguments) [samplePlan] ↔
      Unforged .ascii planSha256 (sampleLock samplePlan.arguments) [samplePlan] :=
  (lock_describes_iff .ascii planSha256).1 _ _ ((lock_describes_iff .ascii planSha256).2 _ _ _ lockDocument_sample)

/-- The digest of an entry says nothing about its fields: edited arguments check clean. -/
theorem lock_edited : ¬ ∀ document plans, entrypointLockReasons .ascii planSha256 document plans = .ok [] →
    Describes .ascii document plans := by
  intro described
  have silent : checkPlans .ascii planSha256 (planIndex .ascii [.obj (sampleEntry [("-c" : Text)])]) [samplePlan] =
      .ok ([], Dict.empty) := by
    refine checkPlans_iff.mpr ⟨List.nodup_singleton _, List.forall_mem_singleton.mpr ?_, rfl⟩
    exact ⟨sampleEntry [("-c" : Text)], rfl, planDigest_sample⟩
  have clean : entrypointLockReasons .ascii planSha256 (sampleLock [("-c" : Text)]) [samplePlan] = .ok [] := by
    have plans : Json.get? (sampleLock [("-c" : Text)]) "plans" =
      some (.arr [.obj (sampleEntry [("-c" : Text)])]) := rfl
    unfold entrypointLockReasons
    rw [plans]
    dsimp only
    rw [silent, ok_bind]
    rfl
  obtain ⟨entries, found, _, _, each, _⟩ := described _ _ clean
  have recorded : entries.map Json.obj = [.obj (sampleEntry [("-c" : Text)])] :=
    (Json.arr.inj (Option.some.inj found)).symm
  obtain ⟨entry, listed, records⟩ := each samplePlan List.mem_cons_self
  have only : Json.obj entry ∈ [Json.obj (sampleEntry [("-c" : Text)])] := recorded ▸ List.mem_map_of_mem listed
  obtain rfl := Json.obj.inj (List.mem_singleton.mp only)
  have same : textArray [("-c" : Text)] = textArray samplePlan.arguments := Option.some.inj records.arguments
  have lengths := congrArg List.length (Json.arr.inj same)
  exact absurd lengths (by decide)

end AxiomMcp.Release
