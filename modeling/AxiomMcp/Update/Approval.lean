/-
**An approval is of one plan.**

An approval names a digest. The digest covers everything of a plan but the approval and the digest itself, whatever
the order of the keys, so an approval says of a plan whether it is the one that was approved.

* `planDigest_eq_iff`: two plans have one digest iff they agree in what a digest covers;
* `stale_iff`: **against the approval of an accepted plan, another plan is stale iff it differs from that plan in
  something that a digest covers**.

SHA-256 gives no two of the plans in question one digest, and a float is read back from its text.
-/

import AxiomMcp.Update.Accepted

namespace AxiomMcp.Update

open Lib
open Query (isSha256)

section

variable {ev : Evaluator}

/-- Two plans agree in everything that a digest covers. -/
def AgreeInDigest (plan plan' : JsonObject) : Prop :=
  ∀ key, key ∉ digestExcluded → (Json.get? plan key).map Json.sorted = (Json.get? plan' key).map Json.sorted

/-- An evaluator accepts a document with this plan, beside an approval of this digest. -/
structure Approves (ev : Evaluator) (document : Json) (plan : JsonObject) (digest : Text) : Prop where
  plan : document.field? "plan" = some (.obj plan)
  approved : document.field? "approved_digest" = some (.str digest)
  accepted : ∃ verdict, evaluate ev document = .ok verdict ∧ verdict.ok = true

/-- No two of these plans are a collision. -/
def NoCollision (ev : Evaluator) (plan plan' : JsonObject) : Prop :=
  ∀ bytes bytes', canonicalPlanBytes ev plan = .ok bytes → canonicalPlanBytes ev plan' = .ok bytes' →
    CollisionFree ev.sha256 [bytes, bytes']

/-- What a plan is that `json.loads` read. -/
def Readable (ev : Evaluator) (plan : JsonObject) : Prop :=
  (Json.obj plan).WellFormed ∧ Json.FloatsRead ev.py (.obj plan)

theorem collisionFree_pair {digest : Bytes → Text} {one other : Bytes} :
    CollisionFree digest [one, other] ↔ (digest one = digest other → one = other) := by
  simp only [CollisionFree, List.forall_mem_cons, List.not_mem_nil, IsEmpty.forall_iff, implies_true, and_true,
    true_and]
  exact ⟨fun both => both.1, fun free => ⟨free, fun same => (free same.symm).symm⟩⟩

/-! ### What a digest covers -/

theorem get?_digestBody (plan : JsonObject) (key : Text) :
    Json.get? (digestBody plan) key = if key ∈ digestExcluded then none else Json.get? plan key := by
  induction plan with
  | nil => simp [digestBody, Json.get?]
  | cons item rest ih =>
    obtain ⟨name, value⟩ := item
    simp only [digestBody, Json.get?] at ih ⊢
    rw [List.filter_cons, List.lookup_cons]
    by_cases here : key = name
    · subst here
      by_cases covered : key ∈ digestExcluded
      · rw [if_neg (by simpa using covered), ih, if_pos covered, if_pos covered]
      · rw [if_pos (by simpa using covered), if_neg covered, List.lookup_cons, beq_self_eq_true]
    · have other : (key == name) = false := beq_false_of_ne here
      rw [other]
      split
      · rw [List.lookup_cons, other, ih]
      · rw [ih]

theorem agreeInDigest_iff {plan plan' : JsonObject} (formed : (plan.map Prod.fst).Nodup)
    (formed' : (plan'.map Prod.fst).Nodup) :
    AgreeInDigest plan plan' ↔ Json.Same (.obj (digestBody plan)) (.obj (digestBody plan')) := by
  have distinct {plan : JsonObject} (formed : (plan.map Prod.fst).Nodup) :
      ((digestBody plan).map Prod.fst).Nodup := formed.sublist (List.filter_sublist.map _)
  rw [Json.same_obj (distinct formed) (distinct formed')]
  refine forall_congr' fun key => ?_
  rw [get?_digestBody, get?_digestBody]
  split
  · next covered => exact iff_of_true (fun other => absurd covered other) rfl
  · next other => exact forall_prop_of_true other

/-- What a digest covers is readable too. -/
theorem Readable.digestBody {plan : JsonObject} (readable : Readable ev plan) : Readable ev (digestBody plan) := by
  obtain ⟨distinct, each⟩ := Json.wellFormed_obj.mp readable.1
  refine ⟨Json.wellFormed_obj.mpr ⟨distinct.sublist (List.filter_sublist.map _), fun item member =>
    each item (List.mem_of_mem_filter member)⟩, Json.floatsRead_obj.mpr fun item member => ?_⟩
  exact Json.floatsRead_obj.mp readable.2 item (List.mem_of_mem_filter member)

/-- The bytes of a plan, where there are some. -/
theorem canonicalPlanBytes_eq_ok {plan : JsonObject} {bytes : Bytes}
    (found : canonicalPlanBytes ev plan = .ok bytes) :
    (Json.obj (digestBody plan)).digitsFit ev.py = true ∧
      Utf8.encode ((Json.obj (digestBody plan)).compactText ev.py ++ ("\n" : Text)) = some bytes := by
  unfold canonicalPlanBytes Json.dumps at found
  by_cases fits : (Json.obj (digestBody plan)).digitsFit ev.py = true
  · rw [if_pos fits] at found
    refine ⟨fits, ?_⟩
    cases encoded : Utf8.encode ((Json.obj (digestBody plan)).compactText ev.py ++ ("\n" : Text)) with
    | none => simp [encoded] at found
    | some other => simpa [encoded] using found
  · rw [if_neg fits] at found
    cases found

/-- **Two plans have one digest iff they agree in what a digest covers.** -/
theorem planDigest_eq_iff {plan plan' : JsonObject} {digest digest' : Text} (readable : Readable ev plan)
    (readable' : Readable ev plan') (free : NoCollision ev plan plan') (found : planDigest ev plan = .ok digest)
    (found' : planDigest ev plan' = .ok digest') : digest = digest' ↔ AgreeInDigest plan plan' := by
  obtain ⟨bytes, made, rfl⟩ := map_eq_ok.mp found
  obtain ⟨bytes', made', rfl⟩ := map_eq_ok.mp found'
  obtain ⟨fits, encoded⟩ := canonicalPlanBytes_eq_ok made
  obtain ⟨fits', encoded'⟩ := canonicalPlanBytes_eq_ok made'
  rw [agreeInDigest_iff (Json.wellFormed_obj.mp readable.1).1 (Json.wellFormed_obj.mp readable'.1).1]
  constructor
  · intro same
    obtain rfl := free bytes bytes' made made' bytes (by simp) bytes' (by simp) same
    have texts := List.append_cancel_right (Utf8.encode_injective encoded encoded')
    exact Json.compactText_injective ⟨readable.digestBody.1, readable'.digestBody.1⟩
      ⟨readable.digestBody.2, readable'.digestBody.2⟩ ⟨fits, fits'⟩ texts
  · intro same
    rw [Json.compactText_congr same, encoded'] at encoded
    rw [Option.some.inj encoded]

/-! ### Stale approvals -/

/-- The plan of an approved document is accepted. -/
theorem Approves.plan_accepted {document : Json} {plan : JsonObject} {digest : Text}
    (approves : Approves ev document plan digest) : Accepted ev plan digest := by
  obtain ⟨entries, found, digest', rfl, _, here, accepted, beside⟩ :=
    (evaluate_ok_iff document).mp approves.accepted
  obtain ⟨rfl⟩ := Option.some.inj (here.symm.trans approves.plan)
  obtain ⟨rfl⟩ := beside _ approves.approved
  exact accepted

/-- What is said against the approval in a document. -/
theorem approvalReasons_of_evaluate {document : Json} {plan : JsonObject} {approved : Json} {verdict : Verdict}
    (evaluated : evaluate ev document = .ok verdict) (here : document.field? "plan" = some (.obj plan))
    (beside : document.field? "approved_digest" = some approved) :
    approvalReasons ev (.obj plan) approved = .ok verdict.approvalReasons := by
  cases document with
  | obj entries =>
    simp only [Json.field?] at here beside
    rw [evaluate] at evaluated
    simp only [here, beside, besideReasons, bind_eq_ok] at evaluated
    obtain ⟨own, _, approval, approves, digest, _, ⟨rfl⟩⟩ := evaluated
    exact approves
  | _ => cases here

/-- **Against the approval of an accepted plan, a plan is stale iff it is another one.** -/
theorem stale_iff {document document' : Json} {plan plan' : JsonObject} {digest : Text} {verdict : Verdict}
    (approves : Approves ev document plan digest) (evaluated : evaluate ev document' = .ok verdict)
    (here : document'.field? "plan" = some (.obj plan'))
    (beside : document'.field? "approved_digest" = some (.str digest)) (readable : Readable ev plan)
    (readable' : Readable ev plan') (free : NoCollision ev plan plan') :
    ("approval_stale" : Text) ∈ verdict.approvalReasons ↔ ¬ AgreeInDigest plan plan' := by
  obtain ⟨_, isDigest, own⟩ := approves.plan_accepted.records.recorded
  have said := approvalReasons_of_evaluate evaluated here beside
  rw [approvalReasons, if_pos isDigest] at said
  obtain ⟨found, made, reasons⟩ := map_eq_ok.mp said
  have others : ("approval_stale" : Text) ≠ "plan_digest_not_approved" := by decide
  rw [← planDigest_eq_iff readable readable' free own made, ← reasons, List.mem_append, flag, flag]
  constructor
  · rintro (stale | other) rfl
    · simp at stale
    · split at other
      · exact others (List.mem_singleton.mp other)
      · cases other
  · intro differs
    refine .inl ?_
    rw [if_pos (by simpa using fun same => differs same.symm)]
    exact List.mem_singleton_self _

end

/-! ### A plan, and one of another channel -/

/-- Forty digits. -/
def sampleRevision : Text := List.replicate 40 (codePoint '2')

/-- Sixty-four digits. -/
def sampleHash : Text := List.replicate 64 (codePoint '3')

/-- The digest of a plan of the stable channel. -/
def stableDigest : Text := "d07e8e75f00cae98510b16265391e033e781b2a7da3210fa06432b65ca7bda0b"

/-- The digest of the same plan of the other channel. -/
def prereleaseDigest : Text := "655ddccc5f517f7034cb942dbbdc50f627969a0adcfef1e9fca5924e5de090de"

/-- An upgrade of one component. -/
def upgradePlan (channel digest : Text) : JsonObject :=
  [("schema_version", .int 1), ("spec_version", .str "2.0.0-draft.1"), ("plan_id", .str "axiom-mcp-0-2-0"),
    ("created_at", .str "2026-09-18T02:00:00Z"), ("expires_at", .str "2026-09-19T02:00:00Z"),
    ("channel", .str channel),
    ("target", .obj [("component", .str "axiom-mcp"), ("host", .str "linux-x64"),
      ("install_root", .str "/opt/axiom/mcp")]),
    ("components", .arr [.obj [("component", .str "axiom-mcp"), ("installed_version", .str "0.1.0"),
      ("installed_revision", .null), ("target_version", .str "0.2.0"), ("target_revision", .str sampleRevision),
      ("artifact_sha256", .str sampleHash), ("action", .str "upgrade")]]),
    ("downloads", .arr []), ("migrations", .arr []),
    ("backup", .obj [("required", .bool false), ("targets", .arr [])]), ("disk_headroom_bytes", .int 0),
    ("service_interruptions", .arr []),
    ("host_reconnect", .obj [("required", .bool false), ("reason", .str "none")]), ("bootstrap_changes", .arr []),
    ("rollback", .obj [("supported", .bool true), ("restores_previous_versions", .bool true), ("limits", .arr [])]),
    ("trust", .obj [("metadata_version", .int 7), ("metadata_expiry", .str "2026-09-25T02:00:00Z"),
      ("trust_root", .str (List.replicate 64 (codePoint '5'))), ("signature_present", .bool true)]),
    ("approval", .obj [("state", .str "approved"), ("approved_by", .str "owner"),
      ("approved_at", .str "2026-09-18T02:05:00Z"), ("approved_digest", .str digest)]),
    ("plan_digest", .str digest)]

/-- SHA-256 on the two plans, which differ in length. -/
def upgradeEvaluator : Evaluator where
  py := .ascii
  sha256 bytes := if bytes.length = 993 then stableDigest else prereleaseDigest
  isDecimal := Text.isDigitAscii

/-- A plan beside an approval. -/
def upgradeDocument (plan : JsonObject) (approved : Text) : Json :=
  .obj [("plan", .obj plan), ("approved_digest", .str approved)]

theorem readable_upgradePlan (channel digest : Text) : Readable upgradeEvaluator (upgradePlan channel digest) := by
  refine ⟨⟨?_, ?_⟩, Json.floatsRead_of_noFloat rfl⟩
  · have keys : (upgradePlan channel digest).map Prod.fst = planRequired := rfl
    rw [keys]
    decide +kernel
  · simp only [upgradePlan, Json.WellFormedEntries, Json.WellFormed, Json.WellFormedItems,
      List.map_cons, List.map_nil,
      and_true, true_and]
    decide +kernel

/-- The approval of the stable plan is stale for the plan of the other channel. -/
theorem stale_upgrade : ∃ verdict,
    evaluate upgradeEvaluator (upgradeDocument (upgradePlan "prerelease" prereleaseDigest) stableDigest) =
        .ok verdict ∧
      (("approval_stale" : Text) ∈ verdict.approvalReasons ↔
        ¬ AgreeInDigest (upgradePlan "stable" stableDigest) (upgradePlan "prerelease" prereleaseDigest)) := by
  have accepted : (evaluate upgradeEvaluator (upgradeDocument (upgradePlan "stable" stableDigest) stableDigest)).map
      Verdict.ok = .ok true := by decide +kernel
  have judged : (evaluate upgradeEvaluator
      (upgradeDocument (upgradePlan "prerelease" prereleaseDigest) stableDigest)).map Verdict.ok = .ok false := by
    decide +kernel
  obtain ⟨verdict, evaluated, _⟩ := map_eq_ok.mp judged
  refine ⟨verdict, evaluated,
    stale_iff ⟨rfl, rfl, map_eq_ok.mp accepted⟩ evaluated rfl rfl (readable_upgradePlan _ _)
    (readable_upgradePlan _ _) ?_⟩
  intro bytes bytes' made made'
  have own : planDigest upgradeEvaluator (upgradePlan "stable" stableDigest) = .ok stableDigest := by decide +kernel
  have own' : planDigest upgradeEvaluator (upgradePlan "prerelease" prereleaseDigest) = .ok prereleaseDigest := by
    decide +kernel
  rw [planDigest, made] at own
  rw [planDigest, made'] at own'
  have apart : stableDigest ≠ prereleaseDigest := by decide +kernel
  rw [← Except.ok.inj own, ← Except.ok.inj own'] at apart
  exact collisionFree_pair.mpr fun same => absurd same apart

end AxiomMcp.Update
