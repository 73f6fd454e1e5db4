/-
**When snapshots are of the location they were asked from.**

* `run_bound`: in every run of loads over one retention, each load of a retaining source returns a snapshot
  of its location, as long as no two payloads that were read collide;
* `snapshots_bound_iff`: that, and what holds without retention and of the members of a catalog, where it is
  decided by **the first manifest that was read**;
* `load_serves_twin`: the generation of another project is returned for a location.
-/

import AxiomMcp.Tools.Retention

namespace AxiomMcp.Tools

open Lib Program
open Snapshot (LoadedSnapshot pinMember projectMemberOpener)

/-- **Every load of a run over one retention is bound to its location.** -/
theorem run_bound {Time : Type} {context : ToolContext Time} (retaining : context.retaining = true)
    {calls : List (Call ToolOp ToolReply)} {served : List (LoadRequest × LoadedSnapshot)}
    (run : LoadRun context calls served) {payloads : List Bytes} (free : CollisionFree context.sha256 payloads)
    (among : payloadsRead calls ⊆ payloads) {retention after : GenerationRetention}
    (keyed : Keyed context payloads retention) (bounded : Bounded retention)
    (threads : Threads retention calls after) : ∀ pair ∈ served, BoundTo pair.1.location pair.2 := by
  induction run generalizing after with
  | start => exact fun _ none => nomatch none
  | @returned calls more served request snapshot before trace ih =>
    rw [payloadsRead_append] at among
    obtain ⟨between, first, later⟩ := threads_append threads
    have inCalls := List.Subset.trans (List.subset_append_left _ _) among
    have inMore := List.Subset.trans (List.subset_append_right _ _) among
    -- the loads before have left only what its key names
    have held := run_keyed retaining before free inCalls keyed bounded first
    have counted := (threads_bounded first bounded).1
    obtain ⟨is, _⟩ := (load_keyed retaining free inMore held counted later trace).2 snapshot rfl
    exact List.forall_mem_append.mpr ⟨ih inCalls first, List.forall_mem_singleton.mpr ⟨is.solution, is.project⟩⟩
  | @raised calls more served request raised before trace ih =>
    rw [payloadsRead_append] at among
    obtain ⟨between, first, _⟩ := threads_append threads
    exact ih (List.Subset.trans (List.subset_append_left _ _) among) first

/-- **When snapshots are bound to the location they were asked from**: over a retention always; without one, and
for the members of a catalog, exactly if the first manifest that was read, in the directories of the location,
names it. -/
theorem snapshots_bound_iff {Time : Type} (context : ToolContext Time) :
    (context.retaining = true → ∀ maxBytes maxEntries fresh, newRetention maxBytes maxEntries = .ok fresh →
      ∀ calls served held, LoadRun context calls served → Threads fresh calls held →
        CollisionFree context.sha256 (payloadsRead calls) → ∀ pair ∈ served, BoundTo pair.1.location pair.2) ∧
    (context.retaining = false → ∀ (request : LoadRequest) calls snapshot,
      Trace (request.program context) calls (.ok snapshot) →
        (BoundTo request.location snapshot ↔
          ManifestNames context.interpreter request.location (fileCallsOf calls))) ∧
    ∀ locationFor catalog calls vector,
      Trace (Snapshot.pinCatalog context.sha256 catalog
        (projectMemberOpener context.interpreter context.sha256 locationFor)) calls (.ok vector) →
      ∀ pin ∈ vector.pins, pin.available = true → ∃ inner location, inner <:+: calls ∧
        Trace (pinMember (projectMemberOpener context.interpreter context.sha256 locationFor) pin.member) inner
          (.ok pin) ∧
        locationFor pin.member.projectId = .ok location ∧
        ((∃ manifest, pin.manifest = some manifest ∧ Names location manifest) ↔
          ManifestNames context.interpreter location inner) := by
  refine ⟨fun retaining maxBytes maxEntries fresh made calls served held run threads free => ?_,
    fun plain request calls snapshot trace => load_bound_iff plain trace, ?_⟩
  · obtain ⟨bounded, empty, _⟩ := newRetention_bounded made
    have keyed : Keyed context (payloadsRead calls) fresh := by
      intro item member
      rw [empty] at member
      cases member
    exact run_bound retaining run free (List.Subset.refl _) keyed bounded threads
  · intro locationFor catalog calls vector trace pin inside available
    obtain ⟨inner, among, made⟩ := pinCatalog_each trace pin inside
    obtain ⟨location, located, bound⟩ := pinMember_bound_iff available made
    exact ⟨inner, location, among, made, located, bound⟩

/-! ### The generation of another project -/

/-- The lane of `core`, which holds the generation that another project published. -/
def twinFiles : Snapshot.Files := .plain
  [((Snapshot.sampleRoot "core").child Snapshot.currentPointerName, Snapshot.samplePointer Snapshot.twinId),
    ((Snapshot.sampleRoot "core").joined ["generations", Snapshot.twinId, "manifest.json"],
      Snapshot.sampleManifest "other"),
    ((Snapshot.sampleRoot "core").joined ["generations", Snapshot.twinId, "coverage.json"],
      Snapshot.sampleShard)]

/-- A load of this lane returns a snapshot of the other project. -/
theorem twin_load : ∃ calls snapshot,
    Trace ((LoadRequest.current coreLocation).program shopReader) calls (.ok snapshot) ∧
      snapshot.projectId = ("other" : Text) := by
  have seen : (outcomeAlone twinFiles ((LoadRequest.current coreLocation).program shopReader)).map
      (fun outcome => outcome.toOption.map LoadedSnapshot.projectId) = some (some ("other" : Text)) := by
    decide +kernel
  obtain ⟨outcome, ended, same⟩ := Option.map_eq_some_iff.mp seen
  cases outcome with
  | error raised => cases same
  | ok snapshot =>
    obtain ⟨calls, trace⟩ := trace_alone ended
    exact ⟨calls, snapshot, trace, Option.some.inj same⟩

/-- The snapshot of another project is returned for the location of `core`. -/
theorem load_serves_twin : ¬ ∀ (context : ToolContext ℕ) (request : LoadRequest) calls snapshot,
    Trace (request.program context) calls (.ok snapshot) → BoundTo request.location snapshot := by
  intro all
  obtain ⟨calls, snapshot, trace, other⟩ := twin_load
  obtain ⟨_, project⟩ := all _ _ _ _ trace
  rw [other] at project
  exact absurd project (by decide)

/-- The condition, at this load. -/
theorem twin_load_iff : ∃ calls snapshot,
    Trace ((LoadRequest.current coreLocation).program shopReader) calls (.ok snapshot) ∧
      (BoundTo coreLocation snapshot ↔
        ManifestNames shopReader.interpreter coreLocation (fileCallsOf calls)) := by
  obtain ⟨calls, snapshot, trace, _⟩ := twin_load
  exact ⟨calls, snapshot, trace, (snapshots_bound_iff shopReader).2.1 rfl _ calls snapshot trace⟩

end AxiomMcp.Tools
