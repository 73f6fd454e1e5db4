/-
**The members that a stored catalog pins.**

Over a store that nobody changes, the catalog of a solution, the state of its members and the loads of the
selected projects are described by what the store holds.

* `CatalogPublished`, `RefusedMember`, `Available`: the catalog of a solution, and what it pins;
* `loadVector_ends`: the vector is that of the published catalog, none of whose members is refused;
* `ProjectStored`, `loadPinnedProjects_ends`: **the loads of a request** end at the first project that is not
  available, which is refused, or whose available generation is not stored, which leaks.
-/

import AxiomMcp.Tools.Refusals
import AxiomMcp.Tools.Stored

namespace AxiomMcp.Tools

open Lib Program Machine
open Guard (SolutionGuard)
open Snapshot (LoadedSnapshot SnapshotLocation)

/-! ### The catalog -/

section Catalogs

variable {Time : Type} (context : ToolContext Time) (store : Store) (solutionId : Text)

/-- The catalog that a solution publishes. -/
def CatalogPublished (catalog : Snapshot.Catalog) : Prop :=
  ∃ location, context.registry.catalogLocation context.interpreter solutionId queryLane = .ok location ∧
    Snapshot.CatalogStored context.interpreter context.sha256 store.files location catalog

/-- Where the members of a solution are. -/
def locationOf (projectId : Text) : Except Raised SnapshotLocation :=
  context.registry.location context.interpreter solutionId projectId queryLane

/-- A member whose manifest can be read and is refused. -/
def RefusedMember (member : Snapshot.CatalogMember) : Prop :=
  ∃ raw, Snapshot.HoldsManifest context.interpreter store.files (locationOf context solutionId) member raw ∧
    ∀ manifest, Snapshot.loadManifestBytes context.interpreter raw (Snapshot.manifestLabel member.generationId) ≠
      .ok manifest

/-- The catalog pins a generation of a project, and its manifest is the pinned one. -/
def Available (catalog : Snapshot.Catalog) (projectId generationId : Text) : Prop :=
  ∃ member ∈ catalog.members, member.projectId = projectId ∧ member.generationId = generationId ∧
    Snapshot.ValidMember context.interpreter context.sha256 store.files (locationOf context solutionId) member

/-- The pinned generation of a project, stored. -/
def ProjectStored (catalog : Snapshot.Catalog) (projectId : Text) (stored : StoredMember) : Prop :=
  ∃ generationId location directory, Available context store solutionId catalog projectId generationId ∧
    locationOf context solutionId projectId = .ok location ∧ sourceDirectory context location = .ok directory ∧
      SourceStored context store location generationId directory stored

variable {context store solutionId}

theorem CatalogPublished.unique {catalog catalog' : Snapshot.Catalog}
    (one : CatalogPublished context store solutionId catalog)
    (other : CatalogPublished context store solutionId catalog') : catalog = catalog' := by
  obtain ⟨location, located, holds⟩ := one
  obtain ⟨location', located', holds'⟩ := other
  obtain rfl := Except.ok.inj (located.symm.trans located')
  exact Snapshot.decides_loadSolutionCatalog.unique holds holds'

theorem passes_refused {catalog : Snapshot.Catalog} (published : CatalogPublished context store solutionId catalog)
    {member : Snapshot.CatalogMember} (here : member ∈ catalog.members) :
    Snapshot.Passes context.interpreter store.files (locationOf context solutionId) member ↔
      ¬ RefusedMember context store solutionId member := by
  obtain ⟨_, _, _, _, _, _, loaded⟩ := published
  unfold locationOf
  rw [Snapshot.passes_iff loaded (by decide) here]
  unfold RefusedMember
  constructor
  · rintro accepted ⟨raw, held, refused⟩
    obtain ⟨manifest, loads⟩ := accepted raw held
    exact refused manifest loads
  · intro none raw held
    by_contra refused
    exact none ⟨raw, held, fun manifest loads => refused ⟨manifest, loads⟩⟩

/-- **The vector of a solution**: its published catalog, none of whose members is refused, with each member
recorded by its own state. -/
theorem loadVector_ends {guard after : SolutionGuard} {outcome : Except ToolError Snapshot.CatalogVector}
    (ends : (storeMachine store).Ends (loadVector context solutionId) guard outcome after) :
    (∃ raised, outcome = .error (.snapshot raised) ∧ ∀ catalog, CatalogPublished context store solutionId catalog →
        ∃ member ∈ catalog.members, RefusedMember context store solutionId member) ∨
      ∃ catalog vector, outcome = .ok vector ∧ CatalogPublished context store solutionId catalog ∧
        (∀ member ∈ catalog.members, ¬ RefusedMember context store solutionId member) ∧
        Snapshot.Isolated context.interpreter context.sha256 store.files (locationOf context solutionId) catalog
          vector := by
  obtain ⟨locating, between, locates, rest⟩ := ends_resume.mp ends
  obtain ⟨rfl, rfl⟩ := ends_ofExcept.mp locates
  cases located : context.registry.catalogLocation context.interpreter solutionId queryLane with
  | error raised =>
    rw [located] at rest
    obtain ⟨rfl, rfl⟩ := rest
    refine .inl ⟨raised, rfl, ?_⟩
    rintro catalog ⟨_, wrong, _⟩
    cases located.symm.trans wrong
  | ok location =>
    rw [located] at rest
    obtain ⟨loading, between, loads, rest⟩ := ends_resume.mp rest
    obtain ⟨loading, loaded, rfl⟩ := readingFiles_ends loads
    have decides : Decides store.files.reply
      (Snapshot.loadSolutionCatalog context.interpreter context.sha256 location) _ _ :=
        Snapshot.decides_loadSolutionCatalog
    cases loading with
    | error raised =>
      obtain ⟨rfl, rfl⟩ := rest
      refine .inl ⟨raised, rfl, ?_⟩
      rintro catalog ⟨other, there, holds⟩
      obtain rfl := Except.ok.inj (located.symm.trans there)
      exact (decides.none_returned loaded catalog holds).elim
    | ok catalog =>
      have published : CatalogPublished context store solutionId catalog :=
        ⟨location, located, (decides.returned _).mp loaded⟩
      obtain ⟨pinning, pinned, rfl⟩ := readingFiles_ends rest
      rcases Snapshot.pinCatalog_against context.interpreter context.sha256 store.files
        (locationOf context solutionId) catalog with
          ⟨passes, vector, returned, isolated⟩ | ⟨⟨member, here, fails⟩, raised, failed⟩
      · obtain rfl := Option.some.inj (pinned.symm.trans returned)
        exact .inr ⟨catalog, vector, rfl, published, fun member here => (passes_refused published here).mp
          (passes member here), isolated⟩
      · obtain rfl := Option.some.inj (pinned.symm.trans failed)
        refine .inl ⟨raised, rfl, fun other another => ?_⟩
        obtain rfl := another.unique published
        refine ⟨member, here, ?_⟩
        by_contra accepted
        exact fails ((passes_refused published here).mpr accepted)

/-- The pin of a project is available exactly if the catalog pins a generation of it that is there. -/
theorem availablePin_iff {catalog : Snapshot.Catalog} {vector : Snapshot.CatalogVector}
    (published : CatalogPublished context store solutionId catalog)
    (isolated : Snapshot.Isolated context.interpreter context.sha256 store.files
      (locationOf context solutionId) catalog
      vector) (projectId : Text) :
    (∃ pin, availablePin (pinsOf vector) projectId = .ok pin ∧
        Available context store solutionId catalog projectId pin.member.generationId) ∨
      (∃ raised, availablePin (pinsOf vector) projectId = .error raised ∧ raised.IsGateway) ∧
        ∀ generationId, ¬ Available context store solutionId catalog projectId generationId := by
  obtain ⟨_, _, _, _, _, _, loaded⟩ := published
  have named := Snapshot.loadCatalogBytes_members loaded
  have listed (member : Snapshot.CatalogMember) :
      member ∈ catalog.members ↔ ∃ pin ∈ vector.pins, pin.member = member := by
    rw [← List.mem_map, isolated.members, Snapshot.Catalog.vector, mem_sortedBy]
  have distinct : (vector.pins.map fun pin => pin.member.projectId).Nodup := by
    have same : vector.pins.map (fun pin => pin.member.projectId) =
        catalog.vector.map Snapshot.CatalogMember.projectId := by
      rw [← isolated.members, List.map_map]
      rfl
    rw [same]
    exact ((sortedBy_perm _ _).map _).nodup_iff.mpr named.distinct
  have found (pin : Snapshot.MemberPin) : (pinsOf vector).get? projectId = some pin ↔
      pin ∈ vector.pins ∧ pin.member.projectId = projectId := Dict.get?_ofList distinct
  -- an available member is that of the one pin of its project
  have unavailable (refused : ∀ pin, (pinsOf vector).get? projectId = some pin → pin.status ≠ .available)
      (generationId : Text) : ¬ Available context store solutionId catalog projectId generationId := by
    rintro ⟨member, here, rfl, rfl, valid⟩
    obtain ⟨pin, inside, rfl⟩ := (listed member).mp here
    exact refused pin ((found pin).mpr ⟨inside, rfl⟩) ((isolated.status pin inside).mpr valid)
  unfold availablePin
  dsimp only
  cases looked : (pinsOf vector).get? projectId with
  | none =>
    refine .inr ⟨⟨_, rfl, isGateway_refusal _ _ _⟩, unavailable fun pin wrong => ?_⟩
    cases looked.symm.trans wrong
  | some pin =>
    obtain ⟨inside, own⟩ := (found pin).mp looked
    dsimp only
    split
    · next available =>
      have status : pin.status = .available := of_decide_eq_true available
      exact .inl ⟨pin, rfl, pin.member, (listed _).mpr ⟨pin, inside, rfl⟩, own, rfl,
        (isolated.status pin inside).mp status⟩
    · next missing =>
      refine .inr ⟨⟨_, rfl, isGateway_refusal _ _ _⟩, unavailable fun other there status => ?_⟩
      obtain rfl := Option.some.inj (looked.symm.trans there)
      exact missing (decide_eq_true status)

/-- A project has one available generation. -/
theorem Available.unique {catalog : Snapshot.Catalog}
    (published : CatalogPublished context store solutionId catalog)
    {projectId generationId generationId' : Text}
    (one : Available context store solutionId catalog projectId generationId)
    (other : Available context store solutionId catalog projectId generationId') :
    generationId = generationId' := by
  obtain ⟨_, _, _, _, _, _, loaded⟩ := published
  obtain ⟨member, here, rfl, rfl, _⟩ := one
  obtain ⟨member', there, same, rfl, _⟩ := other
  rw [List.inj_on_of_nodup_map (Snapshot.loadCatalogBytes_members loaded).distinct there here same]

theorem Available.digest {catalog : Snapshot.Catalog}
    (published : CatalogPublished context store solutionId catalog)
    {projectId generationId : Text}
    (available : Available context store solutionId catalog projectId generationId) :
    Query.isSha256 generationId = true := by
  obtain ⟨_, _, _, _, _, _, loaded⟩ := published
  obtain ⟨member, here, _, rfl, _⟩ := available
  exact (Snapshot.loadCatalogBytes_members loaded).generations member here

theorem ProjectStored.unique {catalog : Snapshot.Catalog}
    (published : CatalogPublished context store solutionId catalog)
    {projectId : Text} {stored stored' : StoredMember}
    (one : ProjectStored context store solutionId catalog projectId stored)
    (other : ProjectStored context store solutionId catalog projectId stored') : stored = stored' := by
  obtain ⟨generationId, location, directory, available, located, sourced, one⟩ := one
  obtain ⟨generationId', location', directory', available', located', sourced', other⟩ := other
  obtain rfl := available.unique published available'
  obtain rfl := Except.ok.inj (located.symm.trans located')
  obtain rfl := Except.ok.inj (sourced.symm.trans sourced')
  exact one.unique (available.digest published) other

theorem ProjectStored.formed {catalog : Snapshot.Catalog} {projectId : Text} {stored : StoredMember}
    (holds : ProjectStored context store solutionId catalog projectId stored) :
    ∀ shard ∈ stored.shards, shard.document.WellFormed := by
  obtain ⟨_, _, _, _, _, _, holds⟩ := holds
  exact holds.formed

theorem ProjectStored.available {catalog : Snapshot.Catalog} {projectId : Text} {stored : StoredMember}
    (holds : ProjectStored context store solutionId catalog projectId stored) :
    ∃ generationId, Available context store solutionId catalog projectId generationId := by
  obtain ⟨generationId, _, _, available, _⟩ := holds
  exact ⟨generationId, available⟩

/-- An exception of a stored generation is not translated. -/
theorem translatePinned_foreign {raised : Raised} (foreign : Snapshot.Foreign raised) (projectId : Text) :
    translatePinned projectId (.snapshot raised) = .snapshot raised := by
  unfold translatePinned isFileNotFound
  cases raised with
  | registry kind message => exact foreign.elim
  | os fault => exact if_neg fun same => foreign (of_decide_eq_true same)
  | _ => rfl

/-- The source of a registered project. -/
theorem source_of_location {projectId : Text} {location : SnapshotLocation}
    (located : locationOf context solutionId projectId = .ok location) :
    ∃ directory, sourceDirectory context location = .ok directory := by
  obtain ⟨binding, bound, placed⟩ := bind_eq_ok.mp located
  obtain ⟨entry, known, bound⟩ := bind_eq_ok.mp bound
  obtain ⟨lane, _, same⟩ := bind_eq_ok.mp placed
  obtain rfl := Except.ok.inj same
  have own : binding.solutionId = solutionId := by
    split at bound
    · obtain rfl := Except.ok.inj bound
      rfl
    · cases bound
  refine ⟨context.registry.guardDirectory entry.instanceId, ?_⟩
  unfold sourceDirectory
  dsimp only
  rw [own, known]
  rfl

/-- The load of an available member. -/
theorem loadPinnedProject_ends {catalog : Snapshot.Catalog}
    (published : CatalogPublished context store solutionId catalog)
    {projectId generationId : Text} (available : Available context store solutionId catalog projectId generationId)
    (admitted : context.principal.require Security.capabilityRead solutionId [projectId] = .ok ())
    {guard after : SolutionGuard} {outcome : Except ToolError LoadedSnapshot}
    (ends : (storeMachine store).Ends (loadPinnedProject context solutionId projectId queryLane generationId) guard
      outcome after) :
    (∃ snapshot, outcome = .ok snapshot ∧
      ProjectStored context store solutionId catalog projectId (viewOf snapshot)) ∨
      ∃ raised, outcome = .error raised ∧ ¬ raised.IsGateway ∧
        ∀ stored, ¬ ProjectStored context store solutionId catalog projectId stored := by
  obtain ⟨location, located⟩ : ∃ location, locationOf context solutionId projectId = .ok location := by
    obtain ⟨member, _, rfl, _, raw, manifest, ⟨location, _, located, _⟩, _⟩ := available
    exact ⟨location, located⟩
  obtain ⟨directory, sourced⟩ := source_of_location located
  unfold loadPinnedProject at ends
  rw [admitted] at ends
  change (storeMachine store).Ends (rescue _ _) guard outcome after at ends
  obtain ⟨loading, between, loads, rest⟩ := ends_resume.mp ends
  obtain ⟨locating, _, locates, loads⟩ := ends_resume.mp loads
  obtain ⟨rfl, rfl⟩ := ends_ofExcept.mp locates
  rw [show context.registry.location context.interpreter solutionId projectId queryLane = _ from located] at loads
  rcases sourceLoadPinned_ends (available.digest published) sourced loads with
    ⟨snapshot, rfl, stored⟩ | ⟨raised, rfl, foreign, missing⟩
  · obtain ⟨rfl, rfl⟩ := rest
    exact .inl ⟨snapshot, rfl, generationId, location, directory, available, located, sourced, stored⟩
  · obtain ⟨rfl, rfl⟩ := rest
    rw [translatePinned_foreign foreign]
    refine .inr ⟨_, rfl, (fun ⟨_, wrong⟩ => nomatch wrong), ?_⟩
    rintro stored ⟨other, location', directory', available', located', sourced', there⟩
    obtain rfl := available.unique published available'
    obtain rfl := Except.ok.inj (located.symm.trans located')
    obtain rfl := Except.ok.inj (sourced.symm.trans sourced')
    exact missing stored there

/-- **The loads of a request**: they end at the first project that is not available, which is refused, or whose
available generation is not stored, which leaks. -/
theorem loadPinnedProjects_ends {catalog : Snapshot.Catalog} {vector : Snapshot.CatalogVector}
    (published : CatalogPublished context store solutionId catalog)
    (isolated : Snapshot.Isolated context.interpreter context.sha256 store.files
      (locationOf context solutionId) catalog
      vector) {projects : List Text}
    (admitted : ∀ projectId ∈ projects,
      context.principal.require Security.capabilityRead solutionId [projectId] = .ok ())
    {guard after : SolutionGuard} {outcome : Except ToolError (List LoadedSnapshot)}
    (ends : (storeMachine store).Ends (loadPinnedProjects context solutionId (pinsOf vector) projects) guard outcome
      after) :
    (∃ snapshots, outcome = .ok snapshots ∧ List.Forall₂ (fun projectId snapshot =>
        ProjectStored context store solutionId catalog projectId (viewOf snapshot)) projects snapshots) ∨
      ∃ before projectId later raised, projects = before ++ projectId :: later ∧
        (∀ other ∈ before, ∃ stored, ProjectStored context store solutionId catalog other stored) ∧
        outcome = .error raised ∧
        (raised.IsGateway ∧ (∀ generationId, ¬ Available context store solutionId catalog projectId generationId) ∨
          ¬ raised.IsGateway ∧ (∃ generationId, Available context store solutionId catalog projectId generationId) ∧
            ∀ stored, ¬ ProjectStored context store solutionId catalog projectId stored) := by
  induction projects generalizing guard after outcome with
  | nil =>
    obtain ⟨rfl, _⟩ := ends
    exact .inl ⟨[], rfl, .nil⟩
  | cons first rest ih =>
    rw [List.forall_mem_cons] at admitted
    obtain ⟨pinning, _, pins, goes⟩ := ends_resume.mp ends
    obtain ⟨rfl, rfl⟩ := ends_ofExcept.mp pins
    rcases availablePin_iff published isolated first with
      ⟨pin, found, available⟩ | ⟨⟨raised, refused, known⟩, missing⟩
    · rw [found] at goes
      obtain ⟨loading, between, loads, goes⟩ := ends_resume.mp goes
      rcases loadPinnedProject_ends published available admitted.1 loads with
        ⟨snapshot, rfl, stored⟩ | ⟨raised, rfl, foreign, missing⟩
      · obtain ⟨others, _, loads, goes⟩ := ends_resume.mp goes
        rcases ih admitted.2 loads with ⟨snapshots, rfl, each⟩ |
          ⟨before, projectId, later, raised, rfl, earlier, rfl, blocked⟩
        · obtain ⟨rfl, _⟩ := goes
          exact .inl ⟨_, rfl, .cons stored each⟩
        · obtain ⟨rfl, _⟩ := goes
          exact .inr ⟨first :: before, projectId, later, raised, rfl,
            List.forall_mem_cons.mpr ⟨⟨_, stored⟩, earlier⟩, rfl, blocked⟩
      · obtain ⟨rfl, _⟩ := goes
        exact .inr ⟨[], first, rest, raised, rfl, List.forall_mem_nil _, rfl,
          .inr ⟨foreign, ⟨_, available⟩, missing⟩⟩
    · rw [refused] at goes
      obtain ⟨rfl, _⟩ := goes
      exact .inr ⟨[], first, rest, raised, rfl, List.forall_mem_nil _, rfl, .inl ⟨known, missing⟩⟩

end Catalogs

end AxiomMcp.Tools
