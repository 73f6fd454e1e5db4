/-
**The registry document (`parse_registry`).**

`parseRegistry` validates a document and builds the registry that names every root a reader uses.

* `Path.ofText` is `Path(text)`, and `Path.normal` collapses the parent segments that `Path` leaves;
* `parseRegistry_ok`: what an accepted document says of each binding;
* `SnapshotRegistry.Separate`: lanes and catalogs have roots of their own, below their repositories, and
  no repository lies inside the home;
* `registry_separate_iff`: **an accepted registry is separate exactly when no root that is spelled with a
  parent segment leads into the home**.
-/

import AxiomMcp.Snapshot.Grammar
import AxiomMcp.Snapshot.Shards

namespace AxiomMcp.Snapshot

open Lib
open Query (isIdentifier)

/-! ### Spellings of a path -/

namespace Path

/-- `Path(text)` on a POSIX system. -/
def ofText (text : Text) : Path where
  parts := posixParts text
  anchor :=
    if ¬ text.startsWith "/" then .relative
    else if text.startsWith "//" ∧ ¬ text.startsWith "///" then .twoSlashes
    else .root

/-- A parent segment. -/
def parent : Text := ".."

/-- One segment more of a normalised path. -/
def collapse (anchor : Anchor) (done : List Text) (part : Text) : List Text :=
  if part ≠ parent then done ++ [part]
  else
    match done.getLast? with
    | none => if anchor = .relative then [parent] else []
    | some last => if last = parent then done ++ [parent] else done.dropLast

/-- The path with its parent segments collapsed; `Path` has dropped the others already. -/
def normal (path : Path) : Path := { path with parts := path.parts.foldl (collapse path.anchor) [] }

/-- The path is spelled with a parent segment. -/
def Dotted (path : Path) : Prop := parent ∈ path.parts

instance decidableDotted (path : Path) : Decidable path.Dotted := inferInstanceAs (Decidable (_ ∈ _))

theorem foldl_collapse (anchor : Anchor) (done : List Text) {parts : List Text} (plain : parent ∉ parts) :
    parts.foldl (collapse anchor) done = done ++ parts := by
  induction parts generalizing done with
  | nil => exact (List.append_nil done).symm
  | cons part rest ih =>
    have named : part ≠ parent := fun same => plain (same ▸ .head _)
    rw [List.foldl_cons, collapse, if_pos named, ih _ fun later => plain (.tail _ later),
      List.append_assoc, List.singleton_append]

/-- Without a parent segment a path is normal. -/
theorem normal_of_plain {path : Path} (plain : ¬ path.Dotted) : path.normal = path := by
  rw [normal, foldl_collapse _ _ plain, List.nil_append]

/-- Plain segments stay below a normalised path. -/
theorem normal_joined (path : Path) {parts : List Text} (plain : parent ∉ parts) :
    (path.joined parts).normal = path.normal.joined parts := by
  rw [normal, joined, List.foldl_append, foldl_collapse _ _ plain]
  rfl

theorem above_joined (path : Path) {parts : List Text} (some : parts ≠ []) :
    path.Above (path.joined parts) := by
  refine ⟨contains_joined (contains_refl path) parts, fun same => some ?_⟩
  exact List.append_right_eq_self.mp (congrArg Path.parts same)

end Path

/-- `PureWindowsPath(text).is_absolute()`: a drive or a share in front. -/
def windowsAbsolute (text : Text) : Bool :=
  let backslash := codePoint '\\'
  match text.map fun c => if c = codePoint '/' then backslash else c with
  | first :: second :: rest =>
    if first = backslash then
      -- One backslash is a root; what follows counts as a drive where its first segment is a colon.
      second == backslash ||
        (match ((second :: rest).splitOn backslash).filter fun part => part != [] && part != ("." : Text) with
          | segment :: _ :: _ => segment == (":" : Text)
          | _ => false)
    else second == codePoint ':' && rest.head? == some backslash
  | _ => false

/-- `_is_absolute(text)` -/
def isAbsoluteText (text : Text) : Bool := text.startsWith "/" || windowsAbsolute text

/-! ### Parsing -/

/-- A `RegistryUnreadable`. -/
def unreadable (message : Text) : Raised := .registry .unreadable message

/-- `REGISTRY_SCHEMA_VERSION` -/
def registrySchemaVersion : ℤ := 1

section Parse

variable (py : Interpreter)

/-- `_portable_id(value, what=what)` -/
def portableId (value : Option Json) (what : Text) : Except Raised Text :=
  match value with
  | some (.str identifier) =>
    if isIdentifier identifier then .ok identifier
    else .error (unreadable (Text.format [what, " is not a portable id: ", reprField py value]))
  | _ => .error (unreadable (Text.format [what, " is not a portable id: ", reprField py value]))

/-- `_mapping(value, what=what)` -/
def requireMapping (value : Json) (what : Text) : Except Raised JsonObject :=
  match value with
  | .obj entries => .ok entries
  | _ => .error (unreadable (what ++ (" must be an object" : Text)))

/-- `_sequence(body.get(name, []), what=what)` -/
def sequenceField (body : JsonObject) (name what : Text) : Except Raised (List Json) :=
  match (Json.get? body name).getD (.arr []) with
  | .arr items => .ok items
  | _ => .error (unreadable (what ++ (" must be a list" : Text)))

/-- A text that has to be an absolute path. -/
def absoluteField (value : Option Json) (complaint : Text) : Except Raised Text :=
  match value with
  | some (.str text) => if isAbsoluteText text then .ok text else .error (unreadable complaint)
  | _ => .error (unreadable complaint)

/-- A path a document may declare: where it does, it is the expected one. -/
def declaredPath (declared : Option Json) (expected : Path) (complaint mismatch : Text) :
    Except Raised Unit :=
  match declared with
  | none | some .null => .ok ()
  | some value => do
    let text ← absoluteField (some value) complaint
    if Path.ofText text ≠ expected then .error (unreadable mismatch)
    else .ok ()

/-- The check of `schema_version`. -/
def registryMajor (body : JsonObject) : Except Raised Unit :=
  match Json.get? body "schema_version" with
  | some (.int version) =>
    if version ≠ registrySchemaVersion then
      .error (.registry .unsupportedMajor (Text.format ["unsupported registry schema major: ",
        Text.ofInt version, " (supported: ", Text.ofInt registrySchemaVersion, ")"]))
    else .ok ()
  | _ => .error (unreadable "registry schema_version must be an integer")

/-- One round of the loop over `instances`; `instances` are the ids already accepted. -/
def addInstance (base : Path) (instances : List Text) (entry : Json) : Except Raised (List Text) := do
  let item ← requireMapping entry "registry instance"
  let instanceId ← portableId py (Json.get? item "instance_id") "instance_id"
  let shown := instanceId.pyRepr py.isPrintable
  if instanceId ∈ instances then .error (unreadable (("duplicate instance_id: " : Text) ++ shown))
  else do
    declaredPath (Json.get? item "guard_directory")
      (base.joined ["instances", instanceId, "solution.guard"])
      (Text.format ["guard_directory for ", shown, " must be an absolute path"])
      (Text.format ["guard_directory for ", shown, " is not the ABI path instances/", instanceId,
        "/solution.guard"])
    return instances ++ [instanceId]

/-- One round of the loop over `projects`; `seen` are the ids of the repositories before. -/
def addProject (solutionId : Text) (seen ids : List Text) (entry : Json) : Except Raised (List Text) := do
  let project ← requireMapping entry "repository project"
  let projectId ← portableId py (Json.get? project "project_id") "project_id"
  if projectId ∈ seen ++ ids then
    .error (unreadable (Text.format ["duplicate project_id in ", solutionId.pyRepr py.isPrintable, ": ",
      projectId.pyRepr py.isPrintable]))
  else return ids ++ [projectId]

/-- One round of the loop over `repositories`. -/
def addRepository (base : Path) (solutionId : Text) (repositories : List RepositoryBinding) (entry : Json) :
    Except Raised (List RepositoryBinding) := do
  let repo ← requireMapping entry "solution repository"
  let repoId ← portableId py (Json.get? repo "repo_id") "repo_id"
  let shown := repoId.pyRepr py.isPrintable
  if repoId ∈ repositories.map RepositoryBinding.repoId then
    .error (unreadable (Text.format ["duplicate repo_id in ", solutionId.pyRepr py.isPrintable, ": ", shown]))
  else do
    let rootValue ← absoluteField (Json.get? repo "repo_root")
      (Text.format ["repo_root for ", shown, " must be an absolute path"])
    let repoRoot := Path.ofText rootValue
    if base.Contains repoRoot then
      .error (unreadable (Text.format ["repo_root for ", shown, " must not sit inside AXIOM_HOME"]))
    else do
      let projects ← sequenceField repo "projects" "repository projects"
      let projectIds ← projects.foldlM
        (addProject py solutionId (repositories.flatMap RepositoryBinding.projectIds)) []
      return repositories ++ [⟨repoId, repoRoot, projectIds⟩]

/-- `catalog_host_repo`, the first repository where it is not given. -/
def catalogHost (item : JsonObject) (first : RepositoryBinding) : Option Json :=
  match Json.get? item "catalog_host_repo" with
  | none | some .null => some (.str first.repoId)
  | value => value

/-- One round of the loop over `solutions`. -/
def addSolution (base : Path) (instances : List Text) (solutions : List SolutionBinding) (entry : Json) :
    Except Raised (List SolutionBinding) := do
  let item ← requireMapping entry "registry solution"
  let solutionId ← portableId py (Json.get? item "solution_id") "solution_id"
  let shown := solutionId.pyRepr py.isPrintable
  if solutionId ∈ solutions.map SolutionBinding.solutionId then
    .error (unreadable (("duplicate solution_id: " : Text) ++ shown))
  else do
    let instanceId ← portableId py (Json.get? item "instance_id") "instance_id"
    if instanceId ∉ instances then
      .error (unreadable (Text.format ["solution ", shown, " names an unknown instance"]))
    else do
      let entries ← sequenceField item "repositories" "solution repositories"
      let repositories ← entries.foldlM (addRepository py base solutionId) []
      match repositories with
      | [] => .error (unreadable (Text.format ["solution ", shown, " registers no repository"]))
      | first :: _ => do
        let host ← portableId py (catalogHost item first) "catalog_host_repo"
        if host ∉ repositories.map RepositoryBinding.repoId then
          .error (unreadable (Text.format ["catalog_host_repo ", host.pyRepr py.isPrintable,
            " is not a repository of ", shown]))
        else return solutions ++ [⟨solutionId, instanceId, host, repositories⟩]

/-- `parse_registry(document, home=base)` -/
def parseRegistry (base : Path) (document : Json) : Except Raised SnapshotRegistry := do
  let body ← requireMapping document "registry document"
  declaredPath (Json.get? body "axiom_home") base "registry axiom_home must be an absolute path"
    "registry axiom_home does not match the resolved AXIOM_HOME"
  registryMajor body
  let instances ← (← sequenceField body "instances" "registry instances").foldlM (addInstance py base) []
  let solutions ← (← sequenceField body "solutions" "registry solutions").foldlM
    (addSolution py base instances) []
  return ⟨base, solutions⟩

end Parse

/-! ### What an accepted document says -/

/-- What an accepted repository says. -/
structure BoundRepository (base : Path) (entry : Json) (repo : RepositoryBinding) : Prop where
  root : repo.repoRoot = Path.ofText (textOf entry "repo_root")
  outside : ¬ base.Contains repo.repoRoot
  projects : ∀ projectId ∈ repo.projectIds, isIdentifier projectId = true

/-- What an accepted solution says. -/
structure BoundSolution (base : Path) (entry : Json) (solution : SolutionBinding) : Prop where
  identifier : isIdentifier solution.solutionId = true
  repositories : List.Forall₂ (BoundRepository base) (itemsOf entry "repositories") solution.repositories

section Accepted

variable {py : Interpreter} {base : Path}

theorem requireMapping_ok {value : Json} {what : Text} {entries : JsonObject}
    (mapping : requireMapping value what = .ok entries) : value = .obj entries := by
  cases value <;> cases mapping
  rfl

theorem portableId_ok {value : Option Json} {what identifier : Text}
    (named : portableId py value what = .ok identifier) : isIdentifier identifier = true := by
  unfold portableId at named
  split at named
  · split at named
    · next passes =>
      cases named
      exact passes
    · cases named
  · cases named

theorem sequenceField_ok {body : JsonObject} {name what : Text} {items : List Json}
    (listed : sequenceField body name what = .ok items) : itemsOf (.obj body) name = items := by
  unfold sequenceField at listed
  cases found : Json.get? body name with
  | none =>
    rw [found] at listed
    cases listed
    rw [itemsOf, Json.field?, found]
  | some value =>
    rw [found] at listed
    cases value <;> cases listed
    exact itemsOf_obj found

theorem absoluteField_ok {body : JsonObject} {name complaint text : Text}
    (given : absoluteField (Json.get? body name) complaint = .ok text) : textOf (.obj body) name = text := by
  unfold absoluteField at given
  split at given
  · next found =>
    split at given
    · cases given
      exact textOf_obj found
    · cases given
  · cases given

theorem addProject_ok {solutionId : Text} {seen ids ids' : List Text} {entry : Json}
    (plain : ∀ projectId ∈ ids, isIdentifier projectId = true)
    (added : addProject py solutionId seen ids entry = .ok ids') :
    ∀ projectId ∈ ids', isIdentifier projectId = true := by
  obtain ⟨project, _, added⟩ := bind_eq_ok.mp added
  obtain ⟨projectId, named, added⟩ := bind_eq_ok.mp added
  split at added
  · cases added
  · cases added
    intro other inside
    rcases List.mem_append.mp inside with old | new
    · exact plain other old
    · rw [List.mem_singleton.mp new]
      exact portableId_ok named

theorem addRepository_ok {solutionId : Text} {repositories repositories' : List RepositoryBinding}
    {entry : Json} (added : addRepository py base solutionId repositories entry = .ok repositories') :
    ∃ repo, BoundRepository base entry repo ∧ repositories' = repositories ++ [repo] := by
  obtain ⟨fields, mapping, added⟩ := bind_eq_ok.mp added
  obtain ⟨repoId, _, added⟩ := bind_eq_ok.mp added
  rw [requireMapping_ok mapping]
  dsimp only at added
  split at added
  · cases added
  · obtain ⟨rootValue, absolute, added⟩ := bind_eq_ok.mp added
    split at added
    · cases added
    · next outside =>
      obtain ⟨projects, _, added⟩ := bind_eq_ok.mp added
      obtain ⟨projectIds, collected, added⟩ := bind_eq_ok.mp added
      cases added
      refine ⟨_, ⟨?_, outside, ?_⟩, rfl⟩
      · rw [absoluteField_ok absolute]
      · exact foldlM_ok _ (fun _ _ _ plain more => addProject_ok plain more)
          (List.forall_mem_nil _) collected

theorem addSolution_ok {instances : List Text} {solutions solutions' : List SolutionBinding} {entry : Json}
    (added : addSolution py base instances solutions entry = .ok solutions') :
    ∃ solution, BoundSolution base entry solution ∧ solutions' = solutions ++ [solution] := by
  obtain ⟨item, mapping, added⟩ := bind_eq_ok.mp added
  obtain ⟨solutionId, named, added⟩ := bind_eq_ok.mp added
  rw [requireMapping_ok mapping]
  dsimp only at added
  split at added
  · cases added
  · obtain ⟨instanceId, _, added⟩ := bind_eq_ok.mp added
    split at added
    · cases added
    · obtain ⟨entries, listed, added⟩ := bind_eq_ok.mp added
      obtain ⟨repositories, collected, added⟩ := bind_eq_ok.mp added
      obtain ⟨bound, each, same⟩ := foldlM_append_ok (fun _ _ _ more => addRepository_ok more) collected
      rw [← sequenceField_ok listed] at each
      obtain rfl : repositories = bound := same
      split at added
      · cases added
      · obtain ⟨host, _, added⟩ := bind_eq_ok.mp added
        split at added
        · cases added
        · cases added
          exact ⟨_, ⟨portableId_ok named, each⟩, rfl⟩

/-- **What an accepted registry says of its document.** -/
theorem parseRegistry_ok {document : Json} {registry : SnapshotRegistry}
    (accepted : parseRegistry py base document = .ok registry) :
    registry.axiomHome = base ∧
      List.Forall₂ (BoundSolution base) (itemsOf document "solutions") registry.solutions := by
  obtain ⟨body, mapping, accepted⟩ := bind_eq_ok.mp accepted
  obtain ⟨_, _, accepted⟩ := bind_eq_ok.mp accepted
  obtain ⟨_, _, accepted⟩ := bind_eq_ok.mp accepted
  obtain ⟨_, _, accepted⟩ := bind_eq_ok.mp accepted
  obtain ⟨instances, _, accepted⟩ := bind_eq_ok.mp accepted
  obtain ⟨entries, listed, accepted⟩ := bind_eq_ok.mp accepted
  obtain ⟨solutions, collected, accepted⟩ := bind_eq_ok.mp accepted
  cases accepted
  obtain rfl := requireMapping_ok mapping
  obtain ⟨bound, each, rfl⟩ := foldlM_append_ok (fun _ _ _ more => addSolution_ok more) collected
  rw [sequenceField_ok listed]
  exact ⟨rfl, each⟩

end Accepted

/-! ### Roots -/

/-- An id is one plain segment of a path. -/
theorem identifier_segment {identifier : Text} (named : isIdentifier identifier = true) :
    identifier ≠ Path.parent ∧ identifier ≠ catalogDirname := by
  constructor <;>
  · rintro rfl
    revert named
    decide

section Roots

variable {py : Interpreter} {base : Path} {document : Json} {registry : SnapshotRegistry}
  {solutionId projectId lane : Text}

/-- The registry has the ids of an accepted document. -/
structure SnapshotRegistry.Named (registry : SnapshotRegistry) : Prop where
  solutions : ∀ solution ∈ registry.solutions, isIdentifier solution.solutionId = true
  projects : ∀ solution ∈ registry.solutions, ∀ repo ∈ solution.repositories,
    ∀ projectId ∈ repo.projectIds, isIdentifier projectId = true

theorem named_of_accepted (accepted : parseRegistry py base document = .ok registry) : registry.Named := by
  obtain ⟨_, each⟩ := parseRegistry_ok accepted
  refine ⟨fun solution member => ?_, fun solution member repo inside => ?_⟩
  · obtain ⟨_, _, bound⟩ := forall₂_right each member
    exact bound.identifier
  · obtain ⟨_, _, bound⟩ := forall₂_right each member
    obtain ⟨_, _, repository⟩ := forall₂_right bound.repositories inside
    exact repository.projects

theorem solution_ok {solution : SolutionBinding} (found : registry.solution py solutionId = .ok solution) :
    solution ∈ registry.solutions ∧ solution.solutionId = solutionId := by
  unfold SnapshotRegistry.solution at found
  split at found
  · next here =>
    cases found
    exact ⟨List.mem_of_find?_eq_some here, by simpa using List.find?_some here⟩
  · cases found

theorem checkLane_ok {checked : Text} (laned : checkLane py lane = .ok checked) :
    checked = lane ∧ lane ∈ lanes := by
  unfold checkLane at laned
  split at laned
  · next known => exact ⟨(Except.ok.inj laned).symm, known⟩
  · cases laned

/-- The root of a lane: below a repository that hosts the project. -/
def LaneRoot (registry : SnapshotRegistry) (solutionId projectId lane : Text) (root : Path) : Prop :=
  ∃ solution ∈ registry.solutions, ∃ repo ∈ solution.repositories, solution.solutionId = solutionId ∧
    projectId ∈ repo.projectIds ∧ lane ∈ lanes ∧
      root = repo.repoRoot.joined [".axiom", "graph", solutionId, projectId, lane]

/-- The root of a catalog: below the repository that hosts it. -/
def CatalogRoot (registry : SnapshotRegistry) (solutionId lane : Text) (root : Path) : Prop :=
  ∃ solution ∈ registry.solutions, ∃ repo ∈ solution.repositories, solution.solutionId = solutionId ∧
    repo.repoId = solution.catalogHostRepo ∧ lane ∈ lanes ∧
      root = repo.repoRoot.joined [".axiom", "graph", solutionId, catalogDirname, lane]

theorem location_root {location : SnapshotLocation}
    (found : registry.location py solutionId projectId lane = .ok location) :
    LaneRoot registry solutionId projectId lane location.root := by
  obtain ⟨binding, bound, found⟩ := bind_eq_ok.mp found
  obtain ⟨solution, here, bound⟩ := bind_eq_ok.mp bound
  obtain ⟨checked, laned, done⟩ := bind_eq_ok.mp found
  cases done
  obtain ⟨registered, called⟩ := solution_ok here
  obtain ⟨rfl, known⟩ := checkLane_ok laned
  split at bound
  · next repo host =>
    cases bound
    refine ⟨solution, registered, repo, List.mem_of_find?_eq_some host, called, ?_, known, ?_⟩
    · simpa using List.find?_some host
    · simp [ProjectBinding.graphRoot, Path.joined, Path.child, graphOutputRoot]
  · cases bound

theorem catalogLocation_root {location : CatalogLocation}
    (found : registry.catalogLocation py solutionId lane = .ok location) :
    CatalogRoot registry solutionId lane location.root := by
  obtain ⟨solution, here, found⟩ := bind_eq_ok.mp found
  obtain ⟨checked, laned, found⟩ := bind_eq_ok.mp found
  obtain ⟨repo, hosting, done⟩ := bind_eq_ok.mp found
  cases done
  obtain ⟨registered, rfl⟩ := solution_ok here
  obtain ⟨rfl, known⟩ := checkLane_ok laned
  unfold SolutionBinding.catalogRepository SolutionBinding.repository at hosting
  split at hosting
  · next host =>
    cases hosting
    refine ⟨solution, registered, repo, List.mem_of_find?_eq_some host, rfl, ?_, known, ?_⟩
    · simpa using List.find?_some host
    · simp [Path.joined, Path.child, graphOutputRoot]
  · cases hosting

/-! ### Separate roots -/

/-- Lanes and catalogs have roots of their own below their repositories, and the home holds none. -/
structure SnapshotRegistry.Separate (py : Interpreter) (registry : SnapshotRegistry) : Prop where
  lanes : ∀ solutionId projectId lane solutionId' projectId' lane' location location',
    registry.location py solutionId projectId lane = .ok location →
    registry.location py solutionId' projectId' lane' = .ok location' →
    location.root.normal = location'.root.normal →
    (solutionId, projectId, lane) = (solutionId', projectId', lane')
  catalogs : ∀ solutionId projectId lane solutionId' lane' location catalog,
    registry.location py solutionId projectId lane = .ok location →
    registry.catalogLocation py solutionId' lane' = .ok catalog →
    location.root.normal ≠ catalog.root.normal
  laneUnder : ∀ solutionId projectId lane location,
    registry.location py solutionId projectId lane = .ok location →
    ∃ solution ∈ registry.solutions, ∃ repo ∈ solution.repositories, solution.solutionId = solutionId ∧
      projectId ∈ repo.projectIds ∧ repo.repoRoot.Above location.root ∧
        repo.repoRoot.normal.Above location.root.normal
  catalogUnder : ∀ solutionId lane catalog,
    registry.catalogLocation py solutionId lane = .ok catalog →
    ∃ solution ∈ registry.solutions, ∃ repo ∈ solution.repositories, solution.solutionId = solutionId ∧
      repo.repoId = solution.catalogHostRepo ∧ repo.repoRoot.Above catalog.root ∧
        repo.repoRoot.normal.Above catalog.root.normal
  outside : ∀ solution ∈ registry.solutions, ∀ repo ∈ solution.repositories,
    ¬ registry.axiomHome.normal.Contains repo.repoRoot.normal

theorem lanes_plain (known : lane ∈ lanes) : lane ≠ Path.parent := by
  rintro rfl
  revert known
  decide

/-- The root of a lane, with its parent segments collapsed. -/
theorem LaneRoot.normal {root : Path} (named : registry.Named)
    (lane_root : LaneRoot registry solutionId projectId lane root) :
    isIdentifier projectId = true ∧ ∃ solution ∈ registry.solutions, ∃ repo ∈ solution.repositories,
      solution.solutionId = solutionId ∧ projectId ∈ repo.projectIds ∧
      root = repo.repoRoot.joined [".axiom", "graph", solutionId, projectId, lane] ∧
      root.normal = repo.repoRoot.normal.joined [".axiom", "graph", solutionId, projectId, lane] := by
  obtain ⟨solution, registered, repo, hosted, rfl, hosts, known, rfl⟩ := lane_root
  have project := named.projects solution registered repo hosted projectId hosts
  refine ⟨project, solution, registered, repo, hosted, rfl, hosts, rfl, Path.normal_joined _ ?_⟩
  intro inside
  simp only [List.mem_cons, List.not_mem_nil, or_false] at inside
  rcases inside with same | same | same | same | same
  · exact absurd same (by decide)
  · exact absurd same (by decide)
  · exact (identifier_segment (named.solutions solution registered)).1 same.symm
  · exact (identifier_segment project).1 same.symm
  · exact lanes_plain known same.symm

/-- The root of a catalog, with its parent segments collapsed. -/
theorem CatalogRoot.normal {root : Path} (named : registry.Named)
    (catalog_root : CatalogRoot registry solutionId lane root) :
    ∃ solution ∈ registry.solutions, ∃ repo ∈ solution.repositories,
      solution.solutionId = solutionId ∧ repo.repoId = solution.catalogHostRepo ∧
      root = repo.repoRoot.joined [".axiom", "graph", solutionId, catalogDirname, lane] ∧
      root.normal = repo.repoRoot.normal.joined [".axiom", "graph", solutionId, catalogDirname, lane] := by
  obtain ⟨solution, registered, repo, hosted, rfl, hosts, known, rfl⟩ := catalog_root
  refine ⟨solution, registered, repo, hosted, rfl, hosts, rfl, Path.normal_joined _ ?_⟩
  intro inside
  simp only [List.mem_cons, List.not_mem_nil, or_false] at inside
  rcases inside with same | same | same | same | same
  · exact absurd same (by decide)
  · exact absurd same (by decide)
  · exact (identifier_segment (named.solutions solution registered)).1 same.symm
  · exact absurd same (by decide)
  · exact lanes_plain known same.symm

/-- Two joined paths of as many segments are equal in the segments. -/
theorem joined_segments {root root' : Path} {parts parts' : List Text}
    (same : root.joined parts = root'.joined parts') (length : parts.length = parts'.length) :
    parts = parts' :=
  (List.append_inj' (congrArg Path.parts same) length).2

/-- What an accepted document promises whatever its roots are. -/
theorem separate_of_outside (named : registry.Named)
    (outside : ∀ solution ∈ registry.solutions, ∀ repo ∈ solution.repositories,
      ¬ registry.axiomHome.normal.Contains repo.repoRoot.normal) : registry.Separate py where
  lanes := by
    intro solutionId projectId lane solutionId' projectId' lane' location location' found found' same
    obtain ⟨_, _, _, repo, _, _, _, _, normal⟩ := (location_root found).normal named
    obtain ⟨_, _, _, repo', _, _, _, _, normal'⟩ := (location_root found').normal named
    rw [normal, normal'] at same
    have segments := joined_segments same rfl
    simp only [List.cons.injEq, and_true, true_and] at segments
    obtain ⟨rfl, rfl, rfl⟩ := segments
    rfl
  catalogs := by
    intro solutionId projectId lane solutionId' lane' location catalog found found' same
    obtain ⟨project, _, _, repo, _, _, _, _, normal⟩ := (location_root found).normal named
    obtain ⟨_, _, repo', _, _, _, _, normal'⟩ := (catalogLocation_root found').normal named
    rw [normal, normal'] at same
    have segments := joined_segments same rfl
    simp only [List.cons.injEq, and_true, true_and] at segments
    exact (identifier_segment project).2 segments.2.1
  laneUnder := by
    intro solutionId projectId lane location found
    obtain ⟨_, solution, registered, repo, hosted, called, hosts, root, normal⟩ :=
      (location_root found).normal named
    refine ⟨solution, registered, repo, hosted, called, hosts, ?_, ?_⟩
    · rw [root]
      exact Path.above_joined _ (List.cons_ne_nil _ _)
    · rw [normal]
      exact Path.above_joined _ (List.cons_ne_nil _ _)
  catalogUnder := by
    intro solutionId lane catalog found
    obtain ⟨solution, registered, repo, hosted, called, hosts, root, normal⟩ :=
      (catalogLocation_root found).normal named
    refine ⟨solution, registered, repo, hosted, called, hosts, ?_, ?_⟩
    · rw [root]
      exact Path.above_joined _ (List.cons_ne_nil _ _)
    · rw [normal]
      exact Path.above_joined _ (List.cons_ne_nil _ _)
  outside := outside

/-! ### Out of the home -/

/-- The repository roots of a document. -/
def rootsIn (document : Json) : List Path :=
  (itemsOf document "solutions").flatMap fun solution =>
    (itemsOf solution "repositories").map fun repo => Path.ofText (textOf repo "repo_root")

/-- A root that is not spelled as a directory of the home, but leads into it by parent segments. -/
def LeadsInside (base root : Path) : Prop :=
  (base.Dotted ∨ root.Dotted) ∧ base.normal.Contains root.normal

instance decidableLeadsInside (base root : Path) : Decidable (LeadsInside base root) :=
  inferInstanceAs (Decidable (_ ∧ _))

/-- **An accepted registry is separate exactly when no root of its document leads into the home by parent
segments.** -/
theorem registry_separate_iff (accepted : parseRegistry py base document = .ok registry) :
    registry.Separate py ↔ ∀ root ∈ rootsIn document, ¬ LeadsInside base root := by
  obtain ⟨home, each⟩ := parseRegistry_ok accepted
  constructor
  · intro separate root member leads
    obtain ⟨entry, inside, listed⟩ := List.mem_flatMap.mp member
    obtain ⟨repoEntry, repoInside, rfl⟩ := List.mem_map.mp listed
    obtain ⟨solution, registered, bound⟩ := forall₂_left each inside
    obtain ⟨repo, hosted, repository⟩ := forall₂_left bound.repositories repoInside
    apply separate.outside solution registered repo hosted
    rw [home, repository.root]
    exact leads.2
  · intro outside
    refine separate_of_outside (named_of_accepted accepted) fun solution registered repo hosted inside => ?_
    obtain ⟨entry, entryInside, bound⟩ := forall₂_right each registered
    obtain ⟨repoEntry, repoInside, repository⟩ := forall₂_right bound.repositories hosted
    rw [home] at inside
    by_cases dotted : base.Dotted ∨ repo.repoRoot.Dotted
    · refine outside repo.repoRoot (List.mem_flatMap.mpr ⟨entry, entryInside, ?_⟩) ⟨dotted, inside⟩
      rw [repository.root]
      exact List.mem_map.mpr ⟨repoEntry, repoInside, rfl⟩
    · -- both are normal as they are spelled, and the check has compared them
      obtain ⟨plainBase, plainRoot⟩ := not_or.mp dotted
      rw [Path.normal_of_plain plainBase, Path.normal_of_plain plainRoot] at inside
      exact repository.outside inside

/-! ### A small document -/

/-- A document with one repository. -/
def sampleDocument (root : Text) : Json :=
  .obj [("schema_version", .int 1), ("instances", .arr [.obj [("instance_id", .str "local")]]),
    ("solutions", .arr [.obj [("solution_id", .str "shop"), ("instance_id", .str "local"),
      ("repositories", .arr [.obj [("repo_id", .str "repo"), ("repo_root", .str root),
        ("projects", .arr [.obj [("project_id", .str "core")]])]])]])]

/-- The home of the sample. -/
def sampleHome : Path := Path.ofText "/home/axiom"

/-- The registry of the document. -/
def sampleBindings (root : Text) : SnapshotRegistry :=
  ⟨sampleHome, [⟨"shop", "local", "repo", [⟨"repo", Path.ofText root, ["core"]⟩]⟩]⟩

/-- A root with parent segments that does not lead into the home. -/
theorem registry_separate_iff_sample : (sampleBindings "/home/other/../repo").Separate .ascii ↔
    ∀ root ∈ rootsIn (sampleDocument "/home/other/../repo"), ¬ LeadsInside sampleHome root :=
  registry_separate_iff (by decide +kernel)

/-- **A root is accepted that leads into the home**: `..` takes it there. -/
theorem registry_leadsInside : ∃ registry,
    parseRegistry .ascii sampleHome (sampleDocument "/home/other/../axiom/repo") = .ok registry ∧
      ¬ registry.Separate .ascii := by
  refine ⟨sampleBindings "/home/other/../axiom/repo", by decide +kernel, fun separate => ?_⟩
  refine separate.outside _ (.head _) _ (.head _) ?_
  decide +kernel

end Roots

end AxiomMcp.Snapshot
