/-
**Pinning a catalog (`catalog.py`, second half).**

`pinCatalog` resolves each member of a catalog through an opener, in the order of the project ids, to the
exact generation the catalog pins. `projectMemberOpener` is the opener of a live read. It turns an unknown
binding, a manifest that cannot be read, and a digest or source fingerprint other than the pinned one into
`CatalogMemberMissing`, which the loop records; `load_manifest_bytes` stands outside of its `try`, so a
manifest that can be read and is no manifest ends the loop.

* `pinCatalog_isolates_iff`: a vector with the right status for every member comes back **exactly** if
  every member passes (`Passes`): no readable manifest is refused by `load_manifest_bytes`;
* `pinCatalog_aborts`: one member whose manifest is not JSON, and no vector for the others.
-/

import AxiomMcp.Snapshot.Closed
import AxiomMcp.Snapshot.Registry

namespace AxiomMcp.Snapshot

open Lib Program
open Query (isSha256)

/-! ### The vector -/

/-- `CATALOG_FILENAME` -/
def catalogFilename : Text := "manifest.json"

/-- `MANIFEST_FILENAME` -/
def manifestFilename : Text := "manifest.json"

/-- `AVAILABLE` and `MISSING`. -/
inductive PinStatus
  | available | missing
  deriving DecidableEq

/-- One member of a vector: the member, and the generation it resolved to or the reason it did not. -/
structure MemberPin where
  member : CatalogMember
  status : PinStatus
  generationDir : Option Path
  manifest : Option Manifest
  reason : Option Text

/-- `pin.available` -/
def MemberPin.available (pin : MemberPin) : Bool := pin.status = .available

/-- The one generation vector a query runs against. -/
structure CatalogVector where
  catalogGenerationId : Text
  solutionId : Text
  coverage : Text
  pins : List MemberPin

namespace CatalogVector

/-- `vector.missing` -/
def missing (vector : CatalogVector) : List MemberPin := vector.pins.filter fun pin => !pin.available

/-- `vector.effective_coverage` -/
def effectiveCoverage (vector : CatalogVector) : Text :=
  if vector.missing ≠ [] ∧ vector.coverage ≠ "unsupported" then "partial" else vector.coverage

end CatalogVector

/-! ### Opening and pinning -/

section Pinning

variable (py : Interpreter) (sha256 : Bytes → Text)

/-- A `MemberOpener`. -/
abbrev MemberOpener := CatalogMember → FileProgram (Manifest × Path)

/-- `CatalogMemberMissing(project_id, message)` -/
def memberMissing (projectId message : Text) : Raised :=
  .catalog (.memberMissing projectId)
    (Text.format ["catalog member ", projectId.pyRepr py.isPrintable, ": ", message])

/-- `manifest.read_bytes(path)` -/
def readBytes (path : Path) : FileProgram Bytes :=
  .call (.readBytes path) fun reply => ofExcept (reply.mapError fun fault =>
    .manifest .unreadable (Text.format [path.name, " is unreadable: ", fault.name]))

/-- The `location_for(member.project_id)` of the opener. -/
def memberLocation (locationFor : Text → Except Raised SnapshotLocation) (member : CatalogMember) :
    FileProgram SnapshotLocation :=
  (ofExcept (locationFor member.projectId) : FileProgram SnapshotLocation).rescue fun raised =>
    match raised with
    | .registry .unknownBinding message => .raise (memberMissing py member.projectId message)
    | _ => .raise raised

/-- The `read_bytes` of the opener. -/
def memberBytes (member : CatalogMember) (directory : Path) : FileProgram Bytes :=
  (readBytes (directory.child manifestFilename)).rescue fun raised =>
    match raised with
    | .manifest _ message => .raise (memberMissing py member.projectId message)
    | _ => .raise raised

/-- The label of a generation's manifest. -/
def manifestLabel (generationId : Text) : Text := Text.format ["manifest ", generationId.take 12]

/-- The checks of the opener on the manifest it found. -/
def checkMember (member : CatalogMember) (found : Manifest) : Except Raised Unit :=
  if found.generationId sha256 ≠ member.generationId then
    .error (memberMissing py member.projectId (Text.format ["generation directory ", member.generationId.take 12,
      " holds manifest bytes ", (found.generationId sha256).take 12, ", not the pinned generation"]))
  else if found.sourceFingerprint ≠ member.sourceFingerprint then
    .error (memberMissing py member.projectId (Text.format ["generation ", member.generationId.take 12,
      " declares source fingerprint ", found.sourceFingerprint.take 12, ", not the pinned ",
      member.sourceFingerprint.take 12]))
  else .ok ()

/-- `project_member_opener(location_for)` -/
def projectMemberOpener (locationFor : Text → Except Raised SnapshotLocation) : MemberOpener :=
  fun member => do
    let location ← memberLocation py locationFor member
    let directory ← ofExcept (location.generationRoot py member.generationId)
    let raw ← memberBytes py member directory
    let found ← ofExcept (loadManifestBytes py raw (manifestLabel member.generationId))
    ofExcept (checkMember py sha256 member found)
    .done (found, directory)

/-- What the loop of `pin_catalog` makes of an opener's outcome. -/
def recordPin (member : CatalogMember) : Except Raised (Manifest × Path) → FileProgram MemberPin
  | .ok (found, directory) => .done ⟨member, .available, some directory, some found, none⟩
  | .error (.catalog (.memberMissing _) message) =>
    .done ⟨member, .missing, none, none, some message⟩
  | .error raised => .raise raised

/-- One round of the loop of `pin_catalog`. -/
def pinMember (openMember : MemberOpener) (member : CatalogMember) : FileProgram MemberPin :=
  (openMember member).resume (recordPin member)

/-- The loop of `pin_catalog`. -/
def pinMembers (openMember : MemberOpener) : List CatalogMember → FileProgram (List MemberPin)
  | [] => .done []
  | member :: rest => do
    let pin ← pinMember openMember member
    let pins ← pinMembers openMember rest
    .done (pin :: pins)

/-- `pin_catalog(catalog, open_member=open_member)` -/
def pinCatalog (catalog : Catalog) (openMember : MemberOpener) : FileProgram CatalogVector := do
  let pins ← pinMembers openMember catalog.vector
  .done ⟨catalog.generationId sha256, catalog.solutionId, catalog.coverage, pins⟩

/-! ### The catalog a lane points at -/

/-- `load_pointer(path)` -/
def loadPointer (path : Path) : FileProgram Pointer := do
  let raw ← readBytes path
  ofExcept (loadPointerBytes py raw path.name)

/-- `load_catalog(path)` -/
def loadCatalog (path : Path) : FileProgram Catalog := do
  let raw ← (.call (.readBytes path) fun reply => ofExcept (reply.mapError fun fault =>
    .catalog .unreadable (Text.format [path.name, " is unreadable: ", fault.name])) : FileProgram Bytes)
  ofExcept (loadCatalogBytes py raw path.name)

/-- `load_pinned_catalog_generation(location)` -/
def loadPinnedCatalogGeneration (location : CatalogLocation) : FileProgram (Catalog × Path) := do
  let pointer ← loadPointer py location.pointer
  let directory ← ofExcept (location.generationRoot py pointer.directoryName)
  let catalog ← loadCatalog py (directory.child catalogFilename)
  if directory.name ≠ catalog.generationId sha256 then
    .raise (catalogInvalid (Text.format ["catalog generation directory ", directory.name,
      " does not match the catalog bytes ", catalog.generationId sha256]))
  else if pointer.generationId ≠ catalog.generationId sha256 then
    .raise (catalogInvalid (Text.format ["catalog pointer generation_id ", pointer.generationId,
      " does not match the canonical catalog bytes ", catalog.generationId sha256]))
  else .done (catalog, directory)

/-- `load_solution_catalog(location)` -/
def loadSolutionCatalog (location : CatalogLocation) : FileProgram Catalog := do
  let (catalog, _) ← loadPinnedCatalogGeneration py sha256 location
  .done catalog

end Pinning

/-! ### Members that pass -/

section Members

variable (py : Interpreter) (sha256 : Bytes → Text) (files : Files)
  (locationFor : Text → Except Raised SnapshotLocation)

/-- The manifest bytes in the directory that the member's binding and pin name. -/
def HoldsManifest (member : CatalogMember) (raw : Bytes) : Prop :=
  ∃ location directory, locationFor member.projectId = .ok location ∧
    location.generationRoot py member.generationId = .ok directory ∧
      files.contents (directory.child manifestFilename) = .ok raw

/-- The member's manifest is valid, hashes to the pinned id and has the pinned fingerprint. -/
def ValidMember (member : CatalogMember) : Prop :=
  ∃ raw manifest, HoldsManifest py files locationFor member raw ∧
    loadManifestBytes py raw (manifestLabel member.generationId) = .ok manifest ∧
      manifest.generationId sha256 = member.generationId ∧
        manifest.sourceFingerprint = member.sourceFingerprint

/-- An exception by which a binding says that a member is missing. -/
def ReportsMissing (raised : Raised) : Prop :=
  (∃ message, raised = unknownBinding message) ∨
    ∃ projectId message, raised = .catalog (.memberMissing projectId) message

/-- A member whose failure, if it fails, is recorded. -/
structure Passes (member : CatalogMember) : Prop where
  located : Raises ReportsMissing (locationFor member.projectId)
  named : ∀ location, locationFor member.projectId = .ok location → isSha256 member.generationId = true
  accepted : ∀ raw, HoldsManifest py files locationFor member raw →
    ∃ manifest, loadManifestBytes py raw (manifestLabel member.generationId) = .ok manifest

/-- A vector that records each member of the catalog by its own state. -/
structure Isolated (catalog : Catalog) (vector : CatalogVector) : Prop where
  members : vector.pins.map MemberPin.member = catalog.vector
  status : ∀ pin ∈ vector.pins, pin.status = .available ↔
    ValidMember py sha256 files locationFor pin.member
  coverage : vector.missing ≠ [] → vector.effectiveCoverage ≠ "complete_for_profile"

end Members

/-! ### One member -/

section Isolation

variable {py : Interpreter} {sha256 : Bytes → Text} {files : Files}
  {locationFor : Text → Except Raised SnapshotLocation} {member : CatalogMember}

/-- Anything but the report of a missing member. -/
def NoReport (raised : Raised) : Prop :=
  ∀ projectId message, raised ≠ .catalog (.memberMissing projectId) message

/-- An exception of reading and checking a document. -/
def OfDocument : Raised → Prop
  | .manifest _ _ => True
  | .unicodeEncode => True
  | .tooManyDigits _ => True
  | .unprintable => True
  | .recursion => True
  | _ => False

theorem OfDocument.noReport {raised : Raised} (named : OfDocument raised) : NoReport raised := by
  rintro projectId message rfl
  exact named

theorem ofDocument_manifest {raised : Raised} (named : IsManifestError raised) : OfDocument raised := by
  obtain ⟨kind, message, rfl⟩ := named
  exact trivial

theorem raises_parseBytes (raw : Bytes) (what : Text) : Raises OfDocument (parseBytes py raw what) := by
  refine Raises.bind ?_ fun text => ?_
  · unfold decodeUtf8
    split
    · exact .error trivial
    · split
      · exact .error trivial
      · exact .ok _
  · unfold parseJson
    split
    · exact .ok _
    all_goals exact .error trivial

theorem raises_canonicalBytes (value : Json) : Raises OfDocument (canonicalBytes py value) := by
  refine Raises.bind ?_ fun text => ?_
  · show Raises OfDocument (if canonicalizationReasons value ≠ [] then _ else _)
    split
    · exact .error trivial
    · split
      · exact .error trivial
      · exact .ok _
  · split
    · exact .error trivial
    · exact .ok _

/-- What reading a manifest may raise. -/
theorem raises_loadManifestBytes (raw : Bytes) (what : Text) :
    Raises OfDocument (loadManifestBytes py raw what) := by
  have field : ∀ {α : Type} {x : Except Raised α}, Raises IsManifestError x → Raises OfDocument x :=
    fun raises => raises.mono fun _ => ofDocument_manifest
  refine (raises_parseBytes raw what).bind fun value => ?_
  refine (field (raises_requireObject value what)).bind fun document => ?_
  refine (field (raises_requireSchemaMajor document what)).bind fun _ => ?_
  refine Raises.bind ?_ fun _ => ?_
  · unfold requireCanonical
    split
    · exact .error trivial
    · next raised _ failed => exact .error (raises_canonicalBytes _ _ failed)
    · split
      · exact .error trivial
      · exact .ok _
  refine Raises.bind (Raises.forM (fun name => ?_) _) fun _ => ?_
  · unfold refuseSelfHash
    split
    · exact .error trivial
    · exact .ok _
  refine (field (raises_requireExactKeys _ _ _)).bind fun _ => ?_
  refine (field (raises_checkedField _ _ _ _ _)).bind fun _ => ?_
  refine (field (raises_checkedField _ _ _ _ _)).bind fun _ => ?_
  refine (field (raises_checkedField _ _ _ _ _)).bind fun _ => ?_
  refine (field (raises_checkedField _ _ _ _ _)).bind fun _ => ?_
  refine (field (raises_checkedField _ _ _ _ _)).bind fun _ => ?_
  refine (field (raises_checkedField _ _ _ _ _)).bind fun _ => ?_
  refine (field (raises_checkedField _ _ _ _ _)).bind fun _ => ?_
  refine (field (raises_checkedField _ _ _ _ _)).bind fun _ => ?_
  refine (field (raises_validateCoverage _ _)).bind fun _ => ?_
  exact (field (raises_validateFiles _ _)).bind fun _ => .ok _

/-- What an opener can come to, for one member. -/
inductive Opened (py : Interpreter) (sha256 : Bytes → Text) (files : Files)
    (locationFor : Text → Except Raised SnapshotLocation) (member : CatalogMember) :
    Except Raised (Manifest × Path) → Prop
  /-- It reports the member missing. -/
  | reported (projectId message : Text) (passes : Passes py files locationFor member)
      (not_valid : ¬ ValidMember py sha256 files locationFor member) :
      Opened py sha256 files locationFor member (.error (.catalog (.memberMissing projectId) message))
  | found (opened : Manifest × Path) (passes : Passes py files locationFor member)
      (valid : ValidMember py sha256 files locationFor member) :
      Opened py sha256 files locationFor member (.ok opened)
  /-- Another exception escapes. -/
  | escaped (raised : Raised) (other : NoReport raised) (fails : ¬ Passes py files locationFor member) :
      Opened py sha256 files locationFor member (.error raised)

/-- A member without a location has no manifest. -/
theorem not_holds_unlocated {raised : Raised} (located : locationFor member.projectId = .error raised)
    (raw : Bytes) : ¬ HoldsManifest py files locationFor member raw := by
  rintro ⟨_, _, other, _⟩
  rw [located] at other
  cases other

variable (files locationFor) in
theorem memberLocation_against (member : CatalogMember) :
    (∃ location, locationFor member.projectId = .ok location ∧
      (memberLocation py locationFor member).against files.reply = some (.ok location)) ∨
    (∃ projectId message, Raises ReportsMissing (locationFor member.projectId) ∧
      (∃ raised, locationFor member.projectId = .error raised) ∧
        (memberLocation py locationFor member).against files.reply =
          some (.error (.catalog (.memberMissing projectId) message))) ∨
    ∃ raised, NoReport raised ∧ ¬ Raises ReportsMissing (locationFor member.projectId) ∧
      (memberLocation py locationFor member).against files.reply = some (.error raised) := by
  unfold memberLocation
  cases located : locationFor member.projectId with
  | ok location => exact Or.inl ⟨location, rfl, rfl⟩
  | error raised =>
    by_cases reports : ReportsMissing raised
    · refine Or.inr (Or.inl ?_)
      rcases reports with ⟨message, rfl⟩ | ⟨projectId, message, rfl⟩
      · exact ⟨_, _, Raises.error (Or.inl ⟨message, rfl⟩), ⟨_, rfl⟩, rfl⟩
      · exact ⟨_, _, Raises.error (Or.inr ⟨projectId, message, rfl⟩), ⟨_, rfl⟩, rfl⟩
    · refine Or.inr (Or.inr ⟨raised, ?_, fun all => reports (all raised rfl), ?_⟩)
      · exact fun projectId message same => reports (Or.inr ⟨projectId, message, same⟩)
      · -- no handler applies
        cases raised with
        | registry kind message =>
          cases kind with
          | unknownBinding => exact (reports (Or.inl ⟨message, rfl⟩)).elim
          | unreadable => rfl
          | unsupportedMajor => rfl
          | untrustedPath => rfl
        | _ => rfl

theorem memberBytes_against (member : CatalogMember) (directory : Path) :
    (memberBytes py member directory).against files.reply =
      some (match files.contents (directory.child manifestFilename) with
        | .ok raw => .ok raw
        | .error fault => .error (memberMissing py member.projectId
            (Text.format [(directory.child manifestFilename).name, " is unreadable: ", fault.name]))) := by
  show ((readBytes _).resume _).against files.reply = _
  rw [against_resume]
  show ((ofExcept ((files.contents (directory.child manifestFilename)).mapError _) :
    FileProgram Bytes).against files.reply).bind _ = _
  rw [against_ofExcept]
  cases files.contents (directory.child manifestFilename) with
  | ok raw => rfl
  | error fault => rfl

/-- What the checks of the opener say. -/
theorem checkMember_ok {found : Manifest} :
    checkMember py sha256 member found = .ok () ↔
      found.generationId sha256 = member.generationId ∧
        found.sourceFingerprint = member.sourceFingerprint := by
  unfold checkMember
  split
  · next other => exact iff_of_false (fun none => nomatch none) fun both => other both.1
  · next same =>
    split
    · next other => exact iff_of_false (fun none => nomatch none) fun both => other both.2
    · next also => exact iff_of_true rfl ⟨not_not.mp same, not_not.mp also⟩

theorem checkMember_error {found : Manifest} {raised : Raised}
    (refused : checkMember py sha256 member found = .error raised) :
    ∃ message, raised = memberMissing py member.projectId message := by
  unfold checkMember at refused
  split at refused
  · exact ⟨_, (Except.error.inj refused).symm⟩
  · split at refused
    · exact ⟨_, (Except.error.inj refused).symm⟩
    · cases refused

variable (py sha256 files locationFor) in
/-- The opener, on a file system that nobody changes. -/
theorem opener_against (member : CatalogMember) :
    ∃ outcome, (projectMemberOpener py sha256 locationFor member).against files.reply = some outcome ∧
      Opened py sha256 files locationFor member outcome := by
  unfold projectMemberOpener
  rcases memberLocation_against files locationFor member with
    ⟨location, located, ends⟩ | ⟨projectId, message, reports, ⟨raised, located⟩, ends⟩ |
      ⟨raised, other, fails, ends⟩
  · rw [against_bind ends]
    show ∃ outcome, (ofExcept (location.generationRoot py member.generationId) >>= _ :
      FileProgram (Manifest × Path)).against files.reply = some outcome ∧ _
    rw [against_bind (against_ofExcept _)]
    have unique : ∀ {other}, locationFor member.projectId = .ok other → other = location :=
      fun found => (Except.ok.inj (located.symm.trans found)).symm
    have located' : Raises ReportsMissing (locationFor member.projectId) := located ▸ Raises.ok _
    cases named : isSha256 member.generationId with
    | false =>
      have refused : location.generationRoot py member.generationId = .error (untrusted
          (Text.format ["generation id is not a 64 character hex digest: ",
            member.generationId.pyRepr py.isPrintable])) := by
        unfold SnapshotLocation.generationRoot generationDirectoryName
        rw [named]
        rfl
      rw [refused]
      refine ⟨_, rfl, .escaped _ (fun _ _ same => nomatch same) fun passes => ?_⟩
      rw [passes.named location located] at named
      cases named
    | true =>
      obtain ⟨directory, rooted⟩ : ∃ directory, location.generationRoot py member.generationId =
          .ok directory := by
        unfold SnapshotLocation.generationRoot generationDirectoryName
        rw [named]
        exact ⟨_, rfl⟩
      rw [rooted]
      have holds : ∀ {raw}, HoldsManifest py files locationFor member raw ↔
          files.contents (directory.child manifestFilename) = .ok raw := by
        intro raw
        constructor
        · rintro ⟨other, there, found, root, held⟩
          obtain rfl := unique found
          obtain rfl := Except.ok.inj (rooted.symm.trans root)
          exact held
        · exact fun held => ⟨location, directory, located, rooted, held⟩
      have passing : (∀ raw, files.contents (directory.child manifestFilename) = .ok raw →
          ∃ manifest, loadManifestBytes py raw (manifestLabel member.generationId) = .ok manifest) →
            Passes py files locationFor member := fun accepted =>
        ⟨located', fun _ _ => named, fun raw held => accepted raw (holds.mp held)⟩
      show ∃ outcome, (memberBytes py member directory >>= _ :
        FileProgram (Manifest × Path)).against files.reply = some outcome ∧ _
      rw [against_bind (memberBytes_against member directory)]
      cases held : files.contents (directory.child manifestFilename) with
      | error fault =>
        refine ⟨_, rfl, .reported _ _ (passing fun raw read => ?_) ?_⟩
        · rw [held] at read
          cases read
        · rintro ⟨raw, _, read, _⟩
          rw [holds, held] at read
          cases read
      | ok raw =>
        show ∃ outcome, (ofExcept (loadManifestBytes py raw (manifestLabel member.generationId)) >>= _ :
          FileProgram (Manifest × Path)).against files.reply = some outcome ∧ _
        rw [against_bind (against_ofExcept _)]
        cases loaded : loadManifestBytes py raw (manifestLabel member.generationId) with
        | error raised =>
          refine ⟨_, rfl, .escaped raised (raises_loadManifestBytes _ _ _ loaded).noReport fun passes => ?_⟩
          obtain ⟨manifest, accepted⟩ := passes.accepted raw (holds.mpr held)
          rw [loaded] at accepted
          cases accepted
        | ok manifest =>
          have passes := passing fun other read => by
            obtain rfl := Except.ok.inj (held.symm.trans read)
            exact ⟨manifest, loaded⟩
          show ∃ outcome, (ofExcept (checkMember py sha256 member manifest) >>= _ :
            FileProgram (Manifest × Path)).against files.reply = some outcome ∧ _
          rw [against_bind (against_ofExcept _)]
          cases checked : checkMember py sha256 member manifest with
          | error raised =>
            obtain ⟨message, rfl⟩ := checkMember_error checked
            refine ⟨_, rfl, .reported _ _ passes ?_⟩
            rintro ⟨other, found, read, accepted, both⟩
            obtain rfl := Except.ok.inj (held.symm.trans (holds.mp read))
            obtain rfl := Except.ok.inj (loaded.symm.trans accepted)
            rw [checkMember_ok.mpr both] at checked
            cases checked
          | ok _ =>
            exact ⟨_, rfl, .found _ passes ⟨raw, manifest, holds.mpr held, loaded,
              checkMember_ok.mp checked⟩⟩
  · rw [against_bind ends]
    refine ⟨_, rfl, .reported _ _ ⟨reports, fun location found => ?_, fun raw held => ?_⟩ ?_⟩
    · rw [located] at found
      cases found
    · exact (not_holds_unlocated located raw held).elim
    · rintro ⟨raw, _, held, _⟩
      exact not_holds_unlocated located raw held
  · rw [against_bind ends]
    exact ⟨_, rfl, .escaped raised other fun passes => fails passes.located⟩

/-! ### The vector -/

/-- A pin that records its member by the member's own state. -/
def Recorded (py : Interpreter) (sha256 : Bytes → Text) (files : Files)
    (locationFor : Text → Except Raised SnapshotLocation) (member : CatalogMember) (pin : MemberPin) : Prop :=
  pin.member = member ∧ (pin.status = .available ↔ ValidMember py sha256 files locationFor member)

theorem recordPin_escaped (member : CatalogMember) {raised : Raised} (other : NoReport raised) :
    recordPin member (.error raised) = .raise raised := by
  unfold recordPin
  split
  · rename_i same
    cases same
  · rename_i same
    exact (other _ _ (Except.error.inj same)).elim
  · rename_i same
    exact congrArg _ (Except.error.inj same).symm

variable (py sha256 files locationFor) in
/-- One round of the loop: a member that passes is recorded, and any other ends the loop. -/
theorem pinMember_against (member : CatalogMember) :
    (Passes py files locationFor member ∧ ∃ pin, Recorded py sha256 files locationFor member pin ∧
      (pinMember (projectMemberOpener py sha256 locationFor) member).against files.reply =
        some (.ok pin)) ∨
    (¬ Passes py files locationFor member ∧ ∃ raised,
      (pinMember (projectMemberOpener py sha256 locationFor) member).against files.reply =
        some (.error raised)) := by
  obtain ⟨outcome, ends, opened⟩ := opener_against py sha256 files locationFor member
  unfold pinMember
  rw [against_resume, ends]
  cases opened with
  | reported projectId message passes not_valid =>
    refine Or.inl ⟨passes, ⟨member, .missing, none, none, some message⟩, ⟨rfl, ?_⟩, rfl⟩
    exact iff_of_false (fun same => nomatch same) not_valid
  | found opened passes valid => exact Or.inl ⟨passes, _, ⟨rfl, iff_of_true rfl valid⟩, rfl⟩
  | escaped raised other fails =>
    refine Or.inr ⟨fails, raised, ?_⟩
    show (recordPin member (.error raised)).against files.reply = _
    rw [recordPin_escaped member other]
    rfl

variable (py sha256 files locationFor) in
/-- The loop: it comes to its end exactly if all members pass. -/
theorem pinMembers_against (members : List CatalogMember) :
    ((∀ member ∈ members, Passes py files locationFor member) ∧
      ∃ pins, List.Forall₂ (Recorded py sha256 files locationFor) members pins ∧
        (pinMembers (projectMemberOpener py sha256 locationFor) members).against files.reply =
          some (.ok pins)) ∨
    ((∃ member ∈ members, ¬ Passes py files locationFor member) ∧ ∃ raised,
      (pinMembers (projectMemberOpener py sha256 locationFor) members).against files.reply =
        some (.error raised)) := by
  induction members with
  | nil => exact Or.inl ⟨fun _ none => (nomatch none), [], .nil, rfl⟩
  | cons member rest ih =>
    unfold pinMembers
    rcases pinMember_against py sha256 files locationFor member with
      ⟨passes, pin, recorded, ends⟩ | ⟨fails, raised, ends⟩
    · rw [against_bind ends]
      show (_ ∧ ∃ pins, _ ∧ (pinMembers _ rest >>= _ : FileProgram (List MemberPin)).against
        files.reply = _) ∨ (_ ∧ ∃ raised, (pinMembers _ rest >>= _ :
          FileProgram (List MemberPin)).against files.reply = _)
      rcases ih with ⟨all, pins, each, last⟩ | ⟨⟨other, here, fails⟩, raised, last⟩
      · rw [against_bind last]
        refine Or.inl ⟨fun other here => ?_, _, .cons recorded each, rfl⟩
        rcases List.mem_cons.mp here with rfl | later
        · exact passes
        · exact all other later
      · rw [against_bind last]
        exact Or.inr ⟨⟨other, List.mem_cons_of_mem _ here, fails⟩, raised, rfl⟩
    · rw [against_bind ends]
      exact Or.inr ⟨⟨member, List.mem_cons_self, fails⟩, raised, rfl⟩

/-- A vector with a missing member is not complete, whatever the catalog claims. -/
theorem effectiveCoverage_missing {vector : CatalogVector} (missing : vector.missing ≠ []) :
    vector.effectiveCoverage ≠ "complete_for_profile" := by
  unfold CatalogVector.effectiveCoverage
  split
  · decide
  · next none =>
    have same : vector.coverage = "unsupported" := by
      by_contra other
      exact none ⟨missing, other⟩
    rw [same]
    decide

theorem recorded_all {members : List CatalogMember} {pins : List MemberPin}
    (each : List.Forall₂ (Recorded py sha256 files locationFor) members pins) :
    pins.map MemberPin.member = members ∧ ∀ pin ∈ pins, pin.status = .available ↔
      ValidMember py sha256 files locationFor pin.member := by
  induction each with
  | nil => exact ⟨rfl, fun _ none => nomatch none⟩
  | @cons member pin members pins recorded _ ih =>
    refine ⟨List.cons_eq_cons.mpr ⟨recorded.1, ih.1⟩, fun other here => ?_⟩
    rcases List.mem_cons.mp here with rfl | later
    · rw [recorded.1]
      exact recorded.2
    · exact ih.2 other later

variable (py sha256 files locationFor) in
/-- The pinning, on a file system that nobody changes. -/
theorem pinCatalog_against (catalog : Catalog) :
    ((∀ member ∈ catalog.members, Passes py files locationFor member) ∧
      ∃ vector, (pinCatalog sha256 catalog (projectMemberOpener py sha256 locationFor)).against
        files.reply = some (.ok vector) ∧ Isolated py sha256 files locationFor catalog vector) ∨
    ((∃ member ∈ catalog.members, ¬ Passes py files locationFor member) ∧
      ∃ raised, (pinCatalog sha256 catalog (projectMemberOpener py sha256 locationFor)).against
        files.reply = some (.error raised)) := by
  unfold pinCatalog
  have same : ∀ {member}, member ∈ catalog.vector ↔ member ∈ catalog.members := mem_sortedBy _ _
  rcases pinMembers_against py sha256 files locationFor catalog.vector with
    ⟨all, pins, each, ends⟩ | ⟨⟨member, here, fails⟩, raised, ends⟩
  · rw [against_bind ends]
    have both := recorded_all each
    exact Or.inl ⟨fun member here => all member (same.mpr here), _, rfl, both.1, both.2,
      effectiveCoverage_missing⟩
  · rw [against_bind ends]
    exact Or.inr ⟨⟨member, same.mp here, fails⟩, raised, rfl⟩

/-- Two file systems that hold the same for one member. -/
def SameState (py : Interpreter) (locationFor : Text → Except Raised SnapshotLocation)
    (files files' : Files) (member : CatalogMember) : Prop :=
  ∀ raw, HoldsManifest py files locationFor member raw ↔ HoldsManifest py files' locationFor member raw

theorem SameState.valid {files' : Files} (same : SameState py locationFor files files' member) :
    ValidMember py sha256 files locationFor member ↔ ValidMember py sha256 files' locationFor member :=
  exists_congr fun raw => exists_congr fun _ => and_congr_left' (same raw)

/-- **Pinning a catalog isolates its members exactly if every one of them passes.** The members of a vector
that comes back are recorded by their own state, whatever the others hold. -/
theorem pinCatalog_isolates_iff (py : Interpreter) (sha256 : Bytes → Text)
    (locationFor : Text → Except Raised SnapshotLocation) (catalog : Catalog) (files : Files) :
    ((∃ vector, (pinCatalog sha256 catalog (projectMemberOpener py sha256 locationFor)).against
        files.reply = some (.ok vector) ∧ Isolated py sha256 files locationFor catalog vector) ↔
      ∀ member ∈ catalog.members, Passes py files locationFor member) ∧
    ∀ (files' : Files) (vector vector' : CatalogVector),
      (pinCatalog sha256 catalog (projectMemberOpener py sha256 locationFor)).against files.reply =
        some (.ok vector) →
      (pinCatalog sha256 catalog (projectMemberOpener py sha256 locationFor)).against files'.reply =
        some (.ok vector') →
      ∀ pin ∈ vector.pins, ∀ pin' ∈ vector'.pins, pin.member = pin'.member →
        SameState py locationFor files files' pin.member → pin.status = pin'.status := by
  constructor
  · rcases pinCatalog_against py sha256 files locationFor catalog with
      ⟨all, returned⟩ | ⟨⟨member, here, fails⟩, raised, ends⟩
    · exact iff_of_true returned all
    · refine iff_of_false ?_ fun all => fails (all member here)
      rintro ⟨vector, returned, _⟩
      rw [ends] at returned
      cases returned
  · intro files' vector vector' returned returned' pin here pin' here' member state
    have isolated : ∀ {files : Files} {vector : CatalogVector},
        (pinCatalog sha256 catalog (projectMemberOpener py sha256 locationFor)).against files.reply =
          some (.ok vector) → Isolated py sha256 files locationFor catalog vector := by
      intro files vector returned
      rcases pinCatalog_against py sha256 files locationFor catalog with
        ⟨_, other, ends, isolated⟩ | ⟨_, raised, ends⟩
      · rw [ends] at returned
        cases returned
        exact isolated
      · rw [ends] at returned
        cases returned
    have available : pin.status = .available ↔ pin'.status = .available := by
      rw [(isolated returned).status pin here, (isolated returned').status pin' here', ← member]
      exact state.valid
    cases first : pin.status <;> cases second : pin'.status
    · rfl
    · rw [first, second] at available
      cases available.mp rfl
    · rw [first, second] at available
      cases available.mpr rfl
    · rfl

/-- A member of a loaded catalog, bound by the registry, passes exactly if its manifest is accepted where
it can be read. -/
theorem passes_iff {payload : Bytes} {what : Text} {catalog : Catalog} {registry : SnapshotRegistry}
    {solutionId lane : Text} (loaded : loadCatalogBytes py payload what = .ok catalog)
    (laned : lane ∈ lanes) (here : member ∈ catalog.members) :
    Passes py files (fun projectId => registry.location py solutionId projectId lane) member ↔
      ∀ raw, HoldsManifest py files (fun projectId => registry.location py solutionId projectId lane)
        member raw →
        ∃ manifest, loadManifestBytes py raw (manifestLabel member.generationId) = .ok manifest := by
  refine ⟨Passes.accepted, fun accepted => ⟨?_, fun _ _ => ?_, accepted⟩⟩
  · have unknown : ∀ message, ReportsMissing (unknownBinding message) := fun message => Or.inl ⟨message, rfl⟩
    refine Raises.bind (Raises.bind ?_ fun entry => ?_) fun binding => ?_
    · unfold SnapshotRegistry.solution
      split
      · exact Raises.ok _
      · exact Raises.error (unknown _)
    · split
      · exact Raises.ok _
      · exact Raises.error (unknown _)
    · unfold ProjectBinding.location checkLane
      rw [if_pos laned]
      exact Raises.ok _
  · exact (loadCatalogBytes_members loaded).generations member here

end Isolation

/-! ### A manifest that is not JSON -/

/-- The generation of `core`, and a directory of `other` whose manifest was cut off after one byte. -/
def cutFiles : Files := .plain
  [(((sampleRoot "core").joined ["generations", sampleId, "manifest.json"]), sampleManifest "core"),
    (((sampleRoot "other").joined ["generations", twinId, "manifest.json"]), bytesOf "\x7b")]

/-- One member whose manifest is not JSON, and the other, which is valid, is not recorded either. -/
theorem pinCatalog_aborts :
    loadCatalogBytes .ascii sampleCatalogBytes "manifest.json" = .ok sampleCatalog ∧
    ValidMember .ascii sampleDigest cutFiles sampleLocation ⟨"core", sampleId, zeros⟩ ∧
    ¬ ∃ vector, (pinCatalog sampleDigest sampleCatalog
        (projectMemberOpener .ascii sampleDigest sampleLocation)).against cutFiles.reply =
          some (.ok vector) ∧ Isolated .ascii sampleDigest cutFiles sampleLocation sampleCatalog vector := by
  refine ⟨sampleCatalog_loads, ?_, ?_⟩
  · have found : ((projectMemberOpener .ascii sampleDigest sampleLocation
        ⟨"core", sampleId, zeros⟩).against cutFiles.reply).map Except.isOk = some true := by
      decide +kernel
    obtain ⟨outcome, ends, opened⟩ := opener_against .ascii sampleDigest cutFiles sampleLocation
      ⟨"core", sampleId, zeros⟩
    rw [ends] at found
    cases opened with
    | reported => cases found
    | found _ _ valid => exact valid
    | escaped => cases found
  · rintro ⟨vector, returned, _⟩
    have aborted : ((pinCatalog sampleDigest sampleCatalog
        (projectMemberOpener .ascii sampleDigest sampleLocation)).against cutFiles.reply).map
          Except.isOk = some false := by decide +kernel
    rw [returned] at aborted
    cases aborted

end AxiomMcp.Snapshot
