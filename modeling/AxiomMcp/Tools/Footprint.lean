/-
**What a query reads of the store (`graph_query`).**

A query asks the file system for the catalog that its solution's pointer names, and for the generations that this
catalog pins. Everything else of the store may change without being seen.

* `Footprint`: the questions about the catalog and the pinned generations, in some state of the store;
* `loadVector_along`, `load_along`, `loadScope_along`: a query asks no other questions;
* `footprint_agree`: stores that agree on the footprint of one of them have one footprint;
* `graphQuery_footprint`: **a query asks nothing else of the files**, whatever it answers;
* `graphQuery_pinned`: **two stores that agree there have the same runs of a query, with the same answers and the
  same errors**.
-/

import AxiomMcp.Lib.Answers
import AxiomMcp.Snapshot.Inside
import AxiomMcp.Snapshot.RegistryDocument
import AxiomMcp.Tools.CoverageReports

namespace AxiomMcp.Tools

open Lib Program Machine
open Snapshot (Catalog CatalogMember FileOp FileProgram ReadOp ReadReply ReadProgram ReadSession SnapshotLocation
  catalogFilename copyEach copyShard copyShards generationsDirname loadCatalog loadCatalogBytes
  loadPinnedCatalogGeneration loadPointer loadPointerBytes loadSolutionCatalog manifestFilename onFiles onGuard
  pinCatalog pinMember pinMembers projectMemberOpener resolvePath shardPath CatalogVector MemberPin)

/-! ### The footprint of a query -/

section Definitions

variable {Time : Type} (context : ToolContext Time) (files : Snapshot.Files) (solutionId : Text)

/-- The catalog generation that the pointer of a solution's lane names. -/
def CatalogDirectory (directory : Snapshot.Path) : Prop :=
  ∃ location raw pointer,
    context.registry.catalogLocation context.interpreter solutionId queryLane = .ok location ∧
      files.contents location.pointer = .ok raw ∧
        loadPointerBytes context.interpreter raw location.pointer.name = .ok pointer ∧
          location.generationRoot context.interpreter pointer.directoryName = .ok directory

/-- The catalog in it. -/
def NamesCatalog (catalog : Catalog) : Prop :=
  ∃ directory raw, CatalogDirectory context files solutionId directory ∧
    files.contents (directory.child catalogFilename) = .ok raw ∧
      loadCatalogBytes context.interpreter raw catalogFilename = .ok catalog

/-- A generation that the catalog pins for one of some projects, and the lane it is of. -/
def PinsGeneration (among : Text → Prop) (location : SnapshotLocation) (generationId : Text) : Prop :=
  ∃ catalog member, NamesCatalog context files solutionId catalog ∧ member ∈ catalog.vector ∧
    among member.projectId ∧
      context.registry.location context.interpreter solutionId member.projectId queryLane = .ok location ∧
        member.generationId = generationId

/-- The directory of a pinned generation. -/
structure PinnedDirectory (among : Text → Prop) (location : SnapshotLocation) (generationId : Text)
    (directory : Snapshot.Path) : Prop where
  pins : PinsGeneration context files solutionId among location generationId
  rooted : location.generationRoot context.interpreter generationId = .ok directory

/-- **What a query may ask**: the catalog, and what is below the directory of a pinned generation. -/
inductive Footprint (among : Text → Prop) : FileOp → Prop
  | pointer {location : Snapshot.CatalogLocation}
    (located : context.registry.catalogLocation context.interpreter solutionId queryLane = .ok location) :
    Footprint among (.readBytes location.pointer)
  | catalog {directory : Snapshot.Path} (named : CatalogDirectory context files solutionId directory) :
    Footprint among (.readBytes (directory.child catalogFilename))
  | manifest {location : SnapshotLocation} {generationId : Text} {directory : Snapshot.Path}
    (pinned : PinnedDirectory context files solutionId among location generationId directory) :
    Footprint among (.readBytes (directory.child manifestFilename))
  | inside {location : SnapshotLocation} {generationId : Text} {directory path : Snapshot.Path} {op : FileOp}
    (pinned : PinnedDirectory context files solutionId among location generationId directory)
    (below : directory.Contains path) (about : op = .lstat path ∨ op = .resolve path ∨ ∃ cap, op = .read path cap) :
    Footprint among op
  /-- The lane's root, to which the reference of a shard is bound. -/
  | root {location : SnapshotLocation} {generationId : Text} {directory : Snapshot.Path}
    (pinned : PinnedDirectory context files solutionId among location generationId directory) :
    Footprint among (.resolve location.root)
  /-- What that root resolves to. -/
  | bound {location : SnapshotLocation} {generationId : Text} {directory native : Snapshot.Path} {op : FileOp}
    (pinned : PinnedDirectory context files solutionId among location generationId directory)
    (bound : files.resolve location.root = .ok native) (about : op = .pathExists native ∨ op = .isDir native) :
    Footprint among op
  | reference {location : SnapshotLocation} {generationId : Text} {directory native path : Snapshot.Path}
    (pinned : PinnedDirectory context files solutionId among location generationId directory)
    (bound : files.resolve location.root = .ok native)
    (below : (native.joined [generationsDirname, generationId]).Contains path) : Footprint among (.resolve path)
  /-- A shard, below what the directory of its generation resolves to. -/
  | shard {location : SnapshotLocation} {generationId : Text} {directory resolved path : Snapshot.Path} {cap : ℕ}
    (pinned : PinnedDirectory context files solutionId among location generationId directory)
    (bound : files.resolve directory = .ok resolved) (below : resolved.Above path) :
    Footprint among (.read path cap)
  /-- The directory of the guard, in the key of a retained generation. -/
  | guard {directory : Snapshot.Path} {location : SnapshotLocation}
    (sourced : sourceDirectory context location = .ok directory) (own : location.solutionId = solutionId) :
    Footprint among (.resolve directory)

end Definitions

/-! ### Replies of a store -/

/-- The files answer as they are, the rest answers anything. -/
def readAnswers (files : Snapshot.Files) : (op : ReadOp) → ReadReply op → Prop
  | .file op, reply => reply = files.reply op
  | _, _ => True

def toolAnswers (files : Snapshot.Files) : (op : ToolOp) → ToolReply op → Prop
  | .read op, reply => readAnswers files op reply
  | _, _ => True

/-- What is asked of the files is allowed. -/
def ReadWithin (allowed : FileOp → Prop) : ReadOp → Prop
  | .file op => allowed op
  | _ => True

def ToolWithin (allowed : FileOp → Prop) : ToolOp → Prop
  | .read op => ReadWithin allowed op
  | _ => True

/-- A part that asks the files. -/
abbrev FilesAlong (files : Snapshot.Files) (allowed : FileOp → Prop) {α : Type} (post : Except Raised α → Prop)
    (p : FileProgram α) : Prop :=
  (fixed fun op reply => reply = files.reply op).Along (fun _ op => allowed op) (fun outcome _ => post outcome) p ()

/-- A part of a session. -/
abbrev ReadAlong (files : Snapshot.Files) (allowed : FileOp → Prop) {α : Type} (post : Except Raised α → Prop)
    (p : ReadProgram α) : Prop :=
  (fixed (readAnswers files)).Along (fun _ op => ReadWithin allowed op) (fun outcome _ => post outcome) p ()

/-- A part of a handler. -/
abbrev ToolAlong (files : Snapshot.Files) (allowed : FileOp → Prop) {α : Type} (post : Except ToolError α → Prop)
    (p : ToolProgram α) : Prop :=
  (fixed (toolAnswers files)).Along (fun _ op => ToolWithin allowed op) (fun outcome _ => post outcome) p ()

/-- A handler that runs alone over a store makes a trace over it. -/
theorem store_alone {α : Type} {files : Snapshot.Files} {p : ToolProgram α} {outcome : Except ToolError α}
    (ended : outcomeAlone files p = some outcome) :
    ∃ calls, Trace p calls outcome ∧ ∀ call ∈ calls, toolAnswers files call.op call.reply := by
  obtain ⟨⟨outcome, made, guard⟩, ran, rfl⟩ := Option.map_eq_some_iff.mp ended
  have sound : ∀ (calls : List (Call ToolOp ToolReply)) guard op, toolAnswers files op (alone files guard op) := by
    intro _ _ op
    cases op with
    | read op => cases op <;> first | rfl | exact trivial
    | _ => exact trivial
  obtain ⟨calls, _, trace, store⟩ := Trace.of_run_answered sound ran
  exact ⟨calls, trace, store⟩

section Parts

variable {files : Snapshot.Files} {allowed : FileOp → Prop} {α : Type}

theorem onFiles_along {p : FileProgram α} {post : Except Raised α → Prop}
    (along : FilesAlong files allowed post p) :
    ReadAlong files allowed post (onFiles p) :=
  Along.within along (fun _ _ given => given) fun _ asked => asked

/-- The engine of a guard asks nothing of the files. -/
theorem onGuard_along (p : Guard.GuardProgram α) : ReadAlong files allowed (fun _ => True) (onGuard p) :=
  along_allowed (only_embed p fun _ => trivial) fun _ asked => asked

theorem reading_along {p : ReadProgram α} {post : Except Raised α → Prop} (along : ReadAlong files allowed post p) :
    ToolAlong files allowed (fun outcome => ∀ a, outcome = .ok a → post (.ok a)) (reading p) := by
  have embedded : (fixed (toolAnswers files)).Along (fun _ op => ToolWithin allowed op)
      (fun outcome _ => post outcome) (p.embed ToolOp.read fun _ reply => reply) () :=
    Along.within along (fun _ _ given => given) fun _ asked => asked
  refine embedded.resume fun outcome _ ended => along_ofExcept ?_
  intro a same
  obtain rfl := mapError_eq_ok.mp same
  exact ended

theorem readingFiles_along {p : FileProgram α} {post : Except Raised α → Prop}
    (along : FilesAlong files allowed post p) :
    ToolAlong files allowed (fun outcome => ∀ a, outcome = .ok a → post (.ok a)) (readingFiles p) :=
  reading_along (onFiles_along along)

theorem withGuard_along {directory : Snapshot.Path} {block : ReadProgram α} {post : Except Raised α → Prop}
    (along : ReadAlong files allowed post block) :
    ToolAlong files allowed (fun outcome => ∀ a, outcome = .ok a → post (.ok a)) (withGuard directory block) := by
  refine along_call trivial fun _ _ => ?_
  have guarded : ReadAlong files allowed (fun outcome => ∀ a, outcome = .ok a → post (.ok a)) (do
      onGuard Guard.makeDirectory
      block.ensure (onGuard Guard.close)) := by
    refine (onGuard_along _).bind (fun _ _ _ => ?_) fun raised _ _ _ wrong => (nomatch wrong)
    refine along.ensure fun outcome _ ended => (onGuard_along _).post fun closing _ _ => ?_
    cases closing with
    | ok _ => exact fun a same => same ▸ ended
    | error raised => exact fun _ wrong => nomatch wrong
  exact (reading_along guarded).post fun outcome _ ended a same => ended a same a rfl

/-- A block that holds the shared guard. -/
theorem ordered_along {py : Interpreter} {settings : Guard.Settings} {rounds : ℕ}
    {specs : List (Text × Guard.LockMode)} {early : List Text} {attempts : ℤ} {block : ReadProgram α}
    {post : Except Raised α → Prop}
    (along : ReadAlong files allowed post block) (raises : ∀ raised, post (.error raised)) :
    ReadAlong files allowed post (Guard.ordered py settings rounds onGuard specs early attempts block) := by
  refine (onGuard_along _).bind (fun _ _ _ => ?_) fun raised _ _ => raises raised
  refine along.ensure fun outcome _ ended => (onGuard_along _).post fun closing _ _ => ?_
  cases closing with
  | ok _ => exact ended
  | error raised => exact raises raised

end Parts

/-! ### The catalog -/

section Catalogs

variable {Time : Type} {context : ToolContext Time} {files : Snapshot.Files} {solutionId : Text}
  {among : Text → Prop} {allowed : FileOp → Prop}

/-- Bytes that are read are the content of the file. -/
theorem contents_along {path : Snapshot.Path} {failed : OSFault → Raised} (asked : allowed (.readBytes path)) :
    FilesAlong files allowed (fun outcome => ∀ raw, outcome = .ok raw → files.contents path = .ok raw)
      (.call (.readBytes path) fun reply => ofExcept (reply.mapError failed)) := by
  refine along_call asked fun reply given => along_ofExcept fun raw same => ?_
  rw [← mapError_eq_ok.mp same]
  exact given.symm

/-- The catalog of a solution is read where its pointer says. -/
theorem loadSolutionCatalog_along {location : Snapshot.CatalogLocation}
    (located : context.registry.catalogLocation context.interpreter solutionId queryLane = .ok location) :
    FilesAlong files (Footprint context files solutionId among)
      (fun outcome => ∀ catalog, outcome = .ok catalog → NamesCatalog context files solutionId catalog)
      (loadSolutionCatalog context.interpreter context.sha256 location) := by
  have none {α : Type} {raised : Raised} {holds : α → Prop} (a : α)
      (wrong : (.error raised : Except Raised α) = .ok a) : holds a := nomatch wrong
  have pointed : FilesAlong files (Footprint context files solutionId among)
      (fun outcome => ∀ pointer, outcome = .ok pointer → ∃ raw, files.contents location.pointer = .ok raw ∧
        loadPointerBytes context.interpreter raw location.pointer.name = .ok pointer)
      (loadPointer context.interpreter location.pointer) := by
    refine (contents_along (.pointer located)).bind (fun raw _ read => ?_) fun _ _ _ => none
    exact along_ofExcept fun pointer loaded => ⟨raw, read raw rfl, loaded⟩
  have loaded : FilesAlong files (Footprint context files solutionId among)
      (fun outcome => ∀ pair, outcome = .ok pair → NamesCatalog context files solutionId pair.1)
      (loadPinnedCatalogGeneration context.interpreter context.sha256 location) := by
    refine pointed.bind (fun pointer _ found => ?_) fun _ _ _ => none
    obtain ⟨raw, read, parsed⟩ := found pointer rfl
    refine along_ofExcept_bind (fun directory rooted => ?_) fun _ _ => none
    have named : CatalogDirectory context files solutionId directory :=
      ⟨location, raw, pointer, located, read, parsed, rooted⟩
    have read : FilesAlong files (Footprint context files solutionId among)
        (fun outcome => ∀ catalog, outcome = .ok catalog → NamesCatalog context files solutionId catalog)
        (loadCatalog context.interpreter (directory.child catalogFilename)) := by
      refine (contents_along (.catalog named)).bind (fun raw _ held => ?_) fun _ _ _ => none
      refine along_ofExcept fun catalog loads => ⟨directory, raw, named, held raw rfl, ?_⟩
      rw [← Snapshot.Path.name_child directory catalogFilename]
      exact loads
    refine read.bind (fun catalog _ holds => ?_) fun _ _ _ => none
    split
    · exact none
    · split
      · exact none
      · rintro _ ⟨⟩
        exact holds catalog rfl
  refine loaded.bind (fun pair _ holds => ?_) fun _ _ _ => none
  rintro _ ⟨⟩
  exact holds pair rfl

/-- A member of the catalog is opened in its own directory. -/
theorem pinMember_along {catalog : Catalog} {member : CatalogMember}
    (named : NamesCatalog context files solutionId catalog) (listed : member ∈ catalog.vector)
    (seen : among member.projectId) :
    FilesAlong files (Footprint context files solutionId among)
      (fun outcome => ∀ pin, outcome = .ok pin → pin.member = member)
      (pinMember (projectMemberOpener context.interpreter context.sha256 fun projectId =>
        context.registry.location context.interpreter solutionId projectId queryLane) member) := by
  have opened : FilesAlong files (Footprint context files solutionId among) (fun _ => True)
      (projectMemberOpener context.interpreter context.sha256 (fun projectId =>
        context.registry.location context.interpreter solutionId projectId queryLane) member) := by
    have located : FilesAlong files (Footprint context files solutionId among)
        (fun outcome => ∀ location, outcome = .ok location →
          context.registry.location context.interpreter solutionId member.projectId queryLane = .ok location)
        (Snapshot.memberLocation context.interpreter (fun projectId =>
          context.registry.location context.interpreter solutionId projectId queryLane) member) := by
      have bound : FilesAlong files (Footprint context files solutionId among)
          (fun outcome => outcome =
            context.registry.location context.interpreter solutionId member.projectId queryLane)
          (ofExcept (context.registry.location context.interpreter solutionId member.projectId queryLane)) :=
        along_ofExcept rfl
      refine bound.rescue (fun location _ found => ?_) fun raised _ _ => ?_
      · rintro _ ⟨⟩
        exact found.symm
      · split <;> exact fun _ wrong => nomatch wrong
    refine located.bind (fun location _ found => ?_) fun _ _ _ => trivial
    refine along_ofExcept_bind (fun directory rooted => ?_) fun _ _ => trivial
    have pinned : PinnedDirectory context files solutionId among location member.generationId directory :=
      ⟨⟨catalog, member, named, listed, seen, found location rfl, rfl⟩, rooted⟩
    have bytes : FilesAlong files (Footprint context files solutionId among) (fun _ => True)
        (Snapshot.memberBytes context.interpreter member directory) := by
      refine (contents_along (.manifest pinned)).rescue (fun _ _ _ => trivial) fun raised _ _ => ?_
      split <;> exact trivial
    refine bytes.bind (fun raw _ _ => ?_) fun _ _ _ => trivial
    refine along_ofExcept_bind (fun manifest _ => ?_) fun _ _ => trivial
    exact along_ofExcept_bind (fun _ _ => trivial) fun _ _ => trivial
  refine opened.resume fun outcome _ _ => ?_
  unfold Snapshot.recordPin
  split
  · rintro _ ⟨⟩
    rfl
  · rintro _ ⟨⟩
    rfl
  · exact fun _ wrong => nomatch wrong

theorem pinCatalog_along {catalog : Catalog} (named : NamesCatalog context files solutionId catalog)
    (seen : ∀ member ∈ catalog.vector, among member.projectId) :
    FilesAlong files (Footprint context files solutionId among)
      (fun outcome => ∀ vector, outcome = .ok vector → ∀ pin ∈ vector.pins, pin.member ∈ catalog.vector)
      (pinCatalog context.sha256 catalog (projectMemberOpener context.interpreter context.sha256 fun projectId =>
        context.registry.location context.interpreter solutionId projectId queryLane)) := by
  have loop : ∀ members : List CatalogMember, (∀ member ∈ members, member ∈ catalog.vector) →
      FilesAlong files (Footprint context files solutionId among)
        (fun outcome => ∀ pins, outcome = .ok pins → ∀ pin ∈ pins, pin.member ∈ catalog.vector)
        (pinMembers (projectMemberOpener context.interpreter context.sha256 fun projectId =>
          context.registry.location context.interpreter solutionId projectId queryLane) members) := by
    intro members
    induction members with
    | nil =>
      rintro _ _ ⟨⟩ pin wrong
      cases wrong
    | cons member rest ih =>
      intro listed
      obtain ⟨first, others⟩ := List.forall_mem_cons.mp listed
      refine (pinMember_along named first (seen member first)).bind (fun pin _ own => ?_)
        fun _ _ _ _ wrong => nomatch wrong
      refine (ih others).bind (fun pins _ each => ?_) fun _ _ _ _ wrong => nomatch wrong
      rintro _ ⟨⟩
      refine List.forall_mem_cons.mpr ⟨?_, each pins rfl⟩
      rw [own pin rfl]
      exact first
  refine (loop catalog.vector fun _ member => member).bind (fun pins _ each => ?_)
    fun _ _ _ _ wrong => nomatch wrong
  rintro _ ⟨⟩
  exact each pins rfl

/-- The pins of a vector are those of the catalog that the store names. -/
def PinsCatalog (context : ToolContext Time) (files : Snapshot.Files) (solutionId : Text)
    (vector : Snapshot.CatalogVector) : Prop :=
  ∃ catalog, NamesCatalog context files solutionId catalog ∧ ∀ pin ∈ vector.pins, pin.member ∈ catalog.vector

/-- **A vector is loaded from the catalog and its members' manifests.** -/
theorem loadVector_along (context : ToolContext Time) (files : Snapshot.Files) (solutionId : Text) :
    ToolAlong files (Footprint context files solutionId fun _ => True)
      (fun outcome => ∀ vector, outcome = .ok vector → PinsCatalog context files solutionId vector)
      (loadVector context solutionId) := by
  refine along_ofExcept_bind (fun location located => ?_) fun _ _ _ wrong => nomatch wrong
  refine (readingFiles_along (loadSolutionCatalog_along (mapError_eq_ok.mp located))).bind
    (fun catalog _ named => ?_) fun _ _ _ _ wrong => nomatch wrong
  have named := named catalog rfl catalog rfl
  refine (readingFiles_along (pinCatalog_along named fun _ _ => trivial)).post fun outcome _ ended vector same => ?_
  exact ⟨catalog, named, ended vector same vector rfl⟩

end Catalogs

/-! ### A pinned generation -/

section Generations

variable {Time : Type} {context : ToolContext Time} {files : Snapshot.Files} {solutionId generationId : Text}
  {among : Text → Prop} {location : SnapshotLocation} {directory : Snapshot.Path}

/-- The id of a generation that has a directory is a digest. -/
theorem generationRoot_digest {py : Interpreter}
    (rooted : location.generationRoot py generationId = .ok directory) :
    Query.isSha256 generationId = true := by
  obtain ⟨name, named, _⟩ := bind_eq_ok.mp rooted
  unfold Snapshot.generationDirectoryName at named
  split at named
  · next digest => exact digest
  · cases named

theorem resolvePath_along {allowed : FileOp → Prop} {path : Snapshot.Path} {failed : OSFault → Raised}
    (asked : allowed (.resolve path)) :
    FilesAlong files allowed (fun outcome => ∀ resolved, outcome = .ok resolved → files.resolve path = .ok resolved)
      (resolvePath path failed) := by
  refine along_call asked fun reply given => along_ofExcept fun resolved same => ?_
  rw [← mapError_eq_ok.mp same]
  exact given.symm

/-- A reference below a pinned generation is resolved there. -/
theorem resolve_along {path : Text}
    (pinned : PinnedDirectory context files solutionId among location generationId directory) :
    FilesAlong files (Footprint context files solutionId among) (fun _ => True)
      (location.resolve context.interpreter (Text.format [generationsDirname, "/", generationId, "/", path])) := by
  have rooted : FilesAlong files (Footprint context files solutionId among)
      (fun outcome => ∀ native, outcome = .ok native → files.resolve location.root = .ok native)
      (Snapshot.bindNativeRoot context.interpreter location.root) := by
    refine along_ofExcept_bind (fun _ _ => ?_) fun _ _ _ wrong => nomatch wrong
    refine (resolvePath_along (.root pinned)).bind (fun native _ bound => ?_) fun _ _ _ _ wrong => nomatch wrong
    have bound := bound native rfl
    have returns : ∀ other, (.ok native : Except Raised Snapshot.Path) = .ok other →
        files.resolve location.root = .ok other := by
      rintro _ ⟨⟩
      exact bound
    have exists_along : FilesAlong files (Footprint context files solutionId among) (fun _ => True)
        (.call (.pathExists native) fun reply => ofExcept (reply.mapError .os)) :=
      along_call (.bound pinned bound (.inl rfl)) fun reply _ => along_ofExcept trivial
    have isDir_along : FilesAlong files (Footprint context files solutionId among) (fun _ => True)
        (.call (.isDir native) fun reply => ofExcept (reply.mapError .os)) :=
      along_call (.bound pinned bound (.inr rfl)) fun reply _ => along_ofExcept trivial
    refine exists_along.bind (fun present _ _ => ?_) fun _ _ _ _ wrong => nomatch wrong
    split
    · refine isDir_along.bind (fun isDirectory _ _ => ?_) fun _ _ _ _ wrong => nomatch wrong
      split
      · exact returns
      · exact fun _ wrong => nomatch wrong
    · exact returns
  have wire : FilesAlong files (Footprint context files solutionId among) (fun _ => True)
      (Snapshot.resolveWirePath context.interpreter location.root
        (Text.format [generationsDirname, "/", generationId, "/", path])) := by
    refine along_ofExcept_bind (fun parts parsed => ?_) fun _ _ => trivial
    refine rooted.bind (fun native _ bound => ?_) fun _ _ _ => trivial
    obtain ⟨split, _⟩ := Snapshot.reference_parts (generationRoot_digest pinned.rooted) parsed
    have below : (native.joined [generationsDirname, generationId]).Contains (native.joined parts) := by
      refine ⟨rfl, ?_⟩
      rw [split]
      exact ⟨path.splitOn (codePoint '/'), by simp [Snapshot.Path.joined]⟩
    have asked : Footprint context files solutionId among (.resolve (native.joined parts)) :=
      .reference pinned (bound native rfl) below
    refine (resolvePath_along asked).bind (fun resolved _ _ => ?_) fun _ _ _ => trivial
    split <;> exact trivial
  refine wire.rescue (fun _ _ _ => trivial) fun raised _ _ => ?_
  split <;> exact trivial

/-- A shard of a pinned generation is looked up, and is inside of it. -/
theorem shardPath_along {manifest : Snapshot.Manifest} {entry : Snapshot.ManifestEntry}
    (pinned : PinnedDirectory context files solutionId among location generationId directory)
    (own : manifest.generationId context.sha256 = generationId) :
    FilesAlong files (Footprint context files solutionId among)
      (fun outcome => ∀ resolved, outcome = .ok resolved →
        ∃ bound, files.resolve directory = .ok bound ∧ bound.Above resolved)
      (shardPath context.interpreter context.sha256 location manifest entry) := by
  refine along_ofExcept_bind (fun _ _ => ?_) fun _ _ _ wrong => nomatch wrong
  refine along_ofExcept_bind (fun generationDir found => ?_) fun _ _ _ wrong => nomatch wrong
  rw [own, pinned.rooted] at found
  obtain rfl := Except.ok.inj found
  refine along_ofExcept_bind (fun _ _ => ?_) fun _ _ _ wrong => nomatch wrong
  have inside := Snapshot.Path.contains_joined (Snapshot.Path.contains_refl directory)
    (Snapshot.posixParts entry.path)
  refine along_call (.inside pinned inside (.inl rfl)) fun info _ => ?_
  refine along_ofExcept_bind (fun _ _ => ?_) fun _ _ _ wrong => nomatch wrong
  rw [own]
  have resolves (handler : Raised → FileProgram Snapshot.Path)
      (raises : ∀ raised, ∃ other, handler raised = .raise other) :
      FilesAlong files (Footprint context files solutionId among) (fun _ => True)
        ((location.resolve context.interpreter
          (Text.format [generationsDirname, "/", generationId, "/", entry.path])).rescue handler) := by
    refine (resolve_along pinned).rescue (fun _ _ _ => trivial) fun raised _ _ => ?_
    obtain ⟨other, same⟩ := raises raised
    rw [same]
    exact trivial
  refine (resolves _ fun _ => ⟨_, rfl⟩).bind (fun resolved _ _ => ?_) fun _ _ _ _ wrong => nomatch wrong
  have here := Footprint.inside pinned (Snapshot.Path.contains_refl directory) (.inr (.inl rfl))
  refine (resolvePath_along here).bind (fun bound _ answered => ?_) fun _ _ _ _ wrong => nomatch wrong
  split
  · next above =>
    rintro _ ⟨⟩
    exact ⟨bound, answered bound rfl, above⟩
  · exact fun _ wrong => nomatch wrong

theorem copyShards_along {manifest : Snapshot.Manifest} {roles : Option (List Text)} {limits : Snapshot.ShardLimits}
    (pinned : PinnedDirectory context files solutionId among location generationId directory)
    (own : manifest.generationId context.sha256 = generationId) :
    FilesAlong files (Footprint context files solutionId among) (fun _ => True)
      (copyShards context.interpreter context.sha256 location manifest roles limits) := by
  have one (entry : Snapshot.ManifestEntry) :
    FilesAlong files (Footprint context files solutionId among) (fun _ => True)
      (copyShard context.interpreter context.sha256 location manifest limits entry) := by
    refine along_ofExcept_bind (fun _ _ => ?_) fun _ _ => trivial
    refine along_ofExcept_bind (fun _ _ => ?_) fun _ _ => trivial
    refine (shardPath_along pinned own).bind (fun resolved _ looked => ?_) fun _ _ _ => trivial
    obtain ⟨bound, answered, above⟩ := looked resolved rfl
    refine along_call (.shard pinned answered above) fun reply _ => ?_
    exact along_ofExcept_bind (fun _ _ => along_ofExcept trivial) fun _ _ => trivial
  have each : ∀ entries, FilesAlong files (Footprint context files solutionId among) (fun _ => True)
      (copyEach context.interpreter context.sha256 location manifest limits entries) := by
    intro entries
    induction entries with
    | nil => exact trivial
    | cons entry rest ih =>
      refine (one entry).bind (fun copied _ _ => ?_) fun _ _ _ => trivial
      exact ih.bind (fun _ _ _ => trivial) fun _ _ _ => trivial
  refine along_ofExcept_bind (fun entries _ => ?_) fun _ _ => trivial
  exact along_ofExcept_bind (fun _ _ => each entries) fun _ _ => trivial

/-- **A pinned session reads its generation and nothing else.** -/
theorem load_along {guard : Snapshot.Path}
    (pins : PinsGeneration context files solutionId among location generationId) :
    ReadAlong files (Footprint context files solutionId among) (fun _ => True)
      ((sessionOf context guard location (some generationId)).load context.rounds) := by
  let session := sessionOf context guard location (some generationId)
  have copies : FilesAlong files (Footprint context files solutionId among)
    (fun _ => True) session.copyGeneration := by
    have pointless : session.copyPointer = .done (none, []) := Snapshot.copyPointer_pinned rfl
    unfold ReadSession.copyGeneration
    rw [pointless]
    refine along_ofExcept_bind (fun directory found => ?_) fun _ _ => trivial
    have pinned : PinnedDirectory context files solutionId among location generationId directory := ⟨pins, found⟩
    have inside := Snapshot.Path.contains_child (Snapshot.Path.contains_refl directory) manifestFilename
    have bounded : FilesAlong files (Footprint context files solutionId among) (fun _ => True)
        (ReadSession.bounded (directory.child manifestFilename) session.limits.maxManifestBytes
          (Snapshot.manifestLabel (session.selectedId none))) := by
      refine along_call (.inside pinned inside (.inr (.inr ⟨_, rfl⟩))) fun reply _ => ?_
      cases reply with
      | error raised => exact trivial
      | ok payload =>
        dsimp only
        split <;> exact trivial
    refine bounded.bind (fun raw _ _ => ?_) fun _ _ _ => trivial
    refine along_ofExcept_bind (fun manifest _ => ?_) fun _ _ => trivial
    refine along_ofExcept_bind (fun _ checked => ?_) fun _ _ => trivial
    -- the manifest is that of the directory, and so of the pinned generation
    have own : manifest.generationId context.sha256 = generationId :=
      (Snapshot.checkManifest_ok checked).symm.trans (Snapshot.generationRoot_name found)
    exact (copyShards_along pinned own).bind (fun _ _ _ => trivial) fun _ _ _ => trivial
  have held : ReadAlong files (Footprint context files solutionId among) (fun _ => True) Snapshot.heldNames :=
    along_call trivial fun _ _ => trivial
  have clock : ReadAlong files (Footprint context files solutionId among) (fun _ => True) Snapshot.readClock :=
    along_call trivial fun _ _ => trivial
  have guarded : ReadAlong files (Footprint context files solutionId among)
    (fun _ => True) session.copyGuarded := by
    refine held.bind (fun names _ _ => ?_) fun _ _ _ => trivial
    split
    · exact trivial
    · exact onFiles_along copies
  refine clock.bind (fun started _ _ => ?_) fun _ _ _ => trivial
  refine (ordered_along guarded fun _ => trivial).bind (fun copied _ _ => ?_) fun _ _ _ => trivial
  refine held.bind (fun names _ _ => ?_) fun _ _ _ => trivial
  split
  · exact trivial
  · refine along_ofExcept_bind (fun _ _ => ?_) fun _ _ => trivial
    exact clock.bind (fun _ _ _ => trivial) fun _ _ _ => trivial

theorem PinsGeneration.solution (pins : PinsGeneration context files solutionId among location generationId) :
    location.solutionId = solutionId := by
  obtain ⟨_, _, _, _, _, located, _⟩ := pins
  exact (Snapshot.SnapshotRegistry.location_ok located).1

/-- A source that retains generations reads their manifests, and resolves the two roots of its keys. -/
theorem sourceLoadPinned_along (pins : PinsGeneration context files solutionId among location generationId) :
    ToolAlong files (Footprint context files solutionId among) (fun _ => True)
      (sourceLoadPinned context location generationId) := by
  have loads (guard : Snapshot.Path) : ToolAlong files (Footprint context files solutionId among) (fun _ => True)
      (guardedLoad context guard location (some generationId)) :=
    (withGuard_along (load_along pins)).post fun _ _ _ => trivial
  refine along_ofExcept_bind (fun guard sourced => ?_) fun _ _ => trivial
  have sourced : sourceDirectory context location = .ok guard := mapError_eq_ok.mp sourced
  split
  · have selects : FilesAlong files (Footprint context files solutionId among)
        (fun outcome => ∀ manifest, outcome = .ok manifest →
          ∃ directory, location.generationRoot context.interpreter generationId = .ok directory)
        (selectedManifest context location generationId) := by
      refine along_ofExcept_bind (fun directory found => ?_) fun _ _ _ wrong => nomatch wrong
      have inside := Snapshot.Path.contains_child (Snapshot.Path.contains_refl directory) manifestFilename
      have read : FilesAlong files (Footprint context files solutionId among) (fun _ => True)
          (.call (.read (directory.child manifestFilename) (4 * 1024 * 1024)) ofExcept) :=
        along_call (.inside ⟨pins, found⟩ inside (.inr (.inr ⟨_, rfl⟩))) fun reply _ => along_ofExcept trivial
      refine read.bind (fun raw _ _ => ?_) fun _ _ _ _ wrong => nomatch wrong
      refine along_ofExcept_bind (fun manifest _ => ?_) fun _ _ _ wrong => nomatch wrong
      exact along_ofExcept_bind (fun _ _ _ _ => ⟨directory, found⟩) fun _ _ _ wrong => nomatch wrong
    have guarded : ReadAlong files (Footprint context files solutionId among)
        (fun outcome => ∀ manifest, outcome = .ok manifest →
          ∃ directory, location.generationRoot context.interpreter generationId = .ok directory)
        (asReader context guard (selectedManifest context location generationId)) :=
      ordered_along (onFiles_along selects) fun _ _ wrong => nomatch wrong
    refine (withGuard_along guarded).bind (fun manifest _ found => ?_) fun _ _ _ => trivial
    obtain ⟨directory, found⟩ := found manifest rfl manifest rfl
    have keys : FilesAlong files (Footprint context files solutionId among) (fun _ => True)
        (retentionKey guard location manifest generationId) := by
      refine (resolvePath_along (.root ⟨pins, found⟩)).bind (fun _ _ _ => ?_) fun _ _ _ => trivial
      exact (resolvePath_along (.guard sourced pins.solution)).bind (fun _ _ _ => trivial) fun _ _ _ => trivial
    refine (readingFiles_along keys).bind (fun key _ _ => ?_) fun _ _ _ => trivial
    refine along_call trivial fun cached _ => ?_
    cases cached with
    | some snapshot => exact trivial
    | none =>
      refine (loads guard).bind (fun loaded _ _ => ?_) fun _ _ _ => trivial
      exact along_call trivial fun _ _ => trivial
  · exact loads guard

end Generations

/-! ### A query -/

section Queries

variable {Time : Type} {context : ToolContext Time} {files files' : Snapshot.Files} {solutionId : Text}
  {among : Text → Prop}

/-- The pin that a project is read by. -/
theorem availablePin_ok {vector : CatalogVector} {projectId : Text} {pin : MemberPin}
    (available : availablePin (pinsOf vector) projectId = .ok pin) :
    pin ∈ vector.pins ∧ pin.member.projectId = projectId := by
  unfold availablePin at available
  split at available
  · next found here =>
    split at available
    · obtain rfl := Except.ok.inj available
      exact Dict.mem_of_get?_ofList here
    · cases available
  · cases available

/-- **Projects are loaded from the generations that the catalog pins for them.** -/
theorem loadPinnedProjects_along {vector : CatalogVector} (pinned : PinsCatalog context files solutionId vector)
    {projects : List Text} (seen : ∀ projectId ∈ projects, among projectId) :
    ToolAlong files (Footprint context files solutionId among) (fun _ => True)
      (loadPinnedProjects context solutionId (pinsOf vector) projects) := by
  obtain ⟨catalog, named, members⟩ := pinned
  induction projects with
  | nil => exact trivial
  | cons projectId rest ih =>
    obtain ⟨here, others⟩ := List.forall_mem_cons.mp seen
    refine along_ofExcept_bind (fun pin available => ?_) fun _ _ => trivial
    obtain ⟨listed, own⟩ := availablePin_ok available
    have load : ToolAlong files (Footprint context files solutionId among) (fun _ => True)
        (loadPinnedProject context solutionId projectId queryLane pin.member.generationId) := by
      have sourced : ToolAlong files (Footprint context files solutionId among) (fun _ => True) (do
          let location ← ofRaised (context.registry.location context.interpreter solutionId projectId queryLane)
          sourceLoadPinned context location pin.member.generationId) := by
        refine along_ofExcept_bind (fun location located => ?_) fun _ _ => trivial
        refine sourceLoadPinned_along ⟨catalog, pin.member, named, members pin listed, own ▸ here, ?_, rfl⟩
        rw [own]
        exact mapError_eq_ok.mp located
      refine along_ofExcept_bind (fun _ _ => ?_) fun _ _ => trivial
      exact sourced.rescue (fun _ _ _ => trivial) fun _ _ _ => trivial
    refine load.bind (fun snapshot _ _ => ?_) fun _ _ _ => trivial
    exact (ih others).bind (fun _ _ _ => trivial) fun _ _ _ => trivial

/-- **A scope is loaded from the catalog and the generations that it pins.** -/
theorem loadScope_along (context : ToolContext Time) (files : Snapshot.Files) (solutionId : Text)
    (projects : List Text) : ToolAlong files (Footprint context files solutionId fun _ => True) (fun _ => True)
      (loadScope context solutionId projects) := by
  refine (loadVector_along context files solutionId).bind (fun vector _ pinned => ?_) fun _ _ _ => trivial
  refine (loadPinnedProjects_along (pinned vector rfl) fun _ _ => trivial).bind (fun snapshots _ _ => ?_)
    fun _ _ _ => trivial
  exact along_ofExcept trivial

/-- Stores that agree on the footprint in one of them. -/
def AgreeOn (context : ToolContext Time) (solutionId : Text) (among : Text → Prop) (files files' : Snapshot.Files) :
    Prop := ∀ op, Footprint context files solutionId among op → files'.reply op = files.reply op

/-- Stores that agree on the footprint name the same catalogs. -/
theorem catalog_agree (agree : AgreeOn context solutionId among files files') :
    (∀ directory, CatalogDirectory context files' solutionId directory →
      CatalogDirectory context files solutionId directory) ∧
    ∀ catalog, NamesCatalog context files' solutionId catalog → NamesCatalog context files solutionId catalog := by
  have directories : ∀ directory, CatalogDirectory context files' solutionId directory →
      CatalogDirectory context files solutionId directory := by
    rintro directory ⟨location, raw, pointer, located, read, parsed, rooted⟩
    have same : files'.contents location.pointer = files.contents location.pointer := agree _ (.pointer located)
    exact ⟨location, raw, pointer, located, same ▸ read, parsed, rooted⟩
  refine ⟨directories, ?_⟩
  rintro catalog ⟨directory, raw, named, read, loaded⟩
  have named := directories directory named
  have same : files'.contents (directory.child catalogFilename) =
    files.contents (directory.child catalogFilename) :=
    agree _ (.catalog named)
  exact ⟨directory, raw, named, same ▸ read, loaded⟩

/-- **Stores that agree on the footprint of one of them have one footprint.** -/
theorem footprint_agree (agree : AgreeOn context solutionId among files files') {op : FileOp} :
    Footprint context files' solutionId among op ↔ Footprint context files solutionId among op := by
  have back : ∀ {files files' : Snapshot.Files}, AgreeOn context solutionId among files files' → ∀ {op : FileOp},
      Footprint context files' solutionId among op → Footprint context files solutionId among op := by
    intro files files' agree op asked
    obtain ⟨directories, catalogs⟩ := catalog_agree agree
    have moved : ∀ {location generationId directory},
        PinnedDirectory context files' solutionId among location generationId directory →
          PinnedDirectory context files solutionId among location generationId directory := by
      rintro location generationId directory ⟨⟨catalog, member, named, listed, seen, located, own⟩, rooted⟩
      exact ⟨⟨catalog, member, catalogs catalog named, listed, seen, located, own⟩, rooted⟩
    cases asked with
    | pointer located => exact .pointer located
    | catalog named => exact .catalog (directories _ named)
    | manifest pinned => exact .manifest (moved pinned)
    | inside pinned below about => exact .inside (moved pinned) below about
    | root pinned => exact .root (moved pinned)
    | @bound location generationId directory native _ pinned bound about =>
      have same : files'.resolve location.root = files.resolve location.root := agree _ (.root (moved pinned))
      exact .bound (moved pinned) (same ▸ bound) about
    | @reference location generationId directory native path pinned bound below =>
      have same : files'.resolve location.root = files.resolve location.root := agree _ (.root (moved pinned))
      exact .reference (moved pinned) (same ▸ bound) below
    | @shard location generationId directory resolved path cap pinned bound below =>
      have here := Footprint.inside (moved pinned) (Snapshot.Path.contains_refl directory) (.inr (.inl rfl))
      have same : files'.resolve directory = files.resolve directory := agree _ here
      exact .shard (moved pinned) (same ▸ bound) below
    | guard sourced own => exact .guard sourced own
  refine ⟨back agree, back fun op asked => ?_⟩
  exact (agree op (back agree asked)).symm

/-- What a reconcile is asked for is none of the files. -/
theorem ensureFresh_along (request : QueryRequest) {allowed : FileOp → Prop} :
    ToolAlong files allowed (fun _ => True) (ensureFresh context request) := by
  unfold ensureFresh
  split
  · refine along_ofExcept_bind (fun _ _ => ?_) fun _ _ => trivial
    have sent (op : ControlOp) (message : Text) :
        ToolAlong files allowed (fun _ => True) (sendControl op message) :=
      along_call trivial fun _ _ => along_ofExcept trivial
    exact (sent _ _).bind (fun _ _ _ => trivial) fun _ _ _ => trivial
  · exact trivial

variable [LinearOrder Time] {arguments : JsonObject}

/-- A query over a store that nobody changes while it runs. -/
structure QueryRun (context : ToolContext Time) (arguments : JsonObject) (files : Snapshot.Files)
    (calls : List (Call ToolOp ToolReply)) (outcome : Except ToolError JsonObject) : Prop where
  trace : Trace (graphQuery arguments context) calls outcome
  store : ∀ call ∈ calls, toolAnswers files call.op call.reply

/-- **A query asks for the catalog and the generations that it pins.** -/
theorem graphQuery_along {request : QueryRequest} (asked : queryRequest arguments context = .ok request) :
    ToolAlong files (Footprint context files request.solutionId fun _ => True) (fun _ => True)
      (graphQuery arguments context) := by
  refine along_ofExcept_bind (fun other made => ?_) fun _ _ => trivial
  obtain rfl := Except.ok.inj (asked.symm.trans made)
  refine (ensureFresh_along request).bind (fun _ _ _ => ?_) fun _ _ _ => trivial
  refine (loadScope_along context files request.solutionId request.projects).bind (fun scope _ _ => ?_)
    fun _ _ _ => trivial
  exact along_ofExcept trivial

/-- A refused request asks nothing. -/
theorem QueryRun.silent {calls : List (Call ToolOp ToolReply)} {outcome : Except ToolError JsonObject}
    (run : QueryRun context arguments files calls outcome)
    (refused : ∀ request, queryRequest arguments context ≠ .ok request) : calls = [] := by
  rcases trace_ofExcept_bind_iff.mp run.trace with ⟨_, _, none, _⟩ | ⟨request, asked, _⟩
  · exact none
  · exact absurd asked (refused request)

/-- A run over one store is one over every store that agrees with it. -/
theorem QueryRun.transfer {calls : List (Call ToolOp ToolReply)} {outcome : Except ToolError JsonObject}
    (run : QueryRun context arguments files calls outcome)
    (agree : ∀ request, queryRequest arguments context = .ok request →
      AgreeOn context request.solutionId (fun _ => True) files files') :
    QueryRun context arguments files' calls outcome := by
  refine ⟨run.trace, ?_⟩
  cases asked : queryRequest arguments context with
  | error raised =>
    rw [run.silent fun request other => nomatch asked.symm.trans other]
    exact fun _ wrong => nomatch wrong
  | ok request =>
    refine (graphQuery_along asked).transfer run.trace (fun op reply within given => ?_) run.store
    cases op with
    | read op =>
      cases op with
      | file op => exact given.trans (agree request asked op within).symm
      | guard op => exact trivial
      | clock => exact trivial
    | _ => exact trivial

/-- A query that runs alone over a store, and is answered. -/
theorem QueryRun.of_alone
    (answered : (outcomeAlone files (graphQuery arguments context)).map Except.isOk = some true) :
    ∃ calls document, QueryRun context arguments files calls (.ok document) := by
  obtain ⟨outcome, ended, fine⟩ := Option.map_eq_some_iff.mp answered
  obtain ⟨calls, trace, store⟩ := store_alone ended
  cases outcome with
  | ok document => exact ⟨calls, document, trace, store⟩
  | error raised => cases fine

/-- **What a query asks of the files**: the questions of its footprint, and none where its request is refused. -/
theorem graphQuery_footprint (context : ToolContext Time) (arguments : JsonObject) (files : Snapshot.Files)
    (calls : List (Call ToolOp ToolReply)) (outcome : Except ToolError JsonObject)
    (run : QueryRun context arguments files calls outcome) :
    ∀ op, (∃ call ∈ calls, call.op = .read (.file op)) →
      ∃ request, queryRequest arguments context = .ok request ∧
        Footprint context files request.solutionId (fun _ => True) op := by
  rintro op ⟨call, member, same⟩
  cases asked : queryRequest arguments context with
  | error raised =>
    rw [run.silent fun request other => nomatch asked.symm.trans other] at member
    cases member
  | ok request =>
    have within := ((graphQuery_along asked).asked run.trace run.store).1 call member
    rw [same] at within
    exact ⟨request, rfl, within⟩

/-- **A query is pinned by the catalog**: two stores that agree on the catalog and on what it pins have the same
runs, and so the same answers and the same errors, whatever else they hold. -/
theorem graphQuery_pinned (context : ToolContext Time) (arguments : JsonObject) (files files' : Snapshot.Files)
    (agree : ∀ request, queryRequest arguments context = .ok request →
      AgreeOn context request.solutionId (fun _ => True) files files')
    (calls : List (Call ToolOp ToolReply)) (outcome : Except ToolError JsonObject) :
    QueryRun context arguments files calls outcome ↔ QueryRun context arguments files' calls outcome := by
  refine ⟨fun run => run.transfer agree, fun run => run.transfer fun request asked op there => ?_⟩
  have agree := agree request asked
  exact (agree op ((footprint_agree agree).mp there)).symm

end Queries

/-! ### A project that was published again -/

/-- A question for the content of a file. -/
def ReadsContent (path : Snapshot.Path) : FileOp → Prop
  | .read asked _ => asked = path
  | .readBytes asked => asked = path
  | _ => False

/-- Only the content tells two files of one path apart. -/
theorem plain_reply {entries : List (Snapshot.Path × Lib.Bytes)} {path : Snapshot.Path} {bytes bytes' : Lib.Bytes}
    {op : FileOp} (apart : ¬ ReadsContent path op) :
    (Snapshot.Files.plain (entries ++ [(path, bytes')])).reply op =
      (Snapshot.Files.plain (entries ++ [(path, bytes)])).reply op := by
  have others : ∀ asked, asked ≠ path →
      (entries ++ [(path, bytes')]).lookup asked = (entries ++ [(path, bytes)]).lookup asked := by
    intro asked different
    rw [List.lookup_append, List.lookup_append, List.lookup_cons, List.lookup_cons, beq_false_of_ne different]
  have contents : ∀ asked, asked ≠ path → (Snapshot.Files.plain (entries ++ [(path, bytes')])).contents asked =
      (Snapshot.Files.plain (entries ++ [(path, bytes)])).contents asked := by
    intro asked different
    unfold Snapshot.Files.plain
    dsimp only
    rw [others asked different]
  have present : ∀ asked, ((entries ++ [(path, bytes')]).lookup asked).isNone =
      ((entries ++ [(path, bytes)]).lookup asked).isNone := by
    intro asked
    by_cases same : asked = path
    · rw [List.lookup_append, List.lookup_append, List.lookup_cons, List.lookup_cons, beq_iff_eq.mpr same]
      cases entries.lookup asked <;> rfl
    · rw [others asked same]
  cases op with
  | read asked cap =>
    show Snapshot.Files.readBounded _ _ _ = Snapshot.Files.readBounded _ _ _
    unfold Snapshot.Files.readBounded
    rw [contents asked apart]
  | readBytes asked => exact contents asked apart
  | lstat asked =>
    have same := present asked
    unfold Snapshot.Files.reply Snapshot.Files.plain
    dsimp only
    split <;> split <;> simp_all
  | resolve asked => rfl
  | pathExists asked => rfl
  | isDir asked => exact congrArg Except.ok (present asked)

/-- A catalog that pins the generation of one project. -/
def pinningCatalog : Lib.Bytes :=
  Snapshot.bytesOf (("\x7b\"analysis_profile\":\"p\",\"coverage\":\"partial\"," : Text) ++
    ("\"projects\":[\x7b\"generation_id\":\"" : Text) ++ flatteringId ++
    ("\",\"project_id\":\"core\",\"source_fingerprint\":\"" : Text) ++ Snapshot.zeros ++
    ("\"\x7d],\"schema_version\":1,\"solution_id\":\"shop\"\x7d\n" : Text))

def pinningId : Text := "6e2f731e7960785168bee228075ffc0deb3e4e4d664b7eb755b08b271cd88fdc"

/-- SHA-256, on these bytes. -/
def pinningSha256 (bytes : Lib.Bytes) : Text := if bytes = pinningCatalog then pinningId else flatteringSha256 bytes

/-- The catalog's lane and the pinned generation. -/
def pinnedEntries : List (Snapshot.Path × Lib.Bytes) :=
  let catalogRoot : Snapshot.Path := { parts := ["repo", ".axiom", "graph", "shop", "_catalog", "live"] }
  [(catalogRoot.child Snapshot.currentPointerName, Snapshot.samplePointer pinningId),
    (catalogRoot.joined ["generations", pinningId, "manifest.json"], pinningCatalog),
    ((Snapshot.sampleRoot "core").joined ["generations", flatteringId, "manifest.json"], partialManifest),
    ((Snapshot.sampleRoot "core").joined ["generations", flatteringId, "coverage.json"], completeShard)]

/-- The pointer of the project's own lane. -/
def ownPointer : Snapshot.Path := (Snapshot.sampleRoot "core").child Snapshot.currentPointerName

/-- The store, with a pointer of the project's own. -/
def pinningFiles (pointer : Lib.Bytes) : Snapshot.Files := .plain (pinnedEntries ++ [(ownPointer, pointer)])

/-- A caller of the shop. -/
def pinningReader : ToolContext ℕ :=
  { shopContext (shopCaller {Security.capabilityRead} none) with sha256 := pinningSha256 }

/-- A search in the project. -/
def pinningArguments : JsonObject :=
  [("solution_id", .str "shop"), ("project_id", .str "core"), ("operation", .str "search"), ("query", .str "main")]

/-- The pointer of the project is in no footprint. -/
theorem ownPointer_unread {pointer : Lib.Bytes} {op : FileOp}
    (asked : Footprint pinningReader (pinningFiles pointer) "shop" (fun _ => True) op) :
    ¬ ReadsContent ownPointer op := by
  have long : ∀ {location generationId directory},
      PinnedDirectory pinningReader (pinningFiles pointer) "shop" (fun _ => True) location generationId directory →
        ¬ directory.Contains ownPointer := by
    rintro location generationId directory ⟨⟨_, member, _, _, _, located, _⟩, rooted⟩ inside
    obtain ⟨solution, registered, repo, hosted, _, _, _, root⟩ := Snapshot.location_root located
    obtain rfl := List.mem_singleton.mp registered
    obtain rfl := List.mem_singleton.mp hosted
    obtain ⟨name, _, done⟩ := bind_eq_ok.mp rooted
    cases done
    have length := inside.2.length_le
    rw [SnapshotLocation.generationsRoot, root] at length
    exact absurd length (by simp [Snapshot.Path.child, Snapshot.Path.joined, ownPointer, Snapshot.sampleRoot])
  have named : ∀ {directory : Snapshot.Path} {name : Text}, name ≠ Snapshot.currentPointerName →
      directory.child name ≠ ownPointer := by
    intro directory name different same
    have names := congrArg Snapshot.Path.name same
    rw [ownPointer, Snapshot.Path.name_child, Snapshot.Path.name_child] at names
    exact different names
  cases asked with
  | pointer located =>
    intro same
    obtain ⟨solution, registered, repo, hosted, _, _, _, root⟩ := Snapshot.catalogLocation_root located
    obtain rfl := List.mem_singleton.mp registered
    obtain rfl := List.mem_singleton.mp hosted
    change Snapshot.CatalogLocation.pointer _ = ownPointer at same
    rw [Snapshot.CatalogLocation.pointer, root] at same
    exact absurd same (by decide)
  | catalog _ => exact named (by decide)
  | manifest _ => exact named (by decide)
  | inside pinned below about =>
    rcases about with rfl | rfl | ⟨cap, rfl⟩
    · exact id
    · exact id
    · rintro rfl
      exact long pinned below
  | root _ => exact id
  | bound _ _ about => rcases about with rfl | rfl <;> exact id
  | reference _ _ _ => exact id
  | shard pinned bound below =>
    rintro rfl
    obtain rfl := Except.ok.inj bound
    exact long pinned below.1
  | guard _ _ => exact id

theorem pinningRequest_solution {request : QueryRequest}
    (asked : queryRequest pinningArguments pinningReader = .ok request) : request.solutionId = "shop" := by
  have same : (queryRequest pinningArguments pinningReader).toOption.map QueryRequest.solutionId =
      some "shop" := by decide +kernel
  rw [asked] at same
  exact Option.some.inj same

/-- A query is answered, and does not read the project's own pointer. -/
theorem graphQuery_footprint_pinning : ∃ calls document,
    QueryRun pinningReader pinningArguments (pinningFiles []) calls (.ok document) ∧
      ∀ op, (∃ call ∈ calls, call.op = .read (.file op)) → ¬ ReadsContent ownPointer op := by
  have answered : (outcomeAlone (pinningFiles []) (graphQuery pinningArguments pinningReader)).map Except.isOk =
      some true := by decide +kernel
  obtain ⟨calls, document, run⟩ := QueryRun.of_alone answered
  refine ⟨calls, document, run, fun op asks => ?_⟩
  obtain ⟨request, asked, within⟩ := graphQuery_footprint pinningReader pinningArguments _ calls _ run op asks
  rw [pinningRequest_solution asked] at within
  exact ownPointer_unread within

/-- A project is published again, and its pointer is broken then: the query is answered as before. -/
theorem graphQuery_pinned_republished : ∃ calls document,
    QueryRun pinningReader pinningArguments (pinningFiles (Snapshot.samplePointer flatteringId))
      calls (.ok document) ∧
      QueryRun pinningReader pinningArguments (pinningFiles []) calls (.ok document) := by
  have answered : (outcomeAlone (pinningFiles (Snapshot.samplePointer flatteringId))
      (graphQuery pinningArguments pinningReader)).map Except.isOk = some true := by decide +kernel
  obtain ⟨calls, document, run⟩ := QueryRun.of_alone answered
  refine ⟨calls, document, run, ?_⟩
  refine (graphQuery_pinned pinningReader pinningArguments _ _ (fun request asked op within => ?_)
    calls (.ok document)).mp run
  rw [pinningRequest_solution asked] at within
  exact plain_reply (ownPointer_unread within)

end AxiomMcp.Tools
