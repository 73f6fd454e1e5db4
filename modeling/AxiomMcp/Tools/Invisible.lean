/-
**Projects that a query does not name (`graph_query`).**

The vector of a query pins every member of the solution's catalog, those out of the request too. Their manifests are
read, and a bad one ends the query; but nothing of them is in the answer.

* `SameVector`: vectors that agree on the projects of a request;
* `loadVector_others`: stores that differ in the other members yield such vectors, if none of these ends the loop;
* `graphQuery_others`: **the members out of a request can deny the answer, and can change nothing of it**.
-/

import AxiomMcp.Tools.Footprint

namespace AxiomMcp.Tools

open Lib Program Machine
open Snapshot (Catalog CatalogMember CatalogVector catalogFilename manifestFilename FileOp FileReply
  FileProgram MemberPin Passes pinCatalog pinMember pinMembers projectMemberOpener
  loadSolutionCatalog)

/-! ### Reads of whole files -/

/-- A call of a handler to the file system. -/
def fileCall (call : Call FileOp FileReply) : Call ToolOp ToolReply := ⟨.read (.file call.op), call.reply⟩

/-- The traces of a part that asks the file system only. -/
theorem trace_readingFiles_iff {α : Type} {p : FileProgram α} {calls : List (Call ToolOp ToolReply)}
    {outcome : Except ToolError α} : Trace (readingFiles p) calls outcome ↔
      ∃ inner ended, Trace p inner ended ∧ outcome = ended.mapError .snapshot ∧ calls = inner.map fileCall := by
  induction p generalizing calls with
  | done a =>
    show Trace (.done a) calls outcome ↔ _
    refine trace_done_iff.trans ⟨?_, ?_⟩
    · rintro ⟨rfl, rfl⟩
      exact ⟨[], _, .done a, rfl, rfl⟩
    · rintro ⟨inner, ended, trace, rfl, rfl⟩
      obtain ⟨rfl, rfl⟩ := trace_done_iff.mp trace
      exact ⟨rfl, rfl⟩
  | raise raised =>
    show Trace (.raise (.snapshot raised)) calls outcome ↔ _
    refine trace_raise_iff.trans ⟨?_, ?_⟩
    · rintro ⟨rfl, rfl⟩
      exact ⟨[], _, .raise raised, rfl, rfl⟩
    · rintro ⟨inner, ended, trace, rfl, rfl⟩
      obtain ⟨rfl, rfl⟩ := trace_raise_iff.mp trace
      exact ⟨rfl, rfl⟩
  | stuck op => exact ⟨fun wrong => (nomatch wrong), fun ⟨_, _, wrong, _⟩ => (nomatch wrong)⟩
  | call op next ih =>
    constructor
    · intro trace
      obtain ⟨reply, rest, rfl, after⟩ := trace_call_iff.mp trace
      obtain ⟨inner, ended, made, same, rfl⟩ := (ih reply).mp after
      exact ⟨⟨op, reply⟩ :: inner, ended, .call made, same, rfl⟩
    · rintro ⟨inner, ended, trace, same, rfl⟩
      obtain ⟨reply, rest, rfl, after⟩ := trace_call_iff.mp trace
      exact .call ((ih reply).mpr ⟨rest, ended, after, same, rfl⟩)

/-- A read of a whole file. -/
def isWhole : ToolOp → Bool
  | .read (.file (.readBytes _)) => true
  | _ => false

/-- All calls but these. -/
def besides (calls : List (Call ToolOp ToolReply)) : List (Call ToolOp ToolReply) :=
  calls.filter fun call => !isWhole call.op

/-- A part that reads whole files only. -/
def Whole : FileOp → Prop
  | .readBytes _ => True
  | _ => False

theorem besides_append (one other : List (Call ToolOp ToolReply)) :
    besides (one ++ other) = besides one ++ besides other :=
  List.filter_append ..

/-- It makes no other calls. -/
theorem besides_readingFiles {α : Type} {p : FileProgram α} (whole : p.Only Whole)
    {calls : List (Call ToolOp ToolReply)} {outcome : Except ToolError α}
    (trace : Trace (readingFiles p) calls outcome) : besides calls = [] := by
  obtain ⟨inner, ended, made, _, rfl⟩ := trace_readingFiles_iff.mp trace
  refine List.filter_eq_nil_iff.mpr fun call member => ?_
  obtain ⟨⟨op, reply⟩, here, rfl⟩ := List.mem_map.mp member
  have asked := made.only whole _ here
  cases op <;> first | exact asked.elim | simp [fileCall, isWhole]

/-- What a part of the files comes to over a store. -/
theorem readingFiles_store {α : Type} {p : FileProgram α} {files : Snapshot.Files} {outcome : Except ToolError α} :
    (∃ calls, Trace (readingFiles p) calls outcome ∧ ∀ call ∈ calls, toolAnswers files call.op call.reply) ↔
      ∃ ended, p.against files.reply = some ended ∧ outcome = ended.mapError .snapshot := by
  constructor
  · rintro ⟨calls, trace, store⟩
    obtain ⟨inner, ended, made, same, rfl⟩ := trace_readingFiles_iff.mp trace
    exact ⟨ended, against_of_trace made fun call member => store _ (List.mem_map_of_mem member), same⟩
  · rintro ⟨ended, comes, rfl⟩
    obtain ⟨inner, made, given⟩ := trace_of_against comes
    refine ⟨inner.map fileCall, trace_readingFiles_iff.mpr ⟨inner, ended, made, rfl, rfl⟩, fun call member => ?_⟩
    obtain ⟨own, here, rfl⟩ := List.mem_map.mp member
    exact given own here

theorem readBytes_whole {α : Type} (path : Snapshot.Path) (next : Except OSFault Lib.Bytes → Except Raised α) :
    (Program.call (.readBytes path) fun reply => ofExcept (next reply) : FileProgram α).Only Whole :=
  ⟨trivial, fun _ => only_ofExcept _⟩

section Whole

variable {py : Interpreter} {sha256 : Lib.Bytes → Text}

theorem loadSolutionCatalog_whole (location : Snapshot.CatalogLocation) :
    (loadSolutionCatalog py sha256 location).Only Whole := by
  refine Only.bind ?_ fun pair => trivial
  refine Only.bind (Only.bind (readBytes_whole _ _) fun raw => only_ofExcept _) fun pointer => ?_
  refine Only.bind (only_ofExcept _) fun directory => ?_
  refine Only.bind (Only.bind (readBytes_whole _ _) fun raw => only_ofExcept _) fun catalog => ?_
  split
  · exact trivial
  · split <;> exact trivial

theorem pinMembers_whole (locationFor : Text → Except Raised Snapshot.SnapshotLocation)
    (members : List CatalogMember) :
    (pinMembers (projectMemberOpener py sha256 locationFor) members).Only Whole := by
  have one (member : CatalogMember) :
      (pinMember (projectMemberOpener py sha256 locationFor) member).Only Whole := by
    refine Only.resume ?_ fun outcome => ?_
    · refine Only.bind ((only_ofExcept _).rescue fun raised => ?_) fun location => ?_
      · split <;> exact trivial
      · refine Only.bind (only_ofExcept _) fun directory => ?_
        refine Only.bind ((readBytes_whole _ _).rescue fun raised => ?_) fun raw => ?_
        · split <;> exact trivial
        · refine Only.bind (only_ofExcept _) fun manifest => ?_
          exact Only.bind (only_ofExcept _) fun _ => trivial
    · unfold Snapshot.recordPin
      split <;> exact trivial
  induction members with
  | nil => exact trivial
  | cons member rest ih => exact Only.bind (one member) fun pin => Only.bind ih fun pins => trivial

theorem pinCatalog_whole (locationFor : Text → Except Raised Snapshot.SnapshotLocation) (catalog : Catalog) :
    (pinCatalog sha256 catalog (projectMemberOpener py sha256 locationFor)).Only Whole :=
  (pinMembers_whole locationFor catalog.vector).bind fun _ => trivial

end Whole

/-! ### Vectors of two stores -/

/-- Pins of one member, which are equal if it is in question. -/
def SamePin (among : Text → Prop) (pin pin' : MemberPin) : Prop :=
  pin.member = pin'.member ∧ (among pin.member.projectId → pin = pin')

/-- The projects in question are pinned alike. -/
def AlikePins (among : Text → Prop) (vector vector' : CatalogVector) : Prop :=
  ∀ projectId, among projectId → (pinsOf vector).get? projectId = (pinsOf vector').get? projectId

/-- One outcome, but for the members that are not in question. -/
inductive SameOutcome {ε α : Type} (same : α → α → Prop) : Except ε α → Except ε α → Prop
  | ok {a a' : α} (both : same a a') : SameOutcome same (.ok a) (.ok a')
  | error (raised : ε) : SameOutcome same (.error raised) (.error raised)

theorem alikePins_of_forall₂ {among : Text → Prop} {vector vector' : CatalogVector}
    (each : List.Forall₂ (SamePin among) vector.pins vector'.pins) : AlikePins among vector vector' := by
  intro projectId seen
  have general : ∀ {pins pins' : List MemberPin} {d d' : Dict Text MemberPin},
      List.Forall₂ (SamePin among) pins pins' → d.get? projectId = d'.get? projectId →
        (pins.foldl (fun d pin => d.set pin.member.projectId pin) d).get? projectId =
          (pins'.foldl (fun d pin => d.set pin.member.projectId pin) d').get? projectId := by
    intro pins pins' d d' each same
    induction each generalizing d d' with
    | nil => exact same
    | cons first _ ih =>
      refine ih ?_
      obtain ⟨member, equal⟩ := first
      rw [Dict.get?_set, Dict.get?_set, member]
      split
      · next here => rw [equal (by rw [member, ← here]; exact seen)]
      · exact same
  exact general each rfl

section Vectors

variable {Time : Type} {context : ToolContext Time} {files files' : Snapshot.Files} {solutionId : Text}
  {among : Text → Prop}

/-- Where the members of a solution's catalog are. -/
abbrev memberLocations (context : ToolContext Time) (solutionId projectId : Text) :
    Except Raised Snapshot.SnapshotLocation :=
  context.registry.location context.interpreter solutionId projectId queryLane

/-- The members that are not in question are recorded, as there or as missing, and end no query. -/
def OthersPass (context : ToolContext Time) (solutionId : Text) (among : Text → Prop) (files : Snapshot.Files) :
    Prop :=
  ∀ catalog, NamesCatalog context files solutionId catalog → ∀ member ∈ catalog.vector, ¬ among member.projectId →
    Passes context.interpreter files (memberLocations context solutionId) member

/-- A member that passes is recorded under its own name. -/
theorem pinMember_passes {member : CatalogMember}
    (passes : Passes context.interpreter files (memberLocations context solutionId) member) :
    ∃ pin, (pinMember (projectMemberOpener context.interpreter context.sha256 (memberLocations context solutionId))
      member).against files.reply = some (.ok pin) ∧ pin.member = member := by
  rcases Snapshot.pinMember_against context.interpreter context.sha256 files (memberLocations context solutionId)
    member with ⟨_, pin, recorded, ends⟩ | ⟨fails, _⟩
  · exact ⟨pin, ends, recorded.1⟩
  · exact absurd passes fails

/-- The loops over the members of a catalog in two stores. -/
theorem pinMembers_others {catalog : Catalog} (agree : AgreeOn context solutionId among files files')
    (named : NamesCatalog context files solutionId catalog) {members : List CatalogMember}
    (listed : ∀ member ∈ members, member ∈ catalog.vector)
    (passes : ∀ member ∈ members, ¬ among member.projectId →
      Passes context.interpreter files (memberLocations context solutionId) member ∧
        Passes context.interpreter files' (memberLocations context solutionId) member)
    {outcome : Except Raised (List MemberPin)}
    (ended : (pinMembers (projectMemberOpener context.interpreter context.sha256
      (memberLocations context solutionId)) members).against files.reply = some outcome) :
    ∃ outcome', (pinMembers (projectMemberOpener context.interpreter context.sha256
      (memberLocations context solutionId)) members).against files'.reply = some outcome' ∧
        SameOutcome (List.Forall₂ (SamePin among)) outcome outcome' := by
  induction members generalizing outcome with
  | nil =>
    obtain rfl := Option.some.inj ended
    exact ⟨.ok [], rfl, .ok .nil⟩
  | cons member rest ih =>
    obtain ⟨here, others⟩ := List.forall_mem_cons.mp listed
    obtain ⟨passesHere, passesOthers⟩ := List.forall_mem_cons.mp passes
    have first : (∃ pin pin', (pinMember (projectMemberOpener context.interpreter context.sha256
          (memberLocations context solutionId)) member).against files.reply = some (.ok pin) ∧
        (pinMember (projectMemberOpener context.interpreter context.sha256
          (memberLocations context solutionId)) member).against files'.reply = some (.ok pin') ∧
          SamePin among pin pin') ∨
      ∃ raised, (pinMember (projectMemberOpener context.interpreter context.sha256
          (memberLocations context solutionId)) member).against files.reply = some (.error raised) ∧
        (pinMember (projectMemberOpener context.interpreter context.sha256
          (memberLocations context solutionId)) member).against files'.reply = some (.error raised) := by
      by_cases seen : among member.projectId
      · obtain ⟨one, ends⟩ : ∃ one, (pinMember (projectMemberOpener context.interpreter context.sha256
            (memberLocations context solutionId)) member).against files.reply = some one := by
          rcases Snapshot.pinMember_against context.interpreter context.sha256 files
            (memberLocations context solutionId) member with ⟨_, pin, _, ends⟩ | ⟨_, raised, ends⟩
          · exact ⟨_, ends⟩
          · exact ⟨_, ends⟩
        have moved := ((pinMember_along named here seen).against agree ends).1
        cases one with
        | ok pin => exact .inl ⟨pin, pin, ends, moved, rfl, fun _ => rfl⟩
        | error raised => exact .inr ⟨raised, ends, moved⟩
      · obtain ⟨one, two⟩ := passesHere seen
        obtain ⟨pin, ends, own⟩ := pinMember_passes one
        obtain ⟨pin', ends', own'⟩ := pinMember_passes two
        refine .inl ⟨pin, pin', ends, ends', own.trans own'.symm, fun wrong => absurd (own ▸ wrong) seen⟩
    unfold pinMembers at ended ⊢
    rcases first with ⟨pin, pin', ends, ends', same⟩ | ⟨raised, ends, ends'⟩
    · rw [against_bind ends] at ended
      rw [against_bind ends']
      change ((pinMembers _ rest).resume _).against files.reply = _ at ended
      show ∃ outcome', ((pinMembers _ rest).resume _).against files'.reply = some outcome' ∧ _
      rw [against_resume] at ended ⊢
      obtain ⟨later, loops, ended⟩ := Option.bind_eq_some_iff.mp ended
      obtain ⟨later', loops', both⟩ := ih others passesOthers loops
      rw [loops']
      cases both with
      | ok each =>
        obtain rfl := Option.some.inj ended
        exact ⟨_, rfl, .ok (.cons same each)⟩
      | error raised =>
        obtain rfl := Option.some.inj ended
        exact ⟨_, rfl, .error raised⟩
    · rw [against_bind ends] at ended
      rw [against_bind ends']
      obtain rfl := Option.some.inj ended
      exact ⟨_, rfl, .error raised⟩

/-- The vectors of a catalog in two stores. -/
theorem pinCatalog_others {catalog : Catalog} (agree : AgreeOn context solutionId among files files')
    (named : NamesCatalog context files solutionId catalog)
    (passes : ∀ member ∈ catalog.vector, ¬ among member.projectId →
      Passes context.interpreter files (memberLocations context solutionId) member ∧
        Passes context.interpreter files' (memberLocations context solutionId) member)
    {ended : Except Raised CatalogVector}
    (comes : (pinCatalog context.sha256 catalog (projectMemberOpener context.interpreter context.sha256
      (memberLocations context solutionId))).against files.reply = some ended) :
    ∃ ended', (pinCatalog context.sha256 catalog (projectMemberOpener context.interpreter context.sha256
      (memberLocations context solutionId))).against files'.reply = some ended' ∧
        SameOutcome (AlikePins among) ended ended' := by
  unfold pinCatalog at comes ⊢
  rw [bind_def, against_resume] at comes ⊢
  obtain ⟨pins, loops, comes⟩ := Option.bind_eq_some_iff.mp comes
  obtain ⟨pins', loops', same⟩ := pinMembers_others agree named (fun _ member => member) passes loops
  rw [loops']
  cases same with
  | ok each =>
    obtain rfl := Option.some.inj comes
    exact ⟨_, rfl, .ok (alikePins_of_forall₂ each)⟩
  | error raised =>
    obtain rfl := Option.some.inj comes
    exact ⟨_, rfl, .error raised⟩

variable (files among) in
/-- The catalog of a solution is read from the footprint. -/
theorem readCatalog_along {location : Snapshot.CatalogLocation}
    (located : context.registry.catalogLocation context.interpreter solutionId queryLane = .ok location) :
    FilesAlong files (Footprint context files solutionId among)
      (fun outcome => ∀ catalog, outcome = .ok catalog → NamesCatalog context files solutionId catalog)
      (loadSolutionCatalog context.interpreter context.sha256 location) :=
  loadSolutionCatalog_along located

/-- **Vectors of one catalog in two stores.** -/
theorem loadVector_others (agree : AgreeOn context solutionId among files files')
    (passes : OthersPass context solutionId among files) (passes' : OthersPass context solutionId among files')
    {calls : List (Call ToolOp ToolReply)} {outcome : Except ToolError CatalogVector}
    (trace : Trace (loadVector context solutionId) calls outcome)
    (store : ∀ call ∈ calls, toolAnswers files call.op call.reply) :
    ∃ calls' outcome', Trace (loadVector context solutionId) calls' outcome' ∧
      (∀ call ∈ calls', toolAnswers files' call.op call.reply) ∧ besides calls = [] ∧ besides calls' = [] ∧
        SameOutcome (AlikePins among) outcome outcome' := by
  rcases trace_ofExcept_bind_iff.mp trace with ⟨raised, same, rfl, rfl⟩ | ⟨location, located, trace⟩
  · exact ⟨[], _, trace_ofExcept_bind_iff.mpr (.inl ⟨raised, same, rfl, rfl⟩), fun _ wrong => (nomatch wrong), rfl,
      rfl, .error raised⟩
  have along := readCatalog_along files among (mapError_eq_ok.mp located)
  have read : (loadSolutionCatalog context.interpreter context.sha256 location).Only Whole :=
    loadSolutionCatalog_whole location
  have begins {calls' outcome'} (later : Trace (do
      let catalog ← readingFiles (loadSolutionCatalog context.interpreter context.sha256 location)
      readingFiles (pinCatalog context.sha256 catalog (projectMemberOpener context.interpreter context.sha256
        (memberLocations context solutionId)))) calls' outcome') :
          Trace (loadVector context solutionId) calls' outcome' :=
    trace_ofExcept_bind_iff.mpr (.inr ⟨location, located, later⟩)
  rcases trace_bind_iff.mp trace with ⟨raised, first, rfl⟩ | ⟨catalog, one, other, rfl, first, second⟩
  · obtain ⟨ended, comes, same⟩ := readingFiles_store.mp ⟨calls, first, store⟩
    obtain ⟨calls', made, store'⟩ := readingFiles_store.mpr ⟨ended, (along.against agree comes).1, same⟩
    exact ⟨calls', _, begins (trace_bind_iff.mpr (.inl ⟨raised, made, rfl⟩)), store',
      besides_readingFiles read first, besides_readingFiles read made, .error raised⟩
  · obtain ⟨here, later⟩ := List.forall_mem_append.mp store
    obtain ⟨ended, comes, same⟩ := readingFiles_store.mp ⟨one, first, here⟩
    obtain ⟨moved, names⟩ := along.against agree comes
    obtain ⟨one', made, here'⟩ := readingFiles_store.mpr ⟨ended, moved, same⟩
    have named : NamesCatalog context files solutionId catalog := names catalog (mapError_eq_ok.mp same.symm)
    have named' : NamesCatalog context files' solutionId catalog :=
      (catalog_agree fun op there => (agree op ((footprint_agree agree).mp there)).symm).2 catalog named
    obtain ⟨vector, comes, rfl⟩ := readingFiles_store.mp ⟨other, second, later⟩
    obtain ⟨vector', comes', alike⟩ := pinCatalog_others agree named (fun member listed out =>
      ⟨passes catalog named member listed out, passes' catalog named' member listed out⟩) comes
    obtain ⟨other', finishes, later'⟩ := readingFiles_store.mpr ⟨vector', comes', rfl⟩
    have pins : (pinCatalog context.sha256 catalog (projectMemberOpener context.interpreter context.sha256
        (memberLocations context solutionId))).Only Whole := pinCatalog_whole _ _
    refine ⟨one' ++ other', _, begins (trace_bind_iff.mpr (.inr ⟨catalog, one', other', rfl, made, finishes⟩)),
      List.forall_mem_append.mpr ⟨here', later'⟩, ?_, ?_, ?_⟩
    · rw [besides_append, besides_readingFiles read first, besides_readingFiles pins second, List.append_nil]
    · rw [besides_append, besides_readingFiles read made, besides_readingFiles pins finishes, List.append_nil]
    · cases alike with
      | ok both => exact .ok both
      | error raised => exact .error _

/-- Projects that are pinned alike are loaded by one program. -/
theorem loadPinnedProjects_congr {vector vector' : CatalogVector} (alike : AlikePins among vector vector')
    {projects : List Text} (seen : ∀ projectId ∈ projects, among projectId) :
    loadPinnedProjects context solutionId (pinsOf vector') projects =
      loadPinnedProjects context solutionId (pinsOf vector) projects := by
  induction projects with
  | nil => rfl
  | cons projectId rest ih =>
    obtain ⟨here, others⟩ := List.forall_mem_cons.mp seen
    have pins : availablePin (pinsOf vector') projectId = availablePin (pinsOf vector) projectId := by
      unfold availablePin
      rw [alike projectId here]
    unfold loadPinnedProjects
    rw [pins, ih others]

/-- Answers of one store are those of another, for a part that asks what they agree on. -/
theorem answers_agree {allowed : FileOp → Prop} (agree : ∀ op, allowed op → files'.reply op = files.reply op)
    {op : ToolOp} {reply : ToolReply op} (within : ToolWithin allowed op) (given : toolAnswers files op reply) :
    toolAnswers files' op reply := by
  cases op with
  | read op =>
    cases op with
    | file op => exact given.trans (agree op within).symm
    | guard op => exact trivial
    | clock => exact trivial
  | _ => exact trivial

/-- **Scopes of one catalog in two stores.** -/
theorem loadScope_others (agree : AgreeOn context solutionId among files files')
    (passes : OthersPass context solutionId among files) (passes' : OthersPass context solutionId among files')
    {projects : List Text} (seen : ∀ projectId ∈ projects, among projectId)
    {calls : List (Call ToolOp ToolReply)} {outcome : Except ToolError Query.GraphSet}
    (trace : Trace (loadScope context solutionId projects) calls outcome)
    (store : ∀ call ∈ calls, toolAnswers files call.op call.reply) :
    ∃ calls', Trace (loadScope context solutionId projects) calls' outcome ∧
      (∀ call ∈ calls', toolAnswers files' call.op call.reply) ∧ besides calls' = besides calls := by
  rcases trace_bind_iff.mp trace with ⟨raised, first, rfl⟩ | ⟨vector, one, other, rfl, first, second⟩
  · obtain ⟨calls', _, made, store', none, none', alike⟩ := loadVector_others agree passes passes' first store
    cases alike
    exact ⟨calls', trace_bind_iff.mpr (.inl ⟨raised, made, rfl⟩), store', none'.trans none.symm⟩
  · obtain ⟨here, later⟩ := List.forall_mem_append.mp store
    obtain ⟨one', _, made, here', none, none', same⟩ := loadVector_others agree passes passes' first here
    cases same with | @ok _ vector' alike => ?_
    have pinned := ((loadVector_along context files solutionId).asked first here).2 vector rfl
    have along : ToolAlong files (Footprint context files solutionId among) (fun _ => True) (do
        let snapshots ← loadPinnedProjects context solutionId (pinsOf vector) projects
        ofExcept (graphSetOf context.interpreter snapshots)) := by
      refine (loadPinnedProjects_along pinned seen).bind (fun snapshots _ _ => ?_) fun _ _ _ => trivial
      exact along_ofExcept trivial
    have later' := along.transfer second (fun op reply within given => answers_agree agree within given) later
    rw [← loadPinnedProjects_congr alike seen] at second
    refine ⟨one' ++ other, trace_bind_iff.mpr (.inr ⟨vector', one', other, rfl, made, second⟩),
      List.forall_mem_append.mpr ⟨here', later'⟩, ?_⟩
    rw [besides_append, besides_append, none, none']

/-- A store names one catalog. -/
theorem namesCatalog_unique {catalog catalog' : Catalog} (one : NamesCatalog context files solutionId catalog)
    (other : NamesCatalog context files solutionId catalog') : catalog = catalog' := by
  obtain ⟨directory, raw, ⟨location, pointed, pointer, located, read, parsed, rooted⟩, held, loaded⟩ := one
  obtain ⟨directory', raw', ⟨location', pointed', pointer', located', read', parsed', rooted'⟩,
    held', loaded'⟩ := other
  obtain rfl := Except.ok.inj (located.symm.trans located')
  obtain rfl := Except.ok.inj (read.symm.trans read')
  obtain rfl := Except.ok.inj (parsed.symm.trans parsed')
  obtain rfl := Except.ok.inj (rooted.symm.trans rooted')
  obtain rfl := Except.ok.inj (held.symm.trans held')
  exact Except.ok.inj (loaded.symm.trans loaded')

/-- A vector is loaded only if every member of the catalog passes. -/
theorem loadVector_passes {calls : List (Call ToolOp ToolReply)} {vector : CatalogVector}
    (trace : Trace (loadVector context solutionId) calls (.ok vector))
    (store : ∀ call ∈ calls, toolAnswers files call.op call.reply) : OthersPass context solutionId among files := by
  intro catalog named member listed _
  rcases trace_ofExcept_bind_iff.mp trace with ⟨_, _, _, wrong⟩ | ⟨location, located, loads⟩
  · cases wrong
  rcases trace_bind_iff.mp loads with ⟨_, _, wrong⟩ | ⟨loaded, one, other, rfl, first, second⟩
  · cases wrong
  obtain ⟨here, later⟩ := List.forall_mem_append.mp store
  have along := readCatalog_along files among (mapError_eq_ok.mp located)
  have own := ((readingFiles_along along).asked first here).2 loaded rfl loaded rfl
  obtain rfl := namesCatalog_unique named own
  obtain ⟨ended, comes, same⟩ := readingFiles_store.mp ⟨other, second, later⟩
  rcases Snapshot.pinCatalog_against context.interpreter context.sha256 files (memberLocations context solutionId)
    catalog with ⟨all, _⟩ | ⟨_, raised, ends⟩
  · exact all member ((mem_sortedBy _ _).mp listed)
  · obtain rfl := Option.some.inj (ends.symm.trans comes)
    cases same

end Vectors

/-! ### Queries of two stores -/

section Queries

variable {Time : Type} [LinearOrder Time] {context : ToolContext Time} {arguments : JsonObject}
  {files files' : Snapshot.Files}

/-- The members that a query does not name pass. -/
def UnnamedPass (context : ToolContext Time) (arguments : JsonObject) (files : Snapshot.Files) : Prop :=
  ∀ request, queryRequest arguments context = .ok request →
    OthersPass context request.solutionId (fun projectId => projectId ∈ request.projects) files

/-- Stores that agree on the catalog and on the generations of the projects that a query names. -/
def NamedAgree (context : ToolContext Time) (arguments : JsonObject) (files files' : Snapshot.Files) : Prop :=
  ∀ request, queryRequest arguments context = .ok request →
    AgreeOn context request.solutionId (fun projectId => projectId ∈ request.projects) files files'

/-- An answered query has come past every member of the catalog. -/
theorem QueryRun.passes {calls : List (Call ToolOp ToolReply)} {document : JsonObject}
    (run : QueryRun context arguments files calls (.ok document)) : UnnamedPass context arguments files := by
  intro request asked
  obtain ⟨trace, store⟩ := run
  rcases trace_ofExcept_bind_iff.mp trace with ⟨_, _, _, wrong⟩ | ⟨own, asked', later⟩
  · cases wrong
  obtain rfl := Except.ok.inj (asked.symm.trans asked')
  rcases trace_bind_iff.mp later with ⟨_, _, wrong⟩ | ⟨_, fresh, rest, rfl, _, later⟩
  · cases wrong
  rcases trace_bind_iff.mp later with ⟨_, _, wrong⟩ | ⟨scope, one, other, rfl, loads, _⟩
  · cases wrong
  rcases trace_bind_iff.mp loads with ⟨_, _, wrong⟩ | ⟨vector, loads, after, rfl, first, _⟩
  · cases wrong
  exact loadVector_passes first fun call member => store call (by simp [member])

/-- A query whose unnamed members pass in both stores is answered, or refused, in one way. -/
theorem QueryRun.others (agree : NamedAgree context arguments files files')
    (passes : UnnamedPass context arguments files) (passes' : UnnamedPass context arguments files')
    {calls : List (Call ToolOp ToolReply)} {outcome : Except ToolError JsonObject}
    (run : QueryRun context arguments files calls outcome) :
    ∃ calls', QueryRun context arguments files' calls' outcome ∧ besides calls' = besides calls := by
  obtain ⟨trace, store⟩ := run
  rcases trace_ofExcept_bind_iff.mp trace with ⟨raised, refused, rfl, rfl⟩ | ⟨request, asked, later⟩
  · exact ⟨[], ⟨trace, fun _ wrong => nomatch wrong⟩, rfl⟩
  have begins {calls' outcome'} (rest : Trace (do
      ensureFresh context request
      let scope ← loadScope context request.solutionId request.projects
      ofExcept (answerQuery arguments context request scope)) calls' outcome') :
      Trace (graphQuery arguments context) calls' outcome' :=
    trace_ofExcept_bind_iff.mpr (.inr ⟨request, asked, rest⟩)
  have fresh {calls' : List (Call ToolOp ToolReply)} {ended : Except ToolError Unit}
      (trace : Trace (ensureFresh context request) calls' ended)
      (store : ∀ call ∈ calls', toolAnswers files call.op call.reply) :
      ∀ call ∈ calls', toolAnswers files' call.op call.reply := by
    have along : ToolAlong files (fun _ => False) (fun _ => True) (ensureFresh context request) :=
      ensureFresh_along request
    exact along.transfer trace (fun op reply within given => answers_agree (fun _ => False.elim) within given) store
  rcases trace_bind_iff.mp later with ⟨raised, first, rfl⟩ | ⟨_, one, rest, rfl, first, later⟩
  · exact ⟨calls, ⟨begins (trace_bind_iff.mpr (.inl ⟨raised, first, rfl⟩)), fresh first store⟩, rfl⟩
  obtain ⟨here, store⟩ := List.forall_mem_append.mp store
  have scopes {calls' ended} (trace : Trace (loadScope context request.solutionId request.projects) calls' ended)
      (store : ∀ call ∈ calls', toolAnswers files call.op call.reply) :=
    loadScope_others (agree request asked) (passes request asked) (passes' request asked) (fun _ member => member)
      trace store
  rcases trace_bind_iff.mp later with ⟨raised, second, rfl⟩ | ⟨scope, two, last, rfl, second, later⟩
  · obtain ⟨calls', made, store', same⟩ := scopes second store
    refine ⟨one ++ calls', ⟨begins (trace_bind_iff.mpr (.inr ⟨(), one, calls', rfl, first, ?_⟩)), ?_⟩, ?_⟩
    · exact trace_bind_iff.mpr (.inl ⟨raised, made, rfl⟩)
    · exact List.forall_mem_append.mpr ⟨fresh first here, store'⟩
    · rw [besides_append, besides_append, same]
  · obtain ⟨loads, _⟩ := List.forall_mem_append.mp store
    obtain ⟨calls', made, store', same⟩ := scopes second loads
    obtain ⟨rfl, ended⟩ := trace_ofExcept_iff.mp later
    refine ⟨one ++ (calls' ++ []), ⟨begins (trace_bind_iff.mpr (.inr ⟨(), one, _, rfl, first, ?_⟩)), ?_⟩, ?_⟩
    · exact trace_bind_iff.mpr (.inr ⟨scope, calls', [], rfl, made, later⟩)
    · rw [List.append_nil]
      exact List.forall_mem_append.mpr ⟨fresh first here, store'⟩
    · rw [besides_append, besides_append, besides_append, besides_append, same]

end Queries

/-- **The projects that a query does not name can deny its answer, and can change nothing of it.** Of stores that
agree on the catalog and on the generations of the named projects, an answered query of one is a query of the other
with the same answer exactly if the manifests of the unnamed members are accepted there or cannot be read. The two
runs differ in the manifests that are read for the vector only. -/
theorem graphQuery_others {Time : Type} [LinearOrder Time] (context : ToolContext Time) (arguments : JsonObject)
    (files files' : Snapshot.Files) (agree : NamedAgree context arguments files files')
    (calls : List (Call ToolOp ToolReply)) (document : JsonObject)
    (answered : QueryRun context arguments files calls (.ok document)) :
    (∃ calls', QueryRun context arguments files' calls' (.ok document) ∧ besides calls' = besides calls) ↔
      UnnamedPass context arguments files' :=
  ⟨fun ⟨_, run, _⟩ => run.passes, fun passes => answered.others agree answered.passes passes⟩

/-! ### A project next to a queried one -/

/-- A catalog that pins two projects. -/
def neighborCatalog : Lib.Bytes :=
  Snapshot.bytesOf (("\x7b\"analysis_profile\":\"p\",\"coverage\":\"partial\"," : Text) ++
    ("\"projects\":[\x7b\"generation_id\":\"" : Text) ++ flatteringId ++
    ("\",\"project_id\":\"core\",\"source_fingerprint\":\"" : Text) ++ Snapshot.zeros ++
    ("\"\x7d,\x7b\"generation_id\":\"" : Text) ++ Snapshot.twinId ++
    ("\",\"project_id\":\"other\",\"source_fingerprint\":\"" : Text) ++ Snapshot.zeros ++
    ("\"\x7d],\"schema_version\":1,\"solution_id\":\"shop\"\x7d\n" : Text))

def neighborId : Text := "92585261c0cfddba4270ccb6514d1d8dc86a48f4fb8b41e289f21a58beb09c86"

/-- SHA-256, on these bytes. -/
def neighborSha256 (bytes : Lib.Bytes) : Text :=
  if bytes = neighborCatalog then neighborId
  else if bytes = Snapshot.sampleManifest "other" then Snapshot.twinId
  else if bytes = Snapshot.sampleManifest "core" then Snapshot.sampleId
  else flatteringSha256 bytes

/-- The catalog's lane, and the generation of one member. -/
def neighborEntries : List (Snapshot.Path × Lib.Bytes) :=
  let catalogRoot : Snapshot.Path := { parts := ["repo", ".axiom", "graph", "shop", "_catalog", "live"] }
  [(catalogRoot.child Snapshot.currentPointerName, Snapshot.samplePointer neighborId),
    (catalogRoot.joined ["generations", neighborId, "manifest.json"], neighborCatalog),
    ((Snapshot.sampleRoot "core").joined ["generations", flatteringId, "manifest.json"], partialManifest),
    ((Snapshot.sampleRoot "core").joined ["generations", flatteringId, "coverage.json"], completeShard)]

/-- The manifest of the other member. -/
def neighborManifest : Snapshot.Path :=
  (Snapshot.sampleRoot "other").joined ["generations", Snapshot.twinId, "manifest.json"]

/-- The store, by the content of that manifest. -/
def neighborFiles (manifest : Lib.Bytes) :
    Snapshot.Files := .plain (neighborEntries ++ [(neighborManifest, manifest)])

/-- A caller of the shop. -/
def neighborReader : ToolContext ℕ :=
  { shopContext (shopCaller {Security.capabilityRead} none) with sha256 := neighborSha256 }

/-- A query in the one project asks nothing of the other's manifest. -/
theorem neighborManifest_unread {manifest : Lib.Bytes} {op : FileOp}
    (asked : Footprint neighborReader (neighborFiles manifest) "shop"
      (fun projectId => projectId ∈ [("core" : Text)]) op) :
    ¬ ReadsContent neighborManifest op := by
  have apart : ∀ {location generationId directory}, PinnedDirectory neighborReader (neighborFiles manifest) "shop"
      (fun projectId => projectId ∈ [("core" : Text)]) location generationId directory →
        ¬ directory.Contains neighborManifest := by
    rintro location generationId directory ⟨⟨_, member, _, _, seen, located, _⟩, rooted⟩ inside
    obtain ⟨solution, registered, repo, hosted, _, _, _, root⟩ := Snapshot.location_root located
    obtain rfl := List.mem_singleton.mp registered
    obtain rfl := List.mem_singleton.mp hosted
    obtain ⟨name, _, done⟩ := bind_eq_ok.mp rooted
    cases done
    have below : location.root.parts <+: neighborManifest.parts :=
      List.IsPrefix.trans ⟨_, rfl⟩ (List.IsPrefix.trans ⟨_, rfl⟩ inside.2)
    rw [root, List.mem_singleton.mp seen] at below
    exact absurd below (by decide)
  cases asked with
  | pointer located =>
    intro same
    obtain ⟨solution, registered, repo, hosted, _, _, _, root⟩ := Snapshot.catalogLocation_root located
    obtain rfl := List.mem_singleton.mp registered
    obtain rfl := List.mem_singleton.mp hosted
    change Snapshot.CatalogLocation.pointer _ = neighborManifest at same
    rw [Snapshot.CatalogLocation.pointer, root] at same
    exact absurd same (by decide)
  | catalog named =>
    intro same
    obtain ⟨location, _, pointer, located, _, _, rooted⟩ := named
    obtain ⟨solution, registered, repo, hosted, _, _, _, root⟩ := Snapshot.catalogLocation_root located
    obtain rfl := List.mem_singleton.mp registered
    obtain rfl := List.mem_singleton.mp hosted
    obtain ⟨name, _, done⟩ := bind_eq_ok.mp rooted
    cases done
    have below : location.root.parts <+: neighborManifest.parts := by
      rw [← (same : Snapshot.Path.child _ catalogFilename = neighborManifest)]
      exact List.IsPrefix.trans ⟨_, rfl⟩ (List.IsPrefix.trans ⟨_, rfl⟩ ⟨_, rfl⟩)
    rw [root] at below
    exact absurd below (by decide)
  | manifest pinned =>
    intro same
    refine apart pinned ?_
    rw [← (same : Snapshot.Path.child _ manifestFilename = neighborManifest)]
    exact Snapshot.Path.contains_child (Snapshot.Path.contains_refl _) _
  | inside pinned below about =>
    rcases about with rfl | rfl | ⟨cap, rfl⟩
    · exact id
    · exact id
    · rintro rfl
      exact apart pinned below
  | root _ => exact id
  | bound _ _ about => rcases about with rfl | rfl <;> exact id
  | reference _ _ _ => exact id
  | shard pinned bound below =>
    rintro rfl
    obtain rfl := Except.ok.inj bound
    exact apart pinned below.1
  | guard _ _ => exact id

/-- A search in the one project names it alone. -/
theorem neighborRequest {request : QueryRequest}
    (asked : queryRequest pinningArguments neighborReader = .ok request) :
    request.solutionId = "shop" ∧ request.projects = [("core" : Text)] := by
  have same : (queryRequest pinningArguments neighborReader).toOption.map
      (fun request => (request.solutionId, request.projects)) = some (("shop" : Text), [("core" : Text)]) := by
    decide +kernel
  rw [asked] at same
  exact Prod.mk.inj (Option.some.inj same)

/-- The other member's manifest is replaced by one of another generation: the query is answered as before. -/
theorem graphQuery_others_replaced : ∃ calls document,
    QueryRun neighborReader pinningArguments (neighborFiles (Snapshot.sampleManifest "other")) calls
      (.ok document) ∧
      ∃ calls', QueryRun neighborReader pinningArguments (neighborFiles (Snapshot.sampleManifest "core")) calls'
        (.ok document) ∧ besides calls' = besides calls := by
  have answered : (outcomeAlone (neighborFiles (Snapshot.sampleManifest "other"))
      (graphQuery pinningArguments neighborReader)).map Except.isOk = some true := by decide +kernel
  have loaded : (outcomeAlone (neighborFiles (Snapshot.sampleManifest "core"))
      (loadVector neighborReader "shop")).map Except.isOk = some true := by decide +kernel
  obtain ⟨calls, document, run⟩ := QueryRun.of_alone answered
  obtain ⟨outcome, ended, fine⟩ := Option.map_eq_some_iff.mp loaded
  obtain ⟨_, trace, store⟩ := store_alone ended
  refine ⟨calls, document, run,
    (graphQuery_others neighborReader pinningArguments _ _ ?_ calls document run).mpr ?_⟩
  · intro request asked op within
    obtain ⟨solution, projects⟩ := neighborRequest asked
    rw [solution, projects] at within
    exact plain_reply (neighborManifest_unread within)
  · intro request asked
    rw [(neighborRequest asked).1]
    cases outcome with
    | ok vector => exact loadVector_passes trace store
    | error raised => cases fine

end AxiomMcp.Tools
