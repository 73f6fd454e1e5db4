/-
**Tool calls side by side over one retention (`retention.py`, `runtime.py`).**

The callers of a server share its retention, which answers one operation at a time. Between the lookup of a load
and its store other calls may come, look the same key up, store it and drop it again.

* `PutsLoaded`: what is retained was loaded by its own calls, which holds of every tool (`callTool_loadsFirst`);
* `threads_handed`: a retention that answers such calls hands out the generations that its keys name;
* `FromGeneration`: what a load returns there, `sourceLoadPinned_returns`;
* `shared_retention`: **in every order of the calls, one retention is safe to share**.
-/

import AxiomMcp.Lib.Logs
import AxiomMcp.Tools.CoverageReports
import AxiomMcp.Tools.Dispatch
import AxiomMcp.Tools.Retention

namespace AxiomMcp.Tools

open Lib Program
open Snapshot (Alike LoadedSnapshot MadeOfGeneration SnapshotLocation)

/-! ### What calls retain -/

section Puts

variable {Time : Type} {context base : ToolContext Time} {α β : Type} {calls one two : List (Call ToolOp ToolReply)}

/-- Contexts over one source. -/
structure SharesSource (base context : ToolContext Time) : Prop where
  interpreter : context.interpreter = base.interpreter
  sha256 : context.sha256 = base.sha256

/-- A snapshot is the generation that a key names. -/
def NamedBy (base : ToolContext Time) (payloads : List Bytes) (key : RetentionKey)
    (snapshot : LoadedSnapshot) : Prop :=
  IsGeneration base payloads key.solutionId key.projectId key.lane key.generationId snapshot

theorem IsGeneration.mono {payloads more : List Bytes} {solutionId projectId lane generationId : Text}
    {snapshot : LoadedSnapshot} (is : IsGeneration base payloads solutionId projectId lane generationId snapshot)
    (kept : payloads ⊆ more) : IsGeneration base more solutionId projectId lane generationId snapshot :=
  ⟨is.made.mono kept, is.generation, is.solution, is.project⟩

theorem IsGeneration.shared (shares : SharesSource base context) {payloads : List Bytes}
    {solutionId projectId lane generationId : Text} {snapshot : LoadedSnapshot}
    (is : IsGeneration context payloads solutionId projectId lane generationId snapshot) :
    IsGeneration base payloads solutionId projectId lane generationId snapshot := by
  obtain ⟨interpreter, sha256⟩ := shares
  obtain ⟨made, generation, solution, project⟩ := is
  rw [interpreter, sha256] at made
  exact ⟨made, generation, solution, project⟩

/-- An operation that retains nothing. -/
def ToolOp.RetainsNothing : ToolOp → Prop
  | .retain _ _ => False
  | _ => True

theorem retainsNothing_reading {α : Type} (p : Snapshot.ReadProgram α) :
    (reading p).Only ToolOp.RetainsNothing :=
  (only_embed p fun _ => trivial).resume fun _ => only_ofExcept _

theorem retainsNothing_withGuard {α : Type} (directory : Snapshot.Path) (block : Snapshot.ReadProgram α) :
    (withGuard directory block).Only ToolOp.RetainsNothing :=
  ⟨trivial, fun _ => retainsNothing_reading _⟩

/-- What the calls retain under a key is the generation that it names, out of what they had read. -/
def PutsLoaded (base : ToolContext Time) (calls : List (Call ToolOp ToolReply)) : Prop :=
  ∀ before key value done after, calls = before ++ ⟨.retain key value, done⟩ :: after →
    CollisionFree base.sha256 (payloadsRead before) → NamedBy base (payloadsRead before) key value

theorem putsLoaded_of_none (none : ∀ call ∈ calls, call.op.RetainsNothing) : PutsLoaded base calls := by
  rintro before key value done after rfl
  exact (none _ (List.mem_append_right _ List.mem_cons_self)).elim

/-- A beginning of the calls. -/
theorem PutsLoaded.begin (puts : PutsLoaded base (one ++ two)) : PutsLoaded base one := by
  rintro before key value done after rfl free
  exact puts before key value done (after ++ two) (by rw [List.append_assoc, List.cons_append]) free

theorem PutsLoaded.append (first : PutsLoaded base one) (second : PutsLoaded base two) :
    PutsLoaded base (one ++ two) := by
  intro before key value done after split free
  rcases List.append_eq_append_iff.mp split with ⟨more, rfl, rest⟩ | ⟨more, rfl, rest⟩
  · rw [payloadsRead_append] at free ⊢
    have named := second more key value done after rest (free.mono (List.subset_append_right _ _))
    exact named.mono (List.subset_append_right _ _)
  · cases more with
    | nil =>
      have named := second [] key value done after rest.symm (free.mono fun _ wrong => nomatch wrong)
      exact named.mono fun _ wrong => nomatch wrong
    | cons call more =>
      obtain ⟨rfl, rfl⟩ := List.cons.inj rest
      exact first before key value done more rfl free

/-- One call that retains, after others that do not. -/
theorem putsLoaded_last {key : RetentionKey} {value : LoadedSnapshot} {done : ToolReply (.retain key value)}
    (none : ∀ call ∈ calls, call.op.RetainsNothing)
    (named : CollisionFree base.sha256 (payloadsRead calls) → NamedBy base (payloadsRead calls) key value) :
    PutsLoaded base (calls ++ [⟨.retain key value, done⟩]) := by
  intro before key' value' done' after split free
  rcases List.append_eq_append_iff.mp split with ⟨more, rfl, rest⟩ | ⟨more, rfl, rest⟩
  · cases more with
    | nil =>
      cases rest
      rw [List.append_nil] at free ⊢
      exact named free
    | cons call more => cases more <;> cases rest
  · cases more with
    | nil =>
      cases rest
      rw [List.append_nil] at named
      exact named free
    | cons call more =>
      obtain ⟨rfl, _⟩ := List.cons.inj rest
      exact (none _ (List.mem_append_right _ List.mem_cons_self)).elim

/-- A program that retains what it has loaded. -/
def LoadsFirst (base : ToolContext Time) (p : ToolProgram α) : Prop :=
  ∀ calls outcome, Trace p calls outcome → PutsLoaded base calls

theorem loadsFirst_of_only {p : ToolProgram α} (only : p.Only ToolOp.RetainsNothing) : LoadsFirst base p :=
  fun _ _ trace => putsLoaded_of_none (trace.only only)

theorem LoadsFirst.bind {p : ToolProgram α} {f : α → ToolProgram β} (first : LoadsFirst base p)
    (next : ∀ a, LoadsFirst base (f a)) : LoadsFirst base (p >>= f) := by
  intro calls outcome trace
  rcases trace_bind_iff.mp trace with ⟨_, failed, _⟩ | ⟨a, one, two, rfl, here, there⟩
  · exact first _ _ failed
  · exact (first _ _ here).append (next a _ _ there)

theorem LoadsFirst.rescue {p : ToolProgram α} {handler : ToolError → ToolProgram α} (first : LoadsFirst base p)
    (next : ∀ raised, LoadsFirst base (handler raised)) : LoadsFirst base (p.rescue handler) := by
  intro calls outcome trace
  rcases trace_rescue_iff.mp trace with ⟨_, ended, _⟩ | ⟨raised, one, two, rfl, here, there⟩
  · exact first _ _ ended
  · exact (first _ _ here).append (next raised _ _ there)

theorem loadsFirst_ofExcept (ended : Except ToolError α) : LoadsFirst base (ofExcept ended) :=
  loadsFirst_of_only (only_ofExcept ended)

/-! ### The loads -/

variable {location : SnapshotLocation} {generationId : Text} {snapshot : LoadedSnapshot}

/-- **A load retains what it has loaded itself**, under the key of its location and generation. -/
theorem sourceLoadPinned_loadsFirst (shares : SharesSource base context) (location : SnapshotLocation)
    (generationId : Text) : LoadsFirst base (sourceLoadPinned context location generationId) := by
  intro calls outcome trace
  rcases trace_ofExcept_bind_iff.mp trace with ⟨_, _, rfl, rfl⟩ | ⟨directory, _, trace⟩
  · exact putsLoaded_of_none fun _ wrong => nomatch wrong
  split at trace
  swap
  · exact loadsFirst_of_only (retainsNothing_withGuard _ _) _ _ trace
  rcases trace_bind_iff.mp trace with ⟨_, selects, rfl⟩ | ⟨manifest, one, rest, rfl, selects, trace⟩
  · exact loadsFirst_of_only (retainsNothing_withGuard _ _) _ _ selects
  have first : ∀ call ∈ one, call.op.RetainsNothing := selects.only (retainsNothing_withGuard _ _)
  rcases trace_bind_iff.mp trace with ⟨_, keys, rfl⟩ | ⟨key, two, rest, rfl, keys, trace⟩
  · exact (putsLoaded_of_none first).append (loadsFirst_of_only (retainsNothing_reading _) _ _ keys)
  have second : ∀ call ∈ two, call.op.RetainsNothing := keys.only (retainsNothing_reading _)
  obtain ⟨solution, project, lane, generation⟩ := retentionKey_names keys
  obtain ⟨cached, rest, rfl, ended⟩ := trace_call_iff.mp trace
  cases cached with
  | some value =>
    obtain ⟨rfl, _⟩ := trace_done_iff.mp ended
    refine (putsLoaded_of_none first).append ((putsLoaded_of_none second).append (putsLoaded_of_none ?_))
    exact List.forall_mem_singleton.mpr trivial
  | none =>
    rcases trace_bind_iff.mp ended with ⟨_, loads, rfl⟩ | ⟨loaded, three, last, rfl, loads, ended⟩
    · refine (putsLoaded_of_none first).append ((putsLoaded_of_none second).append (putsLoaded_of_none ?_))
      exact List.forall_mem_cons.mpr ⟨trivial, loads.only (retainsNothing_withGuard _ _)⟩
    · obtain ⟨done, nothing, rfl, finished⟩ := trace_call_iff.mp ended
      obtain ⟨rfl, _⟩ := trace_done_iff.mp finished
      have third : ∀ call ∈ three, call.op.RetainsNothing := loads.only (retainsNothing_withGuard _ _)
      -- the one call that retains is the last
      have shape : one ++ (two ++ ⟨.retained key, none⟩ :: (three ++ [⟨.retain key loaded, done⟩])) =
          (one ++ (two ++ ⟨.retained key, none⟩ :: three)) ++
            [(⟨.retain key loaded, done⟩ : Call ToolOp ToolReply)] := by
        simp only [List.append_assoc, List.cons_append]
      rw [shape]
      refine putsLoaded_last (fun call member => ?_) fun free => ?_
      · rcases List.mem_append.mp member with here | member
        · exact first call here
        rcases List.mem_append.mp member with here | member
        · exact second call here
        rcases List.mem_cons.mp member with rfl | here
        · exact trivial
        · exact third call here
      · have inOne : payloadsRead one ⊆ payloadsRead (one ++ (two ++ ⟨.retained key, none⟩ :: three)) := by
          rw [payloadsRead_append]
          exact List.subset_append_left _ _
        have inThree : payloadsRead three ⊆ payloadsRead (one ++ (two ++ ⟨.retained key, none⟩ :: three)) := by
          rw [payloadsRead_append, payloadsRead_append]
          exact List.subset_append_of_subset_right _ (List.subset_append_right _ _)
        rw [← shares.sha256] at free
        have is := (loaded_isGeneration free selects loads inOne inThree).shared shares
        unfold NamedBy
        rwa [solution, project, lane, generation]

theorem sourceLoad_loadsFirst (shares : SharesSource base context) (location : SnapshotLocation) :
    LoadsFirst base (sourceLoad context location) := by
  refine (loadsFirst_ofExcept _).bind fun directory => ?_
  split
  · exact (loadsFirst_of_only (retainsNothing_withGuard _ _)).bind fun generationId =>
      sourceLoadPinned_loadsFirst shares location generationId
  · exact loadsFirst_of_only (retainsNothing_withGuard _ _)

theorem loadProject_loadsFirst (shares : SharesSource base context) (solutionId projectId lane : Text) :
    LoadsFirst base (loadProject context solutionId projectId lane) := by
  refine (loadsFirst_ofExcept _).bind fun _ => (loadsFirst_ofExcept _).bind fun location => ?_
  exact (sourceLoad_loadsFirst shares location).rescue fun _ => loadsFirst_of_only trivial

theorem loadPinnedProject_loadsFirst (shares : SharesSource base context)
    (solutionId projectId lane generationId : Text) :
    LoadsFirst base (loadPinnedProject context solutionId projectId lane generationId) := by
  refine (loadsFirst_ofExcept _).bind fun _ => LoadsFirst.rescue ?_ fun _ => loadsFirst_of_only trivial
  exact (loadsFirst_ofExcept _).bind fun location => sourceLoadPinned_loadsFirst shares location generationId

end Puts

/-! ### The tools -/

section Tools

variable {Time : Type} [LinearOrder Time] {context base : ToolContext Time}

omit [LinearOrder Time] in
theorem loadScope_loadsFirst (shares : SharesSource base context) (solutionId : Text) (projects : List Text) :
    LoadsFirst base (loadScope context solutionId projects) := by
  have pinning : LoadsFirst base (loadVector context solutionId) :=
    (loadsFirst_ofExcept _).bind fun location => (loadsFirst_of_only (retainsNothing_reading _)).bind fun catalog =>
      loadsFirst_of_only (retainsNothing_reading _)
  have loading : ∀ pins, LoadsFirst base (loadPinnedProjects context solutionId pins projects) := by
    intro pins
    induction projects with
    | nil => exact loadsFirst_of_only trivial
    | cons projectId rest ih =>
      refine (loadsFirst_ofExcept _).bind fun pin =>
        (loadPinnedProject_loadsFirst shares _ _ _ _).bind fun snapshot => ?_
      exact ih.bind fun later => loadsFirst_of_only trivial
  exact pinning.bind fun vector => (loading _).bind fun snapshots => loadsFirst_ofExcept _

theorem sendControl_retainsNothing (op : ControlOp) (message : Text) :
    (sendControl op message).Only ToolOp.RetainsNothing := ⟨trivial, fun _ => only_ofExcept _⟩

theorem delegate_retainsNothing (op : ControlOp) : (delegate op).Only ToolOp.RetainsNothing :=
  (sendControl_retainsNothing op _).bind fun _ => only_ofExcept _

theorem graphQuery_loadsFirst (shares : SharesSource base context) (arguments : JsonObject) :
    LoadsFirst base (graphQuery arguments context) := by
  refine (loadsFirst_ofExcept _).bind fun request => LoadsFirst.bind (loadsFirst_of_only ?_) fun _ => ?_
  · unfold ensureFresh
    split
    · exact (only_ofExcept _).bind fun _ => (sendControl_retainsNothing _ _).bind fun _ => trivial
    · exact trivial
  · exact (loadScope_loadsFirst shares _ _).bind fun scope => loadsFirst_ofExcept _

omit [LinearOrder Time] in
theorem graphStatus_loadsFirst (shares : SharesSource base context) (arguments : JsonObject) :
    LoadsFirst base (graphStatus arguments context) := by
  have loading : ∀ solutionId lane projects, LoadsFirst base (loadCurrent context solutionId lane projects) := by
    intro solutionId lane projects
    induction projects with
    | nil => exact loadsFirst_of_only trivial
    | cons projectId rest ih =>
      refine (loadProject_loadsFirst shares _ _ _).bind fun snapshot => (loadsFirst_ofExcept _).bind fun graph => ?_
      exact ih.bind fun later => loadsFirst_of_only trivial
  refine (loadsFirst_ofExcept _).bind fun request => (loading _ _ _).bind fun loaded => ?_
  refine (loadsFirst_ofExcept _).bind fun described => LoadsFirst.bind (loadsFirst_of_only ?_) fun daemon => ?_
  · unfold askDaemon
    split
    · exact (only_ofExcept _).bind fun _ => ⟨trivial, fun _ => trivial⟩
    · exact trivial
  · exact loadsFirst_of_only trivial

/-- **Every tool retains what it has loaded.** -/
theorem callTool_loadsFirst (shares : SharesSource base context) (arguments : JsonObject) (name : Text) :
    LoadsFirst base (callTool context arguments name) := by
  unfold callTool
  split
  · exact loadsFirst_of_only trivial
  · next tool _ =>
    cases tool with
    | status => exact graphStatus_loadsFirst shares arguments
    | query => exact graphQuery_loadsFirst shares arguments
    | reconcile | job | verify =>
      refine (loadsFirst_ofExcept _).bind fun request => LoadsFirst.bind (loadsFirst_of_only ?_) fun answer =>
        loadsFirst_ofExcept _
      exact delegate_retainsNothing _
    | version =>
      refine (loadsFirst_ofExcept _).bind fun asked => loadsFirst_of_only ?_
      exact ⟨trivial, fun _ => only_ofExcept _⟩

end Tools

/-! ### One retention for all -/

section Shared

variable {Time : Type} {context base : ToolContext Time} {payloads : List Bytes}
  {calls : List (Call ToolOp ToolReply)}
  {retention after : GenerationRetention}

/-- What the calls found retained is the generation that its key names. -/
def Handed (base : ToolContext Time) (payloads : List Bytes) (calls : List (Call ToolOp ToolReply)) : Prop :=
  ∀ key snapshot, (⟨.retained key, some snapshot⟩ : Call ToolOp ToolReply) ∈ calls →
    NamedBy base payloads key snapshot

/-- **One call after another, the retention holds and hands out the generations that its keys name**, if those are
what is put there. -/
theorem threads_handed (threads : Threads retention calls after) (bounded : Bounded retention)
    (keyed : Keyed base payloads retention)
    (puts : ∀ key value done, (⟨.retain key value, done⟩ : Call ToolOp ToolReply) ∈ calls →
      NamedBy base payloads key value) : Keyed base payloads after ∧ Handed base payloads calls := by
  induction threads with
  | nil => exact ⟨keyed, fun _ _ wrong => nomatch wrong⟩
  | @get retention after rest key later ih =>
    have got := get_spec retention key
    obtain ⟨kept, handed⟩ := ih (got.bounded bounded) (fun item member => keyed item (got.entries item member))
      fun key value done member => puts key value done (List.mem_cons_of_mem _ member)
    refine ⟨kept, fun other snapshot member => ?_⟩
    rcases List.mem_cons.mp member with here | there
    · have found := got.reply snapshot
      generalize (retention.get key).1 = reply at here found
      cases here
      obtain ⟨size, stored⟩ := found rfl
      exact keyed _ stored
    · exact handed other snapshot there
  | @put retention after rest key value done measured size later ih =>
    have put := put_spec bounded key value measured size
    have own : NamedBy base payloads key value := puts key value done List.mem_cons_self
    have keyed' : Keyed base payloads (retention.put key value measured size).2 := by
      intro item member
      rcases put.entries with same | ⟨recorded, less⟩
      · exact keyed item (same ▸ member)
      · rcases List.mem_append.mp (less.subset member) with old | new
        · exact keyed item (Dict.mem_entries_erase.mp old).1
        · obtain rfl := List.mem_singleton.mp new
          exact own
    obtain ⟨kept, handed⟩ := ih put.bounded keyed'
      fun key value done member => puts key value done (List.mem_cons_of_mem _ member)
    refine ⟨kept, fun other snapshot member => ?_⟩
    rcases List.mem_cons.mp member with here | there
    · cases here
    · exact handed other snapshot there
  | @other retention after rest op reply elsewhere later ih =>
    obtain ⟨kept, handed⟩ := ih bounded keyed
      fun key value done member => puts key value done (List.mem_cons_of_mem _ member)
    refine ⟨kept, fun key snapshot member => ?_⟩
    rcases List.mem_cons.mp member with here | there
    · cases here
      exact elsewhere.elim
    · exact handed key snapshot there

/-! ### Loads over a shared retention -/

variable {location : SnapshotLocation} {generationId : Text} {snapshot : LoadedSnapshot}

/-- What a load returns of a lane: the generation, and if its source retains, the one of this
solution and project. -/
structure FromGeneration (base : ToolContext Time) (payloads : List Bytes) (retaining : Bool)
    (location : SnapshotLocation) (generationId : Text) (snapshot : LoadedSnapshot) : Prop where
  made : MadeOfGeneration base.interpreter base.sha256 none payloads location.lane snapshot
  generation : snapshot.generationId = generationId
  bound : retaining = true → BoundTo location snapshot

/-- **What a pinned load returns, while others use the retention.** -/
theorem sourceLoadPinned_returns (shares : SharesSource base context) (free : CollisionFree base.sha256 payloads)
    (among : payloadsRead calls ⊆ payloads) (handed : Handed base payloads calls)
    (trace : Trace (sourceLoadPinned context location generationId) calls (.ok snapshot)) :
    FromGeneration base payloads context.retaining location generationId snapshot := by
  rcases trace_ofExcept_bind_iff.mp trace with ⟨_, _, _, wrong⟩ | ⟨directory, _, trace⟩
  · cases wrong
  split at trace
  swap
  · next plain =>
    have made := (guardedLoad_made trace).mono among
    rw [shares.interpreter, shares.sha256] at made
    exact ⟨made, guardedLoad_generation trace, fun retaining => (plain retaining).elim⟩
  rcases trace_bind_iff.mp trace with ⟨_, _, wrong⟩ | ⟨manifest, one, rest, rfl, selects, trace⟩
  · cases wrong
  rcases trace_bind_iff.mp trace with ⟨_, _, wrong⟩ | ⟨key, two, rest, rfl, keys, trace⟩
  · cases wrong
  obtain ⟨solution, project, lane, generation⟩ := retentionKey_names keys
  obtain ⟨cached, rest, rfl, ended⟩ := trace_call_iff.mp trace
  have is : IsGeneration base payloads location.solutionId location.projectId location.lane
      generationId snapshot := by
    cases cached with
    | some value =>
      obtain ⟨rfl, same⟩ := trace_done_iff.mp ended
      obtain rfl := Except.ok.inj same
      have named := handed key snapshot (List.mem_append_right _ (List.mem_append_right _ List.mem_cons_self))
      unfold NamedBy at named
      rwa [solution, project, lane, generation] at named
    | none =>
      rcases trace_bind_iff.mp ended with ⟨_, _, wrong⟩ | ⟨loaded, three, last, rfl, loads, ended⟩
      · cases wrong
      obtain ⟨done, nothing, rfl, finished⟩ := trace_call_iff.mp ended
      obtain ⟨rfl, same⟩ := trace_done_iff.mp finished
      obtain rfl := Except.ok.inj same
      rw [payloadsRead_append, payloadsRead_append, List.append_subset, List.append_subset] at among
      obtain ⟨inOne, _, later⟩ := among
      have inThree : payloadsRead three ⊆ payloads := by
        change payloadsRead (three ++ _) ⊆ payloads at later
        rw [payloadsRead_append, List.append_subset] at later
        exact later.1
      rw [← shares.sha256] at free
      exact (loaded_isGeneration free selects loads inOne inThree).shared shares
  exact ⟨is.made, is.generation, fun _ => ⟨is.solution, is.project⟩⟩

end Shared

/-! ### Tool calls side by side -/

section Serving

variable {Time : Type} [LinearOrder Time] {ι : Type} [DecidableEq ι]

/-- A call of a tool by its name, with the context of its caller. -/
structure ToolCall (Time : Type) where
  context : ToolContext Time
  name : Text
  arguments : JsonObject

/-- What it runs. -/
def ToolCall.program (call : ToolCall Time) :
    ToolProgram JsonObject := callTool call.context call.arguments call.name

theorem payloadsRead_mono {calls more : List (Call ToolOp ToolReply)} (kept : calls ⊆ more) :
    payloadsRead calls ⊆ payloadsRead more := by
  refine payloadsRead_subset fun call member => ?_
  obtain ⟨made, here, asked⟩ := List.mem_filterMap.mp member
  exact List.mem_filterMap.mpr ⟨made, kept here, asked⟩

/-- Tool calls over one source, in any order of their operations, that one retention has answered. -/
structure Serving (base : ToolContext Time) (calls : ι → ToolCall Time) (log : List (ι × Call ToolOp ToolReply))
    (retention after : GenerationRetention) : Prop where
  shares : ∀ i, SharesSource base (calls i).context
  side : SideBySide (fun i => (calls i).program) log
  threads : Threads retention (allCalls log) after

variable {base : ToolContext Time} {calls : ι → ToolCall Time} {log : List (ι × Call ToolOp ToolReply)}
  {retention after : GenerationRetention}

/-- What has been retained in the log. -/
theorem Serving.puts (serving : Serving base calls log retention after)
    (free : CollisionFree base.sha256 (payloadsRead (allCalls log))) (key : RetentionKey) (value : LoadedSnapshot)
    (done : ToolReply (.retain key value))
    (member : (⟨.retain key value, done⟩ : Call ToolOp ToolReply) ∈ allCalls log) :
    NamedBy base (payloadsRead (allCalls log)) key value := by
  obtain ⟨i, member⟩ := mem_allCalls.mp member
  have puts : PutsLoaded base (own i log) :=
    serving.side.each (fun i calls outcome trace => callTool_loadsFirst (serving.shares i) _ _ _ _ trace)
      (fun _ _ _ => PutsLoaded.begin) i
  obtain ⟨before, later, split⟩ := List.append_of_mem member
  have inside : payloadsRead before ⊆ payloadsRead (allCalls log) := by
    refine List.Subset.trans (payloadsRead_subset ?_) (payloadsRead_mono (own_subset i log))
    rw [split, fileCallsOf_append]
    exact List.subset_append_left _ _
  exact (puts before key value done later split (free.mono inside)).mono inside

variable {maxBytes maxEntries : ℤ} {fresh : GenerationRetention}

/-- **In every order of the calls, a retention that began empty holds and hands out what its keys name.** -/
theorem Serving.handed (made : newRetention maxBytes maxEntries = .ok fresh)
    (serving : Serving base calls log fresh after)
    (free : CollisionFree base.sha256 (payloadsRead (allCalls log))) :
    Keyed base (payloadsRead (allCalls log)) after ∧ Handed base (payloadsRead (allCalls log)) (allCalls log) := by
  obtain ⟨bounded, empty, _, _⟩ := newRetention_bounded made
  refine threads_handed serving.threads bounded (fun item member => ?_) (serving.puts free)
  rw [empty] at member
  cases member

/-- **One retention is safe to share.** However the operations of any tool calls interleave, wherever each of them
stands, the retention keeps to its limits, everything in it is the generation that its key names, and everything
that was found in it is alike to what a load of this generation out of this lane returns. -/
theorem shared_retention (base : ToolContext Time) (made : newRetention maxBytes maxEntries = .ok fresh)
    (serving : Serving base calls log fresh after)
    (free : CollisionFree base.sha256 (payloadsRead (allCalls log))) :
    after.bytes ≤ maxBytes ∧ (after.entries.size : ℤ) ≤ maxEntries ∧
      Keyed base (payloadsRead (allCalls log)) after ∧
      ∀ i key snapshot, (⟨.retained key, some snapshot⟩ : Call ToolOp ToolReply) ∈ own i log →
        NamedBy base (payloadsRead (allCalls log)) key snapshot ∧
        ∀ directory location others plain,
          Trace (guardedLoad base directory location (some key.generationId)) others
            (.ok plain) → location.lane = key.lane →
          CollisionFree base.sha256 (payloadsRead (allCalls log) ++ payloadsRead others) →
            Alike snapshot plain := by
  obtain ⟨bounded, _, entriesLimit, bytesLimit⟩ := newRetention_bounded made
  obtain ⟨still, entries, bytes⟩ := threads_bounded serving.threads bounded
  obtain ⟨keyed, handed⟩ := serving.handed made free
  refine ⟨?_, ?_, keyed, fun i key snapshot member => ?_⟩
  · rw [still.bytes, ← bytesLimit, ← bytes]
    exact still.fits.2
  · rw [← entriesLimit, ← entries]
    exact Int.ofNat_le.mpr still.fits.1
  · have named : NamedBy base (payloadsRead (allCalls log)) key snapshot :=
      handed key snapshot (own_subset i log member)
    refine ⟨named, fun directory location others plain trace lane free' => ?_⟩
    have loaded := guardedLoad_made trace
    rw [lane] at loaded
    have generation : plain.generationId = key.generationId := guardedLoad_generation trace
    exact Snapshot.made_alike free' (named.made.mono (List.subset_append_left _ _))
      (loaded.mono (List.subset_append_right _ _)) (named.generation.trans generation.symm)

end Serving

/-! ### Two callers, one after the other -/

/-- The shard of the nodes of a project: one function. -/
def mainNodes : Lib.Bytes :=
  Snapshot.bytesOf (("[\x7b\"attributes\":\x7b\x7d,\"id\":\"" : Text) ++ Query.digest 'a' ++
    ("\",\"identity_quality\":\"semantic_key\",\"kind\":\"Function\",\"language\":\"python\"," : Text) ++
    ("\"name\":\"main\",\"project_id\":\"core\",\"qualified_name\":\"core.main\"," : Text) ++
    ("\"source\":\x7b\"end_line\":1,\"file\":\"main.py\",\"start_line\":1\x7d\x7d]\n" : Text))

def mainNodesDigest : Text := "a1a643f18c47ccf850f6bfb0a07f13acb006182f7e8cfc26cc605b4b9996a266"

/-- The shard of its edges: one call that is not resolved. -/
def mainEdges : Lib.Bytes :=
  Snapshot.bytesOf (
    ("[\x7b\"analyzer_id\":\"a\",\"evidence\":[\x7b\"line\":1\x7d],\"id\":\"" : Text) ++
    Query.digest 'b' ++
    ("\",\"kind\":\"CALLS\",\"resolution\":\"exact_static\",\"source_id\":\"" : Text) ++ Query.digest 'a' ++
    ("\",\"target_id\":\"" : Text) ++ Query.digest 'a' ++ ("\",\"target_project_id\":\"core\"\x7d]\n" : Text))

def mainEdgesDigest : Text := "d1773b938ff6b7a292d1ba8ec1ff555ed7f793830e5284ef39d73c92f548b054"

/-- The manifest that pins the two. -/
def mainManifest : Lib.Bytes :=
  Snapshot.bytesOf (("\x7b\"analysis_profile\":\"p\",\"analyzer_set_hash\":\"" : Text) ++ Snapshot.zeros ++
    ("\",\"config_fingerprint\":\"" : Text) ++ Snapshot.zeros ++
    ("\",\"coverage\":\x7b\"input_files\":0,\"processed_files\":0,\"status\":\"complete_for_profile\"," : Text) ++
    ("\"unresolved_references\":0,\"unsupported_patterns\":[]\x7d," : Text) ++
    ("\"dependency_fingerprint\":\"" : Text) ++ Snapshot.zeros ++
    ("\",\"files\":[\x7b\"bytes\":34,\"path\":\"coverage.json\",\"records\":1," : Text) ++
    ("\"role\":\"coverage\",\"sha256\":\"" : Text) ++ completeShardDigest ++
    ("\"\x7d,\x7b\"bytes\":346,\"path\":\"edges/0.json\",\"records\":1," : Text) ++
    ("\"role\":\"edges\",\"sha256\":\"" : Text) ++ mainEdgesDigest ++
    ("\"\x7d,\x7b\"bytes\":283,\"path\":\"nodes/0.json\",\"records\":1," : Text) ++
    ("\"role\":\"nodes\",\"sha256\":\"" : Text) ++ mainNodesDigest ++
    ("\"\x7d],\"generator_version\":\"1\",\"project_id\":\"core\",\"schema_version\":1," : Text) ++
    ("\"solution_id\":\"shop\",\"source_fingerprint\":\"" : Text) ++ Snapshot.zeros ++ ("\"\x7d\n" : Text))

def mainGeneration : Text := "543ddb8732d38a0b2db7a9c42ea64637eb36c5b8604ac7dbefa6f426635aa426"

/-- The catalog that pins this generation. -/
def mainCatalog : Lib.Bytes :=
  Snapshot.bytesOf (("\x7b\"analysis_profile\":\"p\",\"coverage\":\"complete_for_profile\"," : Text) ++
    ("\"projects\":[\x7b\"generation_id\":\"" : Text) ++ mainGeneration ++
    ("\",\"project_id\":\"core\",\"source_fingerprint\":\"" : Text) ++ Snapshot.zeros ++
    ("\"\x7d],\"schema_version\":1,\"solution_id\":\"shop\"\x7d\n" : Text))

def mainCatalogId : Text := "1bcaddb7e6ad1260fb8bd31c74c1fad32e1001abc8dd481845a29390984ffeba"

/-- SHA-256, on these bytes. -/
def mainSha256 (bytes : Lib.Bytes) : Text :=
  if bytes = completeShard then completeShardDigest
  else if bytes = mainNodes then mainNodesDigest
  else if bytes = mainEdges then mainEdgesDigest
  else if bytes = mainManifest then mainGeneration
  else if bytes = mainCatalog then mainCatalogId
  else if bytes = Snapshot.bytesOf (("\x7b\"generations\":[[\"core\",\"" : Text) ++ mainGeneration ++
    ("\"]],\"schema_version\":1\x7d" : Text)) then
    "2722dd88370aa8a9ad07d9277dee4278bdf76e23c75da7db546aaff3b75f864f"
  else []

/-- A store with the catalog and the generation. -/
def mainFiles : Snapshot.Files :=
  let catalogRoot : Snapshot.Path := { parts := ["repo", ".axiom", "graph", "shop", "_catalog", "live"] }
  let generation := (Snapshot.sampleRoot "core").joined ["generations", mainGeneration]
  .plain [(catalogRoot.child Snapshot.currentPointerName, Snapshot.samplePointer mainCatalogId),
    (catalogRoot.joined ["generations", mainCatalogId, "manifest.json"], mainCatalog),
    (generation.child "manifest.json", mainManifest),
    (generation.child "coverage.json", completeShard),
    (generation.joined ["edges", "0.json"], mainEdges), (generation.joined ["nodes", "0.json"], mainNodes)]

/-- A caller whose source retains. -/
def mainReader : ToolContext ℕ :=
  { shopContext (shopCaller {Security.capabilityRead} none) with sha256 := mainSha256, retaining := true }

/-- What it asks: the context of the function. -/
def mainArguments : JsonObject :=
  [("solution_id", .str "shop"), ("project_id", .str "core"), ("operation", .str "context"),
    ("target", .str "core.main")]

def mainCall : ToolCall ℕ := ⟨mainReader, Tool.query.name, mainArguments⟩

/-- The items of a list of a document. -/
def countOf (document : JsonObject) (key : Text) : ℕ :=
  match Json.get? document key with
  | some (.arr items) => items.length
  | _ => 0

/-- Two callers ask the same, and the second is answered by what the first has retained. -/
theorem served_twice : ∃ (log : List (Bool × Call ToolOp ToolReply)) (after : GenerationRetention)
    (document : JsonObject), Serving mainReader (fun _ => mainCall) log oneEntry after ∧
      Trace mainCall.program (own true log) (.ok document) ∧ after.hits = 1 ∧ countOf document "nodes" = 1 ∧
      countOf document "edges" = 1 ∧
      payloadsRead (allCalls log) ⊆ [mainManifest, completeShard, mainEdges, mainNodes] := by
  have seen : ((outcomeRetaining mainFiles oneEntry mainCall.program).bind fun first =>
      (outcomeRetaining mainFiles first.2.1 mainCall.program).map fun second =>
        decide (second.2.1.hits = 1 ∧
          (second.1.toOption.map fun document =>
            (countOf document "nodes", countOf document "edges")) = some (1, 1) ∧
          ∀ payload ∈ first.2.2 ++ second.2.2, payload ∈ [mainManifest, completeShard, mainEdges, mainNodes])) =
        some true := by
    decide +kernel
  obtain ⟨⟨first, held, read⟩, one, seen⟩ := Option.bind_eq_some_iff.mp seen
  obtain ⟨⟨second, after, read'⟩, two, same⟩ := Option.map_eq_some_iff.mp seen
  obtain ⟨calls, trace, threads, rfl⟩ := trace_retaining one
  obtain ⟨more, trace', threads', rfl⟩ := trace_retaining two
  obtain ⟨hits, counts, within⟩ := of_decide_eq_true same
  cases second with
  | error raised => cases counts
  | ok document =>
    obtain ⟨nodes, edges⟩ := Prod.mk.inj (Option.some.inj counts)
    have ofFirst : own false (calls.map (Prod.mk false) ++ more.map (Prod.mk true)) = calls := by
      rw [own_append, own_tagged, own_tagged_other (Ne.symm Bool.false_ne_true), List.append_nil]
    have ofSecond : own true (calls.map (Prod.mk false) ++ more.map (Prod.mk true)) = more := by
      rw [own_append, own_tagged, own_tagged_other Bool.false_ne_true, List.nil_append]
    have all : allCalls (calls.map (Prod.mk false) ++ more.map (Prod.mk true)) = calls ++ more := by
      rw [allCalls_append, allCalls_tagged, allCalls_tagged]
    refine ⟨calls.map (Prod.mk false) ++ more.map (Prod.mk true), after, document,
      ⟨fun _ => ⟨rfl, rfl⟩, fun i => ?_, ?_⟩, ?_, hits, nodes, edges, fun payload member => ?_⟩
    · cases i with
      | false => exact ⟨[], first, by rwa [ofFirst, List.append_nil]⟩
      | true => exact ⟨[], .ok document, by rwa [ofSecond, List.append_nil]⟩
    · rw [all]
      exact threads.append threads'
    · rwa [ofSecond]
    · rw [all, payloadsRead_append] at member
      exact within payload member

theorem main_collisionFree : CollisionFree mainSha256 [mainManifest, completeShard, mainEdges, mainNodes] := by
  unfold CollisionFree
  decide +kernel

/-- The retention has what it names, and has answered a lookup. -/
theorem shared_retention_twice : ∃ (log : List (Bool × Call ToolOp ToolReply)) (after : GenerationRetention),
    Serving mainReader (fun _ => mainCall) log oneEntry after ∧ after.hits = 1 ∧ (after.entries.size : ℤ) ≤ 1 ∧
      Keyed mainReader (payloadsRead (allCalls log)) after := by
  obtain ⟨log, after, document, serving, _, hits, _, _, within⟩ := served_twice
  obtain ⟨_, entries, keyed, _⟩ :=
    shared_retention mainReader (show newRetention 4096 1 = .ok oneEntry from rfl) serving
    (main_collisionFree.mono within)
  exact ⟨log, after, serving, hits, entries, keyed⟩

end AxiomMcp.Tools
