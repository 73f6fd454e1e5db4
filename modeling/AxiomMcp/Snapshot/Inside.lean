/-
**Where a shard is read (`shard_path` on a tree with links).**

A `Host` is a directory tree and the directory a relative path starts at. It may fail any question, but what
it answers is true of the tree: `lstat` follows every link but the last, and what `resolve` returns of a path
that exists is the place it leads to.

* `resolveWirePath_ends`: what a resolved reference was bound to;
* `shardPath_inside`: **whatever `shard_path` returns is the regular file that the path of the entry leads to
  below the generation directory, and lies strictly inside that directory once every link is followed**.
-/

import AxiomMcp.Lib.Ends
import AxiomMcp.Lib.Links
import AxiomMcp.Snapshot.Shards

namespace AxiomMcp.Snapshot

open Lib Program Machine
open Query (isSha256)

/-! ### A host -/

/-- What the text between two slashes means. -/
def segmentOf (part : Text) : Segment Text :=
  if part = [] ∨ part = ("." : Text) then .stay
  else if part = (".." : Text) then .up
  else .name part

/-- The segments of a path. -/
def Path.segments (path : Path) : List (Segment Text) := path.parts.map segmentOf

/-- The segments of a relative path that is given as text. -/
def segmentsOf (path : Text) : List (Segment Text) := (path.splitOn (codePoint '/')).map segmentOf

/-- The kind that `lstat` reports. -/
def kindOf : LinkNode Text → FileKind
  | .file => .regular
  | .link _ _ => .symbolicLink
  | _ => .other

/-- The path of a place. -/
def pathOf (place : List Text) : Path := { parts := place }

/-- A file system in one state. -/
structure Host where
  tree : LinkTree Text
  named : ∀ place name, tree.node (place ++ [name]) ≠ none → segmentOf name = .name name
  workingDirectory : List Text

namespace Host

/-- Where a path starts. -/
def start (host : Host) (path : Path) : List Text := if path.isAbsolute then [] else host.workingDirectory

/-- A path leads to a place. -/
def Leads (host : Host) (follow : Bool) (path : Path) (place : List Text) : Prop :=
  host.tree.Walks follow (host.start path) path.segments place

/-- An answer is true of the host. Every question may fail, and what `resolve` makes of a path that does not
exist is left open. -/
def Answers (host : Host) : (op : FileOp) → FileReply op → Prop
  | .lstat path, .ok kind =>
    ∃ place node, host.Leads false path place ∧ host.tree.node place = some node ∧ kindOf node = kind
  | .resolve path, .ok resolved => ∀ place, host.Leads true path place → resolved = pathOf place
  | _, _ => True

/-- The host as what a program asks. -/
def machine (host : Host) : Machine FileOp FileReply Unit where
  permits _ op reply := host.Answers op reply
  after _ _ _ := ()

/-- `resolved` is the regular file that a path leads to below a directory, and lies strictly inside it. -/
def Inside (host : Host) (directory : Path) (path : Text) (resolved : Path) : Prop :=
  ∃ root file, host.Leads true directory root ∧ host.tree.node root = some .directory ∧
    host.tree.Walks true root (segmentsOf path) file ∧ host.tree.node file = some .file ∧
      resolved = pathOf file ∧ root <+: file ∧ root ≠ file

end Host

/-! ### References -/

section References

variable {py : Interpreter} {host : Host} {s s' : Unit}

/-- A part of a wire path that was accepted is a name. -/
theorem requireWireComponent_ok {reference component : Text}
    (accepted : requireWireComponent py reference component = .ok ()) :
    segmentOf component = .name component ∧ component ≠ [] ∧ component ≠ ("." : Text) := by
  obtain ⟨named, accepted⟩ := guarded_ok.mp accepted
  obtain ⟨dotless, accepted⟩ := guarded_ok.mp accepted
  obtain ⟨below, _⟩ := guarded_ok.mp accepted
  refine ⟨?_, named, dotless⟩
  rw [segmentOf, if_neg (not_or.mpr ⟨named, dotless⟩), if_neg below]

/-- An accepted wire path is its parts, and each of them is a name. -/
theorem parseWirePath_ok {reference : Text} {parts : List Text}
    (parsed : parseWirePath py reference = .ok parts) :
    parts = reference.splitOn (codePoint '/') ∧
      ∀ part ∈ parts, segmentOf part = .name part ∧ part ≠ [] ∧ part ≠ ("." : Text) := by
  obtain ⟨_, parsed⟩ := guarded_ok.mp parsed
  obtain ⟨_, parsed⟩ := guarded_ok.mp parsed
  obtain ⟨_, parsed⟩ := guarded_ok.mp parsed
  obtain ⟨_, parsed⟩ := guarded_ok.mp parsed
  obtain ⟨_, parsed⟩ := guarded_ok.mp parsed
  obtain ⟨_, each, done⟩ := bind_eq_ok.mp parsed
  cases done
  exact ⟨rfl, fun part member => requireWireComponent_ok (forM_ok each part member)⟩

theorem resolvePath_ends {path resolved : Path} {failed : OSFault → Raised}
    (returned : host.machine.Ends (resolvePath path failed) s (.ok resolved) s') :
    host.Answers (.resolve path) (.ok resolved) := by
  obtain ⟨reply, permitted, done⟩ := returned
  obtain ⟨same, _⟩ := ends_ofExcept.mp done
  obtain rfl := mapError_eq_ok.mp same.symm
  exact permitted

/-- A root is bound to what it resolves to. -/
theorem bindNativeRoot_ends {root native : Path}
    (returned : host.machine.Ends (bindNativeRoot py root) s (.ok native) s') :
    host.Answers (.resolve root) (.ok native) := by
  obtain ⟨_, _, _, returned⟩ := ends_bind_ok.mp returned
  obtain ⟨resolved, _, answered, returned⟩ := ends_bind_ok.mp returned
  obtain ⟨present, _, _, returned⟩ := ends_bind_ok.mp returned
  have same : native = resolved := by
    split at returned
    · obtain ⟨directory, _, _, returned⟩ := ends_bind_ok.mp returned
      split at returned
      · exact Except.ok.inj returned.1
      · exact nomatch returned.1
    · exact Except.ok.inj returned.1
  exact same ▸ resolvePath_ends answered

/-- **What a resolved reference was bound to**: its parts, below what the root resolves to. -/
theorem resolveWirePath_ends {root resolved : Path} {reference : Text}
    (returned : host.machine.Ends (resolveWirePath py root reference) s (.ok resolved) s') :
    ∃ parts native, parseWirePath py reference = .ok parts ∧ host.Answers (.resolve root) (.ok native) ∧
      host.Answers (.resolve (native.joined parts)) (.ok resolved) := by
  obtain ⟨parts, _, parsed, returned⟩ := ends_bind_ok.mp returned
  obtain ⟨native, _, bound, returned⟩ := ends_bind_ok.mp returned
  obtain ⟨found, _, answered, returned⟩ := ends_bind_ok.mp returned
  have same : resolved = found := by
    split at returned
    · exact Except.ok.inj returned.1
    · exact nomatch returned.1
  exact ⟨parts, native, (ends_ofExcept.mp parsed).1.symm, bindNativeRoot_ends bound,
    same ▸ resolvePath_ends answered⟩

/-- A handler that only raises returns nothing of its own. -/
theorem ends_rescue_ok {α : Type} {p : FileProgram α} {handler : Raised → FileProgram α} {a : α}
    (raises : ∀ raised, ∃ other, handler raised = .raise other)
    (returned : host.machine.Ends (p.rescue handler) s (.ok a) s') : host.machine.Ends p s (.ok a) s' := by
  obtain ⟨ended, middle, first, last⟩ := ends_resume.mp returned
  cases ended with
  | ok b =>
    obtain ⟨same, rfl⟩ := last
    exact same ▸ first
  | error raised =>
    obtain ⟨other, same⟩ := raises raised
    dsimp only at last
    rw [same] at last
    exact nomatch last.1

theorem resolve_ends {location : SnapshotLocation} {relative : Text} {resolved : Path}
    (returned : host.machine.Ends (location.resolve py relative) s (.ok resolved) s') :
    host.machine.Ends (resolveWirePath py location.root relative) s (.ok resolved) s' := by
  refine ends_rescue_ok (fun raised => ?_) returned
  split
  · exact ⟨_, rfl⟩
  · exact ⟨_, rfl⟩

end References

/-! ### The file of a shard -/

section Shard

variable {py : Interpreter} {sha256 : Bytes → Text} {host : Host} {location : SnapshotLocation}
  {manifest : Manifest} {entry : ManifestEntry} {resolved : Path} {s s' : Unit}

/-- The names of a place mean themselves. -/
theorem Host.names (host : Host) {place : List Text} (present : host.tree.node place ≠ none) :
    place.map segmentOf = place.map .name := by
  induction place using List.reverseRecOn with
  | nil => rfl
  | append_singleton before name ih =>
    have directory := host.tree.parent before name present
    rw [List.map_append, List.map_append, ih (by rw [directory]; exact Option.some_ne_none _),
      List.map_singleton, List.map_singleton, host.named before name present]

/-- What a shard was looked up by: its regular file, the reference and the generation directory. -/
structure LookedUp (py : Interpreter) (host : Host) (directory : Path) (root : Path) (generationId path : Text)
    (resolved : Path) : Prop where
  regular : host.Answers (.lstat (directory.joined (posixParts path))) (.ok .regular)
  reference : ∃ parts native,
    parseWirePath py (Text.format [generationsDirname, "/", generationId, "/", path]) = .ok parts ∧
      host.Answers (.resolve root) (.ok native) ∧ host.Answers (.resolve (native.joined parts)) (.ok resolved)
  generation : ∃ bound, host.Answers (.resolve directory) (.ok bound) ∧ bound.Above resolved

theorem requireRegular_ok {info : Except Raised FileKind} (regular : requireRegular entry info = .ok ()) :
    info = .ok .regular := by
  unfold requireRegular at regular
  split at regular
  · rfl
  all_goals cases regular

/-- What `shard_path` asked before it returned. -/
theorem shardPath_ends
    (returned : host.machine.Ends (shardPath py sha256 location manifest entry) s (.ok resolved) s') :
    isSha256 (manifest.generationId sha256) = true ∧
      LookedUp py host (location.generationsRoot.child (manifest.generationId sha256)) location.root
        (manifest.generationId sha256) entry.path resolved := by
  obtain ⟨_, _, _, returned⟩ := ends_bind_ok.mp returned
  obtain ⟨directory, _, located, returned⟩ := ends_bind_ok.mp returned
  obtain ⟨_, _, _, returned⟩ := ends_bind_ok.mp returned
  obtain ⟨info, seen, returned⟩ := returned
  obtain ⟨_, _, checked, returned⟩ := ends_bind_ok.mp returned
  obtain ⟨found, _, followed, returned⟩ := ends_bind_ok.mp returned
  obtain ⟨bound, _, generation, returned⟩ := ends_bind_ok.mp returned
  obtain ⟨named, digest⟩ : directory = location.generationsRoot.child (manifest.generationId sha256) ∧
      isSha256 (manifest.generationId sha256) = true := by
    obtain ⟨name, valid, done⟩ := bind_eq_ok.mp (ends_ofExcept.mp located).1.symm
    cases done
    unfold generationDirectoryName at valid
    split at valid
    · next digest => exact ⟨by rw [Except.ok.inj valid], digest⟩
    · cases valid
  rw [requireRegular_ok (ends_ofExcept.mp checked).1.symm, named] at seen
  rw [named] at generation
  split at returned
  · next above =>
    have same := Except.ok.inj returned.1
    rw [← same] at followed above
    refine ⟨digest, seen, ?_, bound, resolvePath_ends generation, above⟩
    exact resolveWirePath_ends (resolve_ends (ends_rescue_ok (fun _ => ⟨_, rfl⟩) followed))
  · exact nomatch returned.1

/-- The parts of the reference to a shard. -/
theorem reference_parts {generationId path : Text} {parts : List Text} (digest : isSha256 generationId = true)
    (parsed : parseWirePath py (Text.format [generationsDirname, "/", generationId, "/", path]) = .ok parts) :
    parts = generationsDirname :: generationId :: path.splitOn (codePoint '/') ∧
      posixParts path = path.splitOn (codePoint '/') := by
  obtain ⟨split, names⟩ := parseWirePath_ok parsed
  have slashless : codePoint '/' ∉ generationId := by
    obtain ⟨body, hexadecimal, either⟩ := Text.matchesToEnd_body digest
    have absent : codePoint '/' ∉ body := fun inside =>
      absurd (List.all_eq_true.mp (Bool.and_eq_true_iff.mp hexadecimal).2 _ inside) (by decide)
    rcases either with rfl | rfl
    · exact absent
    · exact fun inside => (List.mem_append.mp inside).elim absent (by decide)
  have whole : Text.format [generationsDirname, "/", generationId, "/", path] =
      generationsDirname ++ codePoint '/' :: (generationId ++ codePoint '/' :: path) := by
    simp [Text.format, Text.ofString]
  rw [whole, List.splitOn_append_cons_self_of_not_mem (by decide),
    List.splitOn_append_cons_self_of_not_mem slashless] at split
  refine ⟨split, ?_⟩
  unfold posixParts
  refine List.filter_eq_self.mpr fun part member => ?_
  obtain ⟨_, named, dotless⟩ := names part (by rw [split]; exact .tail _ (.tail _ member))
  rw [Bool.and_eq_true_iff, bne_iff_ne, bne_iff_ne]
  exact ⟨named, dotless⟩

/-- **What was looked up lies inside the generation**: the file that `lstat` saw is the one the reference
resolves to. -/
theorem LookedUp.inside {root : Path} {generationId path : Text} (digest : isSha256 generationId = true)
    (looked : LookedUp py host ((root.child generationsDirname).child generationId) root generationId path
      resolved) :
    host.Inside ((root.child generationsDirname).child generationId) path resolved := by
  obtain ⟨⟨file, node, leads, here, regular⟩, ⟨parts, native, parsed, rooted, answered⟩, bound, generation,
    above⟩ := looked
  obtain ⟨split, own⟩ := reference_parts digest parsed
  have plain : node = .file := by
    cases node <;> first | rfl | cases regular
  rw [plain] at here
  -- the walk of `lstat`, cut at the root of the lane and at the generation directory
  obtain ⟨segment, rest, segments⟩ : ∃ segment rest, segmentsOf path = segment :: rest :=
    List.exists_cons_of_ne_nil fun none => List.splitOn_ne_nil _ _ (List.map_eq_nil_iff.mp none)
  have cut : ((root.child generationsDirname).child generationId |>.joined (posixParts path)).segments =
      (root.segments ++ [segmentOf generationsDirname, segmentOf generationId]) ++ segmentsOf path := by
    simp [Path.segments, Path.joined, Path.child, own, segmentsOf]
  have walked : host.tree.Walks false (host.start root)
      ((root.segments ++ [segmentOf generationsDirname, segmentOf generationId]) ++ segmentsOf path) file :=
    cut ▸ leads
  obtain ⟨place, toPlace, toFile⟩ := (LinkTree.walks_append (segments ▸ List.cons_ne_nil _ _)).mp walked
  obtain ⟨lane, toLane, below⟩ := (LinkTree.walks_append (List.cons_ne_nil _ _)).mp toPlace
  have directory : host.tree.node place = some .directory := (segments ▸ toFile).directory
  have toFile : host.tree.Walks true place (segmentsOf path) file := toFile.followed here trivial
  -- the root is bound to the lane, so the reference resolves to the same file
  obtain rfl : native = pathOf lane := rooted lane toLane
  have laneNode : host.tree.node lane = some .directory := below.directory
  have toReference : host.Leads true ((pathOf lane).joined parts) file := by
    have cutReference : ((pathOf lane).joined parts).segments =
        lane.map .name ++ ([segmentOf generationsDirname, segmentOf generationId] ++ segmentsOf path) := by
      rw [← host.names (by rw [laneNode]; exact Option.some_ne_none _)]
      simp [Path.segments, Path.joined, pathOf, split, segmentsOf]
    show host.tree.Walks true [] _ file
    rw [cutReference]
    refine (LinkTree.walks_append (List.cons_ne_nil _ _)).mpr
      ⟨lane, LinkTree.walks_place laneNode trivial, ?_⟩
    exact (LinkTree.walks_append (segments ▸ List.cons_ne_nil _ _)).mpr ⟨place, below, toFile⟩
  have toDirectory : host.Leads true ((root.child generationsDirname).child generationId) place := by
    have cutDirectory : ((root.child generationsDirname).child generationId).segments =
        root.segments ++ [segmentOf generationsDirname, segmentOf generationId] := by
      simp [Path.segments, Path.child]
    show host.tree.Walks true (host.start root) _ place
    rw [cutDirectory]
    exact toPlace
  obtain rfl : resolved = pathOf file := answered file toReference
  obtain rfl : bound = pathOf place := generation place toDirectory
  refine ⟨place, file, toDirectory, directory, toFile, here, rfl, above.1.2, fun same => above.2 ?_⟩
  rw [same]

/-- **A shard is read inside its generation**: the path that `shard_path` returns is that of the regular file
which the path of the entry leads to below the generation directory, and lies strictly inside it. -/
theorem shardPath_inside
    (returned : host.machine.Ends (shardPath py sha256 location manifest entry) s (.ok resolved) s') :
    host.Inside (location.generationsRoot.child (manifest.generationId sha256)) entry.path resolved :=
  (shardPath_ends returned).2.inside (shardPath_ends returned).1

end Shard

/-! ### A host that answers -/

namespace Host

/-- The host of a list of places. -/
def ofList (entries : List (List Text × LinkNode Text)) (closed : LinkTree.Closed entries)
    (named : ∀ entry ∈ entries, ∀ name ∈ entry.1, segmentOf name = .name name) : Host where
  tree := LinkTree.ofList entries closed
  named := by
    intro place name present
    obtain ⟨node, found⟩ := Option.ne_none_iff_exists'.mp present
    refine named _ (LinkTree.mem_of_nodeOf ?_ found) name (List.mem_append_right _ (.head _))
    exact List.append_ne_nil_of_right_ne_nil _ (List.cons_ne_nil _ _)
  workingDirectory := []

/-- A host that walks at most so many steps, and finds everything else missing. -/
def reply (host : Host) (steps : ℕ) : (op : FileOp) → FileReply op
  | .lstat path =>
    match host.tree.walk false steps (host.start path) path.segments with
    | some place =>
      match host.tree.node place with
      | some node => .ok (kindOf node)
      | none => .error (.os ⟨"FileNotFoundError", "No such file or directory"⟩)
    | none => .error (.os ⟨"FileNotFoundError", "No such file or directory"⟩)
  | .resolve path =>
    match host.tree.walk true steps (host.start path) path.segments with
    | some place => .ok (pathOf place)
    | none => .error ⟨"FileNotFoundError", "No such file or directory"⟩
  | .pathExists _ => .ok true
  | .isDir _ => .ok true
  | .read path _ => .error (.shard .unreadable path.name)
  | .readBytes _ => .error ⟨"FileNotFoundError", "No such file or directory"⟩

/-- Its answers are true. -/
theorem reply_answers (host : Host) (steps : ℕ) (op : FileOp) : host.Answers op (host.reply steps op) := by
  cases op with
  | lstat path =>
    unfold reply
    dsimp only
    split
    · next place walked =>
      split
      · next node here => exact ⟨place, node, LinkTree.walk_sound walked, here, rfl⟩
      · trivial
    · trivial
  | resolve path =>
    unfold reply
    dsimp only
    split
    · next place walked =>
      exact fun other leads => congrArg pathOf (LinkTree.walk_sound walked |>.deterministic leads)
    · trivial
  | _ => trivial

end Host

/-- A checkout that is registered by way of a link. -/
def sampleEntries : List (List Text × LinkNode Text) :=
  [(["repo"], .link true [.name "srv", .up, .name "srv", .name "checkout"]),
    (["srv"], .directory), (["srv", "checkout"], .directory), (["srv", "checkout", ".axiom"], .directory),
    (["srv", "checkout", ".axiom", "graph"], .directory),
    (["srv", "checkout", ".axiom", "graph", "shop"], .directory),
    (["srv", "checkout", ".axiom", "graph", "shop", "core"], .directory),
    (["srv", "checkout", ".axiom", "graph", "shop", "core", "live"], .directory),
    (["srv", "checkout", ".axiom", "graph", "shop", "core", "live", "generations"], .directory),
    (["srv", "checkout", ".axiom", "graph", "shop", "core", "live", "generations", sampleId], .directory),
    (["srv", "checkout", ".axiom", "graph", "shop", "core", "live", "generations", sampleId, "coverage.json"],
      .file)]

theorem sampleEntries_closed : LinkTree.Closed sampleEntries := by decide +kernel

theorem sampleEntries_named : ∀ entry ∈ sampleEntries, ∀ name ∈ entry.1, segmentOf name = .name name := by
  decide +kernel

/-- Its host. -/
def sampleHost : Host := Host.ofList sampleEntries sampleEntries_closed sampleEntries_named

/-- The lane of the sample, its manifest and the one entry of it. -/
def sampleLane : SnapshotLocation := ⟨"shop", "core", "live", sampleRoot "core"⟩

def sampleShardEntry : ManifestEntry := ⟨"coverage.json", "coverage", sampleShardDigest, 3, 1⟩

def sampleShardManifest : Manifest :=
  ⟨1, "shop", "core", "p", "1", zeros, zeros, zeros, zeros, [], [sampleShardEntry], sampleManifest "core"⟩

/-- Where the shard lies. -/
def sampleFile : Path :=
  pathOf ["srv", "checkout", ".axiom", "graph", "shop", "core", "live", "generations", sampleId,
    "coverage.json"]

set_option maxRecDepth 4000 in
/-- The shard is found behind the link. -/
theorem shardPath_inside_sample : sampleHost.Inside
    (sampleLane.generationsRoot.child (sampleShardManifest.generationId sampleSha256))
    sampleShardEntry.path sampleFile := by
  have played : sampleHost.machine.play (fun _ op => sampleHost.reply 20 op)
      (shardPath .ascii sampleSha256 sampleLane sampleShardManifest sampleShardEntry) () =
        some (.ok sampleFile, ()) := by
    decide +kernel
  exact shardPath_inside (ends_play (fun _ op => sampleHost.reply_answers 20 op) played)

end AxiomMcp.Snapshot
