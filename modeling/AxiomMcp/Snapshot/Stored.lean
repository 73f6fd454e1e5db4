/-
**What a store holds for a pinned load.**

On a file system that nobody changes, the load of a pinned generation comes to one end. The end is described
by what the store holds: the generation's manifest, the regular file of each shard where its reference leads,
and the bytes that the manifest declares.

* `GenerationStored`: a generation with its manifest and its shards;
* `decides_pinnedShards`: a pinned session copies and verifies exactly this;
* `CatalogStored`, `decides_loadSolutionCatalog`: the catalog that a lane's pointer selects;
* `Foreign`: what a load raises where the generation is not stored. It is neither an unknown binding nor the
  absence of a file, as the questions about paths are answered without one (`Files.Lenient`).
-/

import AxiomMcp.Lib.Decides
import AxiomMcp.Snapshot.Pins
import AxiomMcp.Snapshot.Session

namespace AxiomMcp.Snapshot

open Lib Program
open Query (isSha256 isPortableRelative)

/-! ### Exceptions -/

/-- Neither a `RegistryError` nor a `FileNotFoundError`. -/
def Foreign : Raised → Prop
  | .registry _ _ => False
  | .os fault => fault.name ≠ "FileNotFoundError"
  | _ => True

theorem OfDocument.foreign {raised : Raised} (named : OfDocument raised) : Foreign raised := by
  cases raised <;> first | exact trivial | exact named.elim

/-- `Path.resolve`, `Path.exists` and `Path.is_dir` do not raise for a path that is not there, and `os.lstat`
raises an `OSError`. -/
structure Files.Lenient (files : Files) : Prop where
  resolve : ∀ path fault, files.resolve path = .error fault → fault.name ≠ "FileNotFoundError"
  pathExists : ∀ path fault, files.pathExists path = .error fault → fault.name ≠ "FileNotFoundError"
  isDir : ∀ path fault, files.isDir path = .error fault → fault.name ≠ "FileNotFoundError"
  lstat : ∀ path raised, files.lstat path = .error raised → ∃ fault, raised = .os fault

theorem lenient_plain (entries : List (Path × Bytes)) : (Files.plain entries).Lenient where
  resolve _ _ wrong := nomatch wrong
  pathExists _ _ wrong := nomatch wrong
  isDir _ _ wrong := nomatch wrong
  lstat path raised failed := by
    unfold Files.plain at failed
    dsimp only at failed
    split at failed
    · cases failed
    · exact ⟨_, (Except.error.inj failed).symm⟩

/-! ### Where a shard is -/

/-- A root that may be bound, with what it resolves to. -/
structure Binds (files : Files) (root native : Path) : Prop where
  absolute : root.isAbsolute = true
  resolved : files.resolve root = .ok native
  directory : files.pathExists native = .ok false ∨
    (files.pathExists native = .ok true ∧ files.isDir native = .ok true)

/-- A reference that leads to a path inside its root. -/
def LeadsTo (py : Interpreter) (files : Files) (root : Path) (reference : Text) (resolved : Path) : Prop :=
  ∃ parts native, parseWirePath py reference = .ok parts ∧ Binds files root native ∧
    files.resolve (native.joined parts) = .ok resolved ∧ native.Contains resolved

/-- The reference of a shard. -/
def shardReference (generationId : Text) (entry : ManifestEntry) : Text :=
  Text.format [generationsDirname, "/", generationId, "/", entry.path]

/-- The file of a shard: a regular one, of a path that its role permits, inside its generation's directory. -/
structure ShardAt (py : Interpreter) (files : Files) (location : SnapshotLocation) (generationId : Text)
    (entry : ManifestEntry) (resolved : Path) : Prop where
  role : entry.role ∈ fileRoles
  permitted : rolePermittedPath entry.role entry.path = true
  portable : isPortableRelative (shardReference generationId entry) = true
  regular : files.lstat ((location.generationsRoot.child generationId).joined (posixParts entry.path)) =
    .ok .regular
  leads : LeadsTo py files location.root (shardReference generationId entry) resolved
  inside : ∃ root, files.resolve (location.generationsRoot.child generationId) = .ok root ∧ root.Above resolved

/-- A file that holds the bytes of a shard: within the cap, and of the length that the manifest declares. -/
structure CopyStored (py : Interpreter) (files : Files) (location : SnapshotLocation) (generationId : Text)
    (entry : ManifestEntry) (payload : Bytes) : Prop where
  read : ∃ resolved, ShardAt py files location generationId entry resolved ∧ files.contents resolved = .ok payload
  capped : payload.length ≤ maxShardBytes
  sized : (payload.length : ℤ) = entry.bytes

/-- A stored shard: its bytes are those the manifest declares. -/
structure ShardStored (py : Interpreter) (sha256 : Bytes → Text) (files : Files) (location : SnapshotLocation)
    (generationId : Text) (entry : ManifestEntry) (shard : Shard) : Prop where
  verified : ∃ payload, CopyStored py files location generationId entry payload ∧
    Manifest.verifyShard py sha256 entry payload = .ok shard.document
  fields : shard = ⟨entry.path, entry.role, entry.sha256, entry.bytes, entry.records, shard.document⟩

theorem ShardStored.formed {py : Interpreter} {sha256 : Bytes → Text} {files : Files} {location : SnapshotLocation}
    {generationId : Text} {entry : ManifestEntry} {shard : Shard}
    (stored : ShardStored py sha256 files location generationId entry shard) : shard.document.WellFormed := by
  obtain ⟨payload, _, verified⟩ := stored.verified
  exact (parseBytes_loaded ((verifyShard_ok verified).2 "shard")).1

/-- A stored manifest: in the directory of its digest, and within the cap. -/
structure ManifestStored (py : Interpreter) (sha256 : Bytes → Text) (files : Files) (location : SnapshotLocation)
    (generationId : Text) (manifest : Manifest) : Prop where
  read : ∃ raw, files.contents ((location.generationsRoot.child generationId).child manifestFilename) = .ok raw ∧
    raw.length ≤ defaultReadLimits.maxManifestBytes ∧
      loadManifestBytes py raw (manifestLabel generationId) = .ok manifest
  digest : manifest.generationId sha256 = generationId

/-- A stored generation: its manifest lists shards within the caps, and every one of them is stored. -/
structure GenerationStored (py : Interpreter) (sha256 : Bytes → Text) (files : Files)
    (location : SnapshotLocation) (generationId : Text) (manifest : Manifest) (shards : List Shard) : Prop where
  stored : ManifestStored py sha256 files location generationId manifest
  listed : manifest.files ≠ []
  counted : manifest.files.length ≤ defaultReadLimits.shardLimits.maxShards
  planned : (manifest.files.map ManifestEntry.bytes).sum ≤ defaultReadLimits.shardLimits.maxTotalBytes
  shards : List.Forall₂ (ShardStored py sha256 files location generationId)
    (sortedBy ManifestEntry.path manifest.files) shards

section Decides

variable {py : Interpreter} {sha256 : Bytes → Text} {files : Files} {location : SnapshotLocation}
  {generationId : Text} {entry : ManifestEntry}

/-! ### References -/

theorem decides_resolvePath {path : Path} {failed : OSFault → Raised} {raises : Raised → Prop}
    (allowed : ∀ fault, files.resolve path = .error fault → raises (failed fault)) :
    Decides files.reply (resolvePath path failed) (files.resolve path = .ok ·) raises := by
  refine decides_call ((decides_ofExcept fun raised refused => ?_).congr fun resolved => mapError_eq_ok)
  obtain ⟨fault, failing, rfl⟩ := mapError_eq_error.mp refused
  exact allowed fault failing

/-- A question whose failure is an `OSError`. -/
theorem decides_question {op : FileOp} {x : Except OSFault Bool} {next : FileReply op → FileProgram Bool}
    (asked : next (files.reply op) = Program.ofExcept (x.mapError Raised.os))
    (kind : ∀ fault, x = .error fault → fault.name ≠ "FileNotFoundError") :
    Decides files.reply (.call op next) (x = .ok ·) Foreign := by
  refine decides_call ?_
  rw [asked]
  refine (decides_ofExcept fun raised refused => ?_).congr fun answer => mapError_eq_ok
  obtain ⟨fault, failing, rfl⟩ := mapError_eq_error.mp refused
  exact kind fault failing

/-- A root is bound to what it resolves to. -/
theorem decides_bindNativeRoot (lenient : files.Lenient) (root : Path) :
    Decides files.reply (bindNativeRoot py root) (Binds files root) Foreign := by
  have absolute : Raises Foreign (requireAbsolute py root) := by
    unfold requireAbsolute
    split
    · exact .ok ()
    · exact .error trivial
  have accepted : requireAbsolute py root = .ok () ↔ root.isAbsolute = true := by
    unfold requireAbsolute
    split
    · next holds => exact iff_of_true rfl holds
    · next fails => exact iff_of_false (fun wrong => nomatch wrong) fails
  have checked (native : Path) (present : Bool) : Decides files.reply (if present then do
        let directory ← (.call (.isDir native) fun reply => ofExcept (reply.mapError .os) : FileProgram Bool)
        if directory then .done native
        else .raise (.path .bindingRejected (Text.format ["the native root ", root.text.pyRepr py.isPrintable,
          " exists and is not a directory; a lane root must be a ",
          "directory so containment can be checked against it"]))
      else .done native : FileProgram Path)
      (fun bound => (present = true → files.isDir native = .ok true) ∧ bound = native) Foreign := by
    cases present with
    | false => exact (decides_done native).congr fun bound => (and_iff_right fun wrong => nomatch wrong).symm
    | true =>
      refine ((decides_question rfl (lenient.isDir native)).bind fun directory _ =>
        decides_ite fun _ => show Foreign (.path _ _) from trivial).congr fun bound => ?_
      constructor
      · rintro ⟨_, answered, rfl, same⟩
        exact ⟨fun _ => answered, same⟩
      · rintro ⟨answered, same⟩
        exact ⟨true, answered rfl, rfl, same⟩
  refine ((decides_ofExcept absolute).bind fun _ _ => (decides_resolvePath fun _ _ => trivial).bind fun native _ =>
    (decides_question rfl (lenient.pathExists native)).bind fun present _ =>
      checked native present).congr fun bound => ?_
  constructor
  · rintro ⟨_, passed, native, resolved, present, asked, directory, rfl⟩
    refine ⟨accepted.mp passed, resolved, ?_⟩
    cases present with
    | false => exact .inl asked
    | true => exact .inr ⟨asked, directory rfl⟩
  · rintro ⟨absolute, resolved, absent | ⟨present, directory⟩⟩
    · exact ⟨(), accepted.mpr absolute, bound, resolved, false, absent, (fun wrong => nomatch wrong), rfl⟩
    · exact ⟨(), accepted.mpr absolute, bound, resolved, true, present, (fun _ => directory), rfl⟩

theorem raises_parseWirePath (reference : Text) : Raises Foreign (parseWirePath py reference) := by
  have component (part : Text) : Raises Foreign (requireWireComponent py reference part) := by
    unfold requireWireComponent
    dsimp only
    repeat' split
    all_goals first | exact .ok _ | exact .error trivial
  unfold parseWirePath
  repeat' split
  all_goals first | exact .error trivial | exact (Raises.forM component _).bind fun _ => .ok _

/-- A wire path is resolved to where it leads. -/
theorem decides_resolveWirePath (lenient : files.Lenient) (root : Path) (reference : Text) :
    Decides files.reply (resolveWirePath py root reference) (LeadsTo py files root reference) Foreign := by
  refine ((decides_ofExcept (raises_parseWirePath reference)).bind fun parts _ =>
    (decides_bindNativeRoot lenient root).bind fun native _ =>
      (decides_resolvePath fun _ _ => trivial).bind fun resolved _ =>
        decides_ite fun _ => show Foreign (.path _ _) from trivial).congr fun found => ?_
  constructor
  · rintro ⟨parts, parsed, native, binds, _, resolved, inside, rfl⟩
    exact ⟨parts, native, parsed, binds, resolved, inside⟩
  · rintro ⟨parts, native, parsed, binds, resolved, inside⟩
    exact ⟨parts, parsed, native, binds, found, resolved, inside, rfl⟩

/-- A reference is resolved to where it leads, or untrusted. -/
theorem decides_resolveReference (lenient : files.Lenient) (root : Path) (reference : Text) :
    Decides files.reply (resolveReference py root reference) (LeadsTo py files root reference)
      (fun raised => Foreign raised ∨ ∃ message, raised = untrusted message) := by
  refine (decides_resolveWirePath lenient root reference).rescue fun raised foreign => ?_
  cases raised with
  | path kind message => exact ⟨_, rfl, .inr ⟨_, rfl⟩⟩
  | _ => exact ⟨_, rfl, .inl foreign⟩

/-! ### Shards -/

theorem generationRoot_ok (digest : isSha256 generationId = true) :
    location.generationRoot py generationId = .ok (location.generationsRoot.child generationId) := by
  unfold SnapshotLocation.generationRoot generationDirectoryName
  rw [if_pos digest]
  rfl

theorem requireRolePath_ok :
    requireRolePath py entry = .ok () ↔ entry.role ∈ fileRoles ∧
      rolePermittedPath entry.role entry.path = true := by
  unfold requireRolePath
  rw [guarded_ok, guarded_ok, not_not, not_not]
  exact and_congr_right fun _ => and_iff_left rfl

theorem raises_requireRolePath : Raises Foreign (requireRolePath py entry) := by
  unfold requireRolePath
  repeat' split
  all_goals first | exact .ok _ | exact .error trivial

theorem portableRelative_ok {reference accepted : Text} :
    portableRelative py reference = .ok accepted ↔ isPortableRelative reference = true ∧ reference = accepted := by
  unfold portableRelative
  split
  · next portable => exact Except.ok.injEq reference accepted ▸ (and_iff_right portable).symm
  · next refused => exact iff_of_false (fun wrong => nomatch wrong) fun both => refused both.1

theorem requireRegular_iff {info : Except Raised FileKind} :
    requireRegular entry info = .ok () ↔ info = .ok .regular := by
  unfold requireRegular
  split
  · exact iff_of_true rfl rfl
  all_goals exact iff_of_false (fun wrong => nomatch wrong) fun wrong => nomatch wrong

/-- The file of a shard is found exactly where it is. -/
theorem decides_shardPath (lenient : files.Lenient) {manifest : Manifest}
    (named : manifest.generationId sha256 = generationId) (digest : isSha256 generationId = true) :
    Decides files.reply (shardPath py sha256 location manifest entry)
      (ShardAt py files location generationId entry) Foreign := by
  subst named
  have portable : Raises Foreign
    ((portableRelative py (shardReference (manifest.generationId sha256) entry)).mapError
      (rejectUntrusted entry " is not a portable path: ")) := by
    unfold portableRelative
    split
    · exact .ok _
    · exact .error trivial
  have regular : Raises Foreign (requireRegular entry (files.lstat
      ((location.generationsRoot.child (manifest.generationId sha256)).joined (posixParts entry.path)))) := by
    intro raised failed
    unfold requireRegular at failed
    split at failed
    · cases failed
    · exact Except.error.inj failed ▸ trivial
    · exact Except.error.inj failed ▸ trivial
    · exact Except.error.inj failed ▸ trivial
    · next other missing =>
      obtain ⟨fault, rfl⟩ := lenient.lstat _ _ missing
      exact (other fault rfl).elim
  have resolved : Decides files.reply
      ((location.resolve py (shardReference (manifest.generationId sha256) entry)).rescue fun raised =>
        .raise (rejectUntrusted entry " escapes the registered lane: " raised))
      (LeadsTo py files location.root (shardReference (manifest.generationId sha256) entry)) Foreign := by
    refine (decides_resolveReference lenient _ _).rescue fun raised either => ?_
    rcases either with foreign | ⟨message, rfl⟩
    · refine ⟨_, rfl, ?_⟩
      cases raised <;> first | exact foreign | exact foreign.elim
    · exact ⟨_, rfl, trivial⟩
  unfold shardPath
  dsimp only
  rw [generationRoot_ok digest]
  refine ((decides_ofExcept raises_requireRolePath).bind fun _ _ => (decides_ofExcept portable).bind fun _ _ =>
    decides_call <| (decides_ofExcept regular).bind fun _ _ => resolved.bind fun found _ =>
      (decides_resolvePath fun _ fails => lenient.resolve _ _ fails).bind fun root _ =>
        decides_ite fun _ => show Foreign (.shard _ _) from trivial).congr fun found => ?_
  constructor
  · rintro ⟨_, role, _, portable, _, regular, _, leads, root, rooted, above, rfl⟩
    obtain ⟨role, permitted⟩ := requireRolePath_ok.mp role
    exact ⟨role, permitted, (portableRelative_ok.mp (mapError_eq_ok.mp portable)).1, requireRegular_iff.mp regular,
      leads, root, rooted, above⟩
  · rintro ⟨role, permitted, portable, regular, leads, root, rooted, above⟩
    exact ⟨(), requireRolePath_ok.mpr ⟨role, permitted⟩, _,
      mapError_eq_ok.mpr (portableRelative_ok.mpr ⟨portable, rfl⟩), (),
        requireRegular_iff.mpr regular, found, leads,
      root, rooted, above, rfl⟩

/-! ### Bytes -/

/-- A bounded read within its cap. -/
theorem readBounded_ok {path : Path} {cap : ℕ} {payload : Bytes} (capped : payload.length ≤ cap) :
    files.readBounded path cap = .ok payload ↔ files.contents path = .ok payload := by
  unfold Files.readBounded
  cases files.contents path with
  | error fault => exact iff_of_false (fun wrong => nomatch wrong) fun wrong => nomatch wrong
  | ok bytes =>
    rw [Except.ok.injEq, Except.ok.injEq]
    constructor
    · rintro rfl
      refine (List.take_of_length_le ?_).symm
      by_contra longer
      rw [List.length_take, min_eq_left (not_le.mp longer).le] at capped
      exact Nat.not_succ_le_self _ capped
    · rintro rfl
      exact List.take_of_length_le (le_trans capped (Nat.le_succ _))

theorem raises_readBounded (path : Path) (cap : ℕ) : Raises Foreign (files.readBounded path cap) := by
  unfold Files.readBounded
  split
  · exact .ok _
  · exact .error trivial

/-- A bounded copy of what a file holds. -/
theorem decides_bounded (path : Path) (cap : ℕ) (what : Text) :
    Decides files.reply (ReadSession.bounded path cap what)
      (fun payload => files.contents path = .ok payload ∧ payload.length ≤ cap) Foreign := by
  refine decides_call ?_
  cases answered : files.reply (.read path cap) with
  | error raised =>
    have read : files.readBounded path cap = .error raised := answered
    refine (decides_raise (raises_readBounded _ _ _ read)).congr fun payload => iff_of_false not_false ?_
    rintro ⟨held, capped⟩
    cases read.symm.trans ((readBounded_ok capped).mpr held)
  | ok payload =>
    have read : files.readBounded path cap = .ok payload := answered
    dsimp only
    split
    · next longer =>
      refine (decides_raise trivial).congr fun other => iff_of_false not_false ?_
      rintro ⟨held, capped⟩
      obtain rfl := Except.ok.inj (read.symm.trans ((readBounded_ok capped).mpr held))
      exact not_le.mpr longer capped
    · next within =>
      have capped := not_lt.mp within
      refine (decides_done payload).congr fun other => ⟨?_, ?_⟩
      · rintro rfl
        exact ⟨(readBounded_ok capped).mp read, capped⟩
      · rintro ⟨held, capped⟩
        exact Except.ok.inj (((readBounded_ok capped).mpr held).symm.trans read)

/-- The copy of a shard's bytes. -/
def copyOf (entry : ManifestEntry) (payload : Bytes) : CopiedShard :=
  ⟨entry.path, entry.role, entry.sha256, entry.bytes, entry.records, payload⟩

theorem checkPayload_iff {limits : ShardLimits} {payload : Bytes} {copied : CopiedShard} :
    checkPayload entry limits payload = .ok copied ↔ payload.length ≤ limits.maxShardBytes ∧
      (payload.length : ℤ) = entry.bytes ∧ copied = copyOf entry payload := by
  unfold checkPayload
  rw [guarded_ok, guarded_ok, not_lt, not_not, Except.ok.injEq, eq_comm (a := copied)]
  rfl

theorem raises_checkPayload {limits : ShardLimits} {payload : Bytes} :
    Raises Foreign (checkPayload entry limits payload) := by
  unfold checkPayload
  repeat' split
  all_goals first | exact .ok _ | exact .error trivial

/-- The bytes of a shard are copied exactly where they are stored. -/
theorem decides_copyShard (lenient : files.Lenient) {manifest : Manifest}
    (named : manifest.generationId sha256 = generationId) (digest : isSha256 generationId = true)
    (entry : ManifestEntry) :
    Decides files.reply (copyShard py sha256 location manifest defaultReadLimits.shardLimits entry)
      (fun copied => ∃ payload, CopyStored py files location generationId entry payload ∧
        copied = copyOf entry payload) Foreign := by
  have declared : Raises Foreign (requireDeclaredCap entry defaultReadLimits.shardLimits) := by
    unfold requireDeclaredCap
    split
    · exact .error trivial
    · exact .ok ()
  have read (resolved : Path) : Raises Foreign ((files.readBounded resolved
      defaultReadLimits.shardLimits.maxShardBytes).mapError (rejectUnreadable entry)) := by
    intro raised failed
    obtain ⟨inner, failing, rfl⟩ := mapError_eq_error.mp failed
    unfold Files.readBounded at failing
    split at failing
    · cases failing
    · exact Except.error.inj failing ▸ trivial
  refine ((decides_ofExcept raises_requireRolePath).bind fun _ _ => (decides_ofExcept declared).bind fun _ _ =>
    (decides_shardPath lenient named digest).bind fun resolved _ => decides_call <|
      (decides_ofExcept (read resolved)).bind fun payload _ =>
        decides_ofExcept raises_checkPayload).congr fun copied => ?_
  constructor
  · rintro ⟨_, _, _, _, resolved, at_, payload, reading, checked⟩
    obtain ⟨capped, sized, rfl⟩ := checkPayload_iff.mp checked
    exact ⟨payload, ⟨⟨resolved, at_, (readBounded_ok capped).mp (mapError_eq_ok.mp reading)⟩, capped, sized⟩, rfl⟩
  · rintro ⟨payload, ⟨⟨resolved, there, held⟩, capped, sized⟩, rfl⟩
    refine ⟨(), requireRolePath_ok.mpr ⟨there.role, there.permitted⟩, (), ?_, resolved, there, payload,
      mapError_eq_ok.mpr ((readBounded_ok capped).mpr held), checkPayload_iff.mpr ⟨capped, sized, rfl⟩⟩
    unfold requireDeclaredCap
    rw [if_neg]
    rw [← sized, not_lt]
    exact Nat.cast_le.mpr capped

/-- The copies of some shards. -/
theorem decides_copyEach (lenient : files.Lenient) {manifest : Manifest}
    (named : manifest.generationId sha256 = generationId) (digest : isSha256 generationId = true)
    (entries : List ManifestEntry) :
    Decides files.reply (copyEach py sha256 location manifest defaultReadLimits.shardLimits entries)
      (List.Forall₂ (fun entry copied => ∃ payload, CopyStored py files location generationId entry payload ∧
        copied = copyOf entry payload) entries) Foreign := by
  induction entries with
  | nil => exact (decides_done []).congr fun copied => List.forall₂_nil_left_iff.symm
  | cons entry rest ih =>
    refine ((decides_copyShard lenient named digest entry).bind fun copied _ => ih.bind fun later _ =>
      decides_done (copied :: later)).congr fun all => ?_
    rw [List.forall₂_cons_left_iff]
    constructor
    · rintro ⟨copied, one, later, others, rfl⟩
      exact ⟨copied, later, one, others, rfl⟩
    · rintro ⟨copied, later, one, others, rfl⟩
      exact ⟨copied, one, later, others, rfl⟩

/-! ### Generations -/

theorem raises_verifyOne (manifest : Manifest) (item : CopiedShard) :
    Raises Foreign (verifyOne py sha256 manifest item) := by
  have listed : Raises Foreign (manifest.entry py item.path) := by
    unfold Manifest.entry
    split
    · exact .ok _
    · exact .error trivial
  refine listed.bind fun entry => Raises.bind ?_ fun _ => .ok _
  unfold Manifest.verifyShard
  dsimp only
  split
  · exact .error trivial
  split
  · exact .error trivial
  refine ((raises_parseBytes _ _).mono fun _ => OfDocument.foreign).bind fun document => Raises.bind ?_ fun _ => ?_
  · unfold Manifest.recordsOf
    split
    · exact .ok _
    · exact .ok _
    · exact .error trivial
  · split
    · exact .error trivial
    · exact .ok _

/-- The copies of a manifest's entries are verified exactly as the shards are stored. -/
theorem verifyCopied_iff {raw : Bytes} {what : Text} {manifest : Manifest}
    (loaded : loadManifestBytes py raw what = .ok manifest) {shards : List Shard} {entries : List ManifestEntry}
    (within : ∀ entry ∈ entries, entry ∈ manifest.files) :
    (∃ copied, List.Forall₂ (fun entry copied => ∃ payload,
      CopyStored py files location generationId entry payload ∧
        copied = copyOf entry payload) entries copied ∧ verifyCopied py sha256 manifest copied = .ok shards) ↔
      List.Forall₂ (ShardStored py sha256 files location generationId) entries shards := by
  induction entries generalizing shards with
  | nil =>
    constructor
    · rintro ⟨copied, copies, verified⟩
      cases copies
      cases verified
      exact .nil
    · intro stored
      cases stored
      exact ⟨[], .nil, rfl⟩
  | cons entry rest ih =>
    have ih := fun {shards} => @ih shards fun other here => within other (List.mem_cons_of_mem _ here)
    have own := entry_of_mem loaded (within entry List.mem_cons_self)
    have verified (payload : Bytes) (shard : Shard) :
        verifyOne py sha256 manifest (copyOf entry payload) = .ok shard ↔
          Manifest.verifyShard py sha256 entry payload = .ok shard.document ∧
            shard = ⟨entry.path, entry.role, entry.sha256, entry.bytes, entry.records, shard.document⟩ := by
      unfold verifyOne copyOf
      dsimp only
      rw [own, ok_bind]
      constructor
      · intro returned
        obtain ⟨document, parsed, same⟩ := bind_eq_ok.mp returned
        obtain rfl := Except.ok.inj same
        exact ⟨parsed, rfl⟩
      · rintro ⟨parsed, same⟩
        rw [same]
        exact bind_eq_ok.mpr ⟨_, parsed, rfl⟩
    rw [List.forall₂_cons_left_iff]
    constructor
    · rintro ⟨copied, copies, done⟩
      obtain ⟨_, others, ⟨payload, stored, rfl⟩, later, rfl⟩ := List.forall₂_cons_left_iff.mp copies
      obtain ⟨shard, more, first, last, rfl⟩ := List.forall₂_cons_left_iff.mp (mapM_ok.mp done)
      obtain ⟨parsed, fields⟩ := (verified payload shard).mp first
      exact ⟨shard, more, ⟨⟨payload, stored, parsed⟩, fields⟩, ih.mp ⟨others, later, mapM_ok.mpr last⟩, rfl⟩
    · rintro ⟨shard, more, ⟨⟨payload, stored, parsed⟩, fields⟩, later, rfl⟩
      obtain ⟨others, copies, done⟩ := ih.mpr later
      exact ⟨copyOf entry payload :: others, .cons ⟨payload, stored, rfl⟩ copies,
        mapM_ok.mpr (.cons ((verified payload shard).mpr ⟨parsed, fields⟩) (mapM_ok.mp done))⟩

/-- The entries of a manifest, all of them. -/
theorem selectedEntries_none {manifest : Manifest} {entries : List ManifestEntry} :
    selectedEntries py sha256 manifest none = .ok entries ↔
      manifest.files ≠ [] ∧ entries = sortedBy ManifestEntry.path manifest.files := by
  show (if manifest.files = [] then _ else _) = _ ↔ _
  rw [guarded_ok]
  exact and_congr_right fun _ => (Except.ok.injEq _ _).to_iff.trans eq_comm

theorem requirePlanCap_ok {manifest : Manifest} :
    requirePlanCap (sortedBy ManifestEntry.path manifest.files) defaultReadLimits.shardLimits = .ok () ↔
      manifest.files.length ≤ defaultReadLimits.shardLimits.maxShards ∧
        (manifest.files.map ManifestEntry.bytes).sum ≤ defaultReadLimits.shardLimits.maxTotalBytes := by
  unfold requirePlanCap
  dsimp only
  rw [guarded_ok, guarded_ok, length_sortedBy, not_lt, not_lt,
    ((sortedBy_perm ManifestEntry.path manifest.files).map ManifestEntry.bytes).sum_eq]
  exact and_congr_right fun _ => and_iff_left rfl

end Decides

/-! ### Pinned sessions -/

section Pinned

variable {files : Files} {session : ReadSession} {generationId : Text}

/-- The copy that a pinned session makes of a manifest's bytes and its shards. -/
def pinnedCopy (session : ReadSession) (raw : Bytes) (manifest : Manifest) (copies : List CopiedShard) :
    CopiedGeneration where
  solutionId := manifest.solutionId
  projectId := manifest.projectId
  lane := session.location.lane
  generationId := manifest.generationId session.sha256
  pointerBytes := []
  manifest := manifest
  shards := copies
  bytesCopied := ([] : Bytes).length + raw.length + (copies.map CopiedShard.bytes).sum

/-- The generation of some copies is stored. -/
structure CopiesStored (session : ReadSession) (files : Files) (generationId : Text) (raw : Bytes)
    (manifest : Manifest) (copies : List CopiedShard) : Prop where
  held : files.contents ((session.location.generationsRoot.child generationId).child manifestFilename) = .ok raw
  capped : raw.length ≤ defaultReadLimits.maxManifestBytes
  loaded : loadManifestBytes session.interpreter raw (manifestLabel generationId) = .ok manifest
  digest : manifest.generationId session.sha256 = generationId
  listed : manifest.files ≠ []
  planned : requirePlanCap (sortedBy ManifestEntry.path manifest.files) defaultReadLimits.shardLimits = .ok ()
  copies : List.Forall₂ (fun entry copied => ∃ payload,
      CopyStored session.interpreter files session.location generationId entry payload ∧
        copied = copyOf entry payload)
    (sortedBy ManifestEntry.path manifest.files) copies

/-- A session that reads a generation by its id, all of it and within the default limits. -/
structure ReadsPinned (session : ReadSession) (generationId : Text) : Prop where
  pinned : session.pinnedGenerationId = some generationId
  roles : session.roles = none
  limits : session.limits = defaultReadLimits

theorem checkManifest_iff (reads : ReadsPinned session generationId) {manifest : Manifest} :
    session.checkManifest none (session.location.generationsRoot.child generationId) manifest = .ok () ↔
      manifest.generationId session.sha256 = generationId := by
  unfold ReadSession.checkManifest ReadSession.selectedId
  rw [reads.pinned, guarded_ok, Path.name_child, not_not]
  dsimp only [Option.getD_some]
  rw [guarded_ok, not_not]
  exact ⟨fun both => both.1.symm, fun same => ⟨same.symm, same, rfl⟩⟩

theorem raises_checkManifest (session : ReadSession) (directory : Path) (manifest : Manifest) :
    Raises Foreign (session.checkManifest none directory manifest) := by
  unfold ReadSession.checkManifest
  dsimp only
  repeat' split
  all_goals first | exact .ok _ | exact .error trivial

theorem raises_selectedEntries (py : Interpreter) (sha256 : Bytes → Text) (manifest : Manifest) :
    Raises Foreign (selectedEntries py sha256 manifest none) := by
  show Raises Foreign (if manifest.files = [] then _ else _)
  split
  · exact .error trivial
  · exact .ok _

theorem raises_requirePlanCap (entries : List ManifestEntry) (limits : ShardLimits) :
    Raises Foreign (requirePlanCap entries limits) := by
  unfold requirePlanCap
  dsimp only
  repeat' split
  all_goals first | exact .ok _ | exact .error trivial

/-- The shards of a manifest are copied exactly where it lists some, they fit the plan and their copies are
stored. -/
theorem decides_copyShards (lenient : files.Lenient) (digest : isSha256 generationId = true) {manifest : Manifest}
    (same : manifest.generationId session.sha256 = generationId) :
    Decides files.reply (copyShards session.interpreter session.sha256 session.location manifest none
      defaultReadLimits.shardLimits) (fun copies => manifest.files ≠ [] ∧
        requirePlanCap (sortedBy ManifestEntry.path manifest.files) defaultReadLimits.shardLimits = .ok () ∧
        List.Forall₂ (fun entry copied => ∃ payload,
            CopyStored session.interpreter files session.location generationId entry payload ∧
            copied = copyOf entry payload) (sortedBy ManifestEntry.path manifest.files) copies) Foreign := by
  refine ((decides_ofExcept (raises_selectedEntries _ _ manifest)).bind fun entries _ =>
    (decides_ofExcept (raises_requirePlanCap entries _)).bind
      fun _ _ => decides_copyEach lenient same digest entries).congr fun copies => ?_
  constructor
  · rintro ⟨entries, chosen, _, planned, copied⟩
    obtain ⟨listed, rfl⟩ := selectedEntries_none.mp chosen
    exact ⟨listed, planned, copied⟩
  · rintro ⟨listed, planned, copied⟩
    exact ⟨_, selectedEntries_none.mpr ⟨listed, rfl⟩, (), planned, copied⟩

/-- A pinned generation is copied exactly where its copies are stored. -/
theorem decides_copyGeneration (lenient : files.Lenient) (reads : ReadsPinned session generationId)
    (digest : isSha256 generationId = true) :
    Decides files.reply session.copyGeneration (fun copied => ∃ raw manifest copies,
      CopiesStored session files generationId raw manifest copies ∧ copied = pinnedCopy session raw manifest copies)
      Foreign := by
  have pointer : session.copyPointer = .done (none, []) := by
    unfold ReadSession.copyPointer
    rw [reads.pinned]
  have named : session.selectedId none = generationId := by
    unfold ReadSession.selectedId
    rw [reads.pinned]
    rfl
  unfold ReadSession.copyGeneration
  rw [pointer, done_bind]
  dsimp only
  rw [named, generationRoot_ok digest, reads.limits, reads.roles]
  refine ((decides_bounded _ _ _).bind fun raw _ =>
    (decides_ofExcept ((raises_loadManifestBytes raw _).mono fun _ => OfDocument.foreign)).bind fun manifest _ =>
      (decides_ofExcept (raises_checkManifest session _ manifest)).bind fun _ passed =>
        (decides_copyShards lenient digest ((checkManifest_iff reads).mp passed)).bind fun copied _ =>
          decides_done (pinnedCopy session raw manifest copied)).congr fun copied => ?_
  constructor
  · rintro ⟨raw, ⟨held, capped⟩, manifest, loaded, _, passed, copies, ⟨listed, planned, copied⟩, rfl⟩
    exact ⟨raw, manifest, copies, ⟨held, capped, loaded, (checkManifest_iff reads).mp passed, listed, planned,
      copied⟩, rfl⟩
  · rintro ⟨raw, manifest, copies, stored, rfl⟩
    exact ⟨raw, ⟨stored.held, stored.capped⟩, manifest, stored.loaded, (),
      (checkManifest_iff reads).mpr stored.digest,
      copies, ⟨stored.listed, stored.planned, stored.copies⟩, rfl⟩

/-- What a pinned session copies and verifies. -/
def pinnedShards (session : ReadSession) : FileProgram (Manifest × List Shard) := do
  let copied ← session.copyGeneration
  let shards ← ofExcept (verifyCopied session.interpreter session.sha256 copied.manifest copied.shards)
  .done (copied.manifest, shards)

/-- **A pinned session copies and verifies exactly the generation that is stored.** -/
theorem decides_pinnedShards (lenient : files.Lenient) (reads : ReadsPinned session generationId)
    (digest : isSha256 generationId = true) :
    Decides files.reply (pinnedShards session) (fun found => GenerationStored session.interpreter session.sha256
      files session.location generationId found.1 found.2) Foreign := by
  refine ((decides_copyGeneration lenient reads digest).bind fun copied _ =>
    (decides_ofExcept (.mapM (raises_verifyOne copied.manifest) copied.shards)).bind fun shards _ =>
      decides_done (copied.manifest, shards)).congr fun found => ?_
  constructor
  · rintro ⟨_, ⟨raw, manifest, copies, stored, rfl⟩, shards, verified, rfl⟩
    obtain ⟨counted, planned⟩ := requirePlanCap_ok.mp stored.planned
    exact ⟨⟨⟨raw, stored.held, stored.capped, stored.loaded⟩, stored.digest⟩, stored.listed, counted, planned,
      (verifyCopied_iff stored.loaded fun _ here => (mem_sortedBy _ _).mp here).mp
        ⟨copies, stored.copies, verified⟩⟩
  · rintro ⟨⟨⟨raw, held, capped, loaded⟩, same⟩, listed, counted, planned, shards⟩
    obtain ⟨copies, copied, verified⟩ :=
      (verifyCopied_iff loaded fun _ here => (mem_sortedBy _ _).mp here).mpr shards
    exact ⟨_, ⟨raw, found.1, copies, ⟨held, capped, loaded, same, listed, requirePlanCap_ok.mpr ⟨counted, planned⟩,
      copied⟩, rfl⟩, found.2, verified, rfl⟩

end Pinned

/-! ### Catalogs -/

/-- A stored catalog: the lane's pointer names its digest, and the directory of its digest holds it. -/
structure CatalogStored (py : Interpreter) (sha256 : Bytes → Text) (files : Files) (location : CatalogLocation)
    (catalog : Catalog) : Prop where
  pointer : ∃ raw pointer, files.contents location.pointer = .ok raw ∧
    loadPointerBytes py raw currentPointerName = .ok pointer ∧ pointer.generationId = catalog.generationId sha256
  digest : isSha256 (catalog.generationId sha256) = true
  read : ∃ raw, files.contents
      ((location.generationsRoot.child (catalog.generationId sha256)).child catalogFilename) = .ok raw ∧
    loadCatalogBytes py raw catalogFilename = .ok catalog

section Catalogs

variable {py : Interpreter} {sha256 : Bytes → Text} {files : Files} {location : CatalogLocation}

theorem decides_readBytes (path : Path) :
    Decides files.reply (readBytes path) (files.contents path = .ok ·) fun _ => True :=
  decides_call ((decides_ofExcept fun _ _ => trivial).congr fun _ => mapError_eq_ok)

theorem decides_loadCatalog (path : Path) :
    Decides files.reply (loadCatalog py path)
      (fun catalog => ∃ raw, files.contents path = .ok raw ∧ loadCatalogBytes py raw path.name = .ok catalog)
      fun _ => True :=
  Decides.bind (decides_call ((decides_ofExcept fun _ _ => trivial).congr fun _ => mapError_eq_ok)) fun _ _ =>
    decides_ofExcept fun _ _ => trivial

theorem catalogRoot_ok {generationId : Text} {directory : Path} :
    location.generationRoot py generationId = .ok directory ↔
      isSha256 generationId = true ∧ directory = location.generationsRoot.child generationId := by
  unfold CatalogLocation.generationRoot generationDirectoryName
  split
  · next digest => exact (Except.ok.injEq _ _).to_iff.trans (eq_comm.trans (and_iff_right digest).symm)
  · next other => exact iff_of_false (fun wrong => nomatch wrong) fun both => other both.1

/-- **The catalog that a lane's pointer selects is the one that is stored.** -/
theorem decides_loadSolutionCatalog :
    Decides files.reply (loadSolutionCatalog py sha256 location) (CatalogStored py sha256 files location)
      fun _ => True := by
  have checked (pointer : Pointer) (directory : Path) (catalog : Catalog) : Decides files.reply
      (if directory.name ≠ catalog.generationId sha256 then
        .raise (catalogInvalid (Text.format ["catalog generation directory ", directory.name,
          " does not match the catalog bytes ", catalog.generationId sha256]))
      else if pointer.generationId ≠ catalog.generationId sha256 then
        .raise (catalogInvalid (Text.format ["catalog pointer generation_id ", pointer.generationId,
          " does not match the canonical catalog bytes ", catalog.generationId sha256]))
      else .done (catalog, directory) : FileProgram (Catalog × Path))
      (fun found => (directory.name = catalog.generationId sha256 ∧
        pointer.generationId = catalog.generationId sha256) ∧ found = (catalog, directory)) fun _ => True := by
    split
    · next other => exact (decides_raise trivial).congr fun found => iff_of_false not_false fun all => other all.1.1
    · next named =>
      split
      · next other => exact (decides_raise trivial).congr fun found =>
          iff_of_false not_false fun all => other all.1.2
      · next pointed => exact (decides_done _).congr fun found =>
          (and_iff_right ⟨not_not.mp named, not_not.mp pointed⟩).symm
  refine (Decides.bind (((decides_readBytes location.pointer).bind fun raw _ =>
    decides_ofExcept fun _ _ => trivial).bind
    fun pointer _ => (decides_ofExcept fun _ _ => trivial).bind fun directory _ =>
      (decides_loadCatalog _).bind fun catalog _ => checked pointer directory catalog) fun found _ =>
        decides_done found.1).congr fun catalog => ?_
  constructor
  · rintro ⟨_, ⟨pointer, ⟨raw, held, loaded⟩, directory, rooted, found, ⟨bytes, here, read⟩,
      ⟨named, pointed⟩, rfl⟩, rfl⟩
    obtain ⟨digest, rfl⟩ := catalogRoot_ok.mp rooted
    unfold Pointer.directoryName at digest here
    rw [pointed] at digest here
    rw [Path.name_child] at read
    refine ⟨⟨raw, pointer, held, ?_, pointed⟩, digest, bytes, here, read⟩
    exact Path.name_child location.root currentPointerName ▸ loaded
  · rintro ⟨⟨raw, pointer, held, loaded, pointed⟩, digest, bytes, here, read⟩
    have named : (location.generationsRoot.child pointer.directoryName).name = catalog.generationId sha256 :=
      (Path.name_child _ _).trans pointed
    refine ⟨(catalog, location.generationsRoot.child pointer.directoryName), ⟨pointer, ⟨raw, held, ?_⟩, _,
      catalogRoot_ok.mpr ⟨?_, rfl⟩, catalog, ⟨bytes, ?_, ?_⟩, ⟨named, pointed⟩, rfl⟩, rfl⟩
    · exact (Path.name_child location.root currentPointerName).symm ▸ loaded
    · exact (show pointer.directoryName = _ from pointed) ▸ digest
    · exact (show pointer.directoryName = _ from pointed) ▸ here
    · exact (Path.name_child _ _).symm ▸ read

end Catalogs

end AxiomMcp.Snapshot
