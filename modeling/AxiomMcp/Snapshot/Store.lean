/-
**The file system a reader asks.**

A `Path` is given by its components and what it starts with. `FileOp` is what the snapshot modules ask of the file
system: a bounded read through an injected source, a whole read, and the four questions that the path rules
put. A `FileProgram` is a part of a reader that asks nothing else.

* `FileProgram` over surroundings that may answer each question differently each time: what a reader sees
  while others write;
* `Files`: one state of the file system, which answers by what it holds. `Files.reply` is the answer with
  `read_bounded` for a source.
-/

import AxiomMcp.Lib.Program
import AxiomMcp.Lib.Utf8
import AxiomMcp.Exceptions

namespace AxiomMcp.Snapshot

open Lib

/-! ### Paths -/

/-- What a path starts with: nothing, one slash or two. -/
inductive Anchor
  | relative | root | twoSlashes
  deriving DecidableEq

/-- The text of an anchor. -/
def Anchor.text : Anchor → Text
  | .relative => []
  | .root => "/"
  | .twoSlashes => "//"

/-- A path of the host, by its components. -/
structure Path where
  parts : List Text
  anchor : Anchor := .root
  deriving DecidableEq

namespace Path

/-- `path / name` -/
def child (path : Path) (name : Text) : Path := { path with parts := path.parts ++ [name] }

/-- `path.joinpath(*parts)` -/
def joined (path : Path) (parts : List Text) : Path := { path with parts := path.parts ++ parts }

/-- `path.name` -/
def name (path : Path) : Text := path.parts.getLast?.getD []

/-- `path.is_absolute()` -/
def isAbsolute (path : Path) : Bool := path.anchor ≠ .relative

/-- `str(path)` -/
def text (path : Path) : Text :=
  match path.anchor.text ++ Text.join "/" path.parts with
  | [] => "."
  | text => text

/-- `root == path or root in path.parents` -/
def Contains (root path : Path) : Prop := root.anchor = path.anchor ∧ root.parts <+: path.parts

/-- `root in path.parents` -/
def Above (root path : Path) : Prop := root.Contains path ∧ path ≠ root

instance (root path : Path) : Decidable (root.Contains path) :=
  inferInstanceAs (Decidable (_ ∧ root.parts <+: path.parts))

instance (root path : Path) : Decidable (root.Above path) := inferInstanceAs (Decidable (_ ∧ _))

@[simp] theorem name_child (path : Path) (name : Text) : (path.child name).name = name := by
  unfold Path.name child
  rw [List.getLast?_concat]
  rfl

theorem contains_refl (path : Path) : path.Contains path := ⟨rfl, List.prefix_rfl⟩

theorem contains_child {root path : Path} (inside : root.Contains path) (name : Text) :
    root.Contains (path.child name) :=
  ⟨inside.1, inside.2.trans (List.prefix_append _ _)⟩

theorem contains_joined {root path : Path} (inside : root.Contains path) (parts : List Text) :
    root.Contains (path.joined parts) :=
  ⟨inside.1, inside.2.trans (List.prefix_append _ _)⟩

end Path

/-- What `os.lstat` says a path is. -/
inductive FileKind
  | regular | symbolicLink | other
  deriving DecidableEq

/-! ### Questions -/

/-- What a reader asks of the file system. -/
inductive FileOp
  /-- `self._read(path, limit)` -/
  | read (path : Path) (limit : ℕ)
  /-- `path.read_bytes()` -/
  | readBytes (path : Path)
  /-- `os.lstat(path)` -/
  | lstat (path : Path)
  /-- `path.resolve()`; what fails is an `OSError`, or the `RuntimeError` of a loop. -/
  | resolve (path : Path)
  /-- `path.exists()` -/
  | pathExists (path : Path)
  /-- `path.is_dir()` -/
  | isDir (path : Path)
  deriving DecidableEq

/-- What it is answered. -/
abbrev FileReply : FileOp → Type
  | .read _ _ => Except Raised Bytes
  | .readBytes _ => Except OSFault Bytes
  | .lstat _ => Except Raised FileKind
  | .resolve _ => Except OSFault Path
  | .pathExists _ => Except OSFault Bool
  | .isDir _ => Except OSFault Bool

/-- A part of a reader. -/
abbrev FileProgram (α : Type) := Program FileOp FileReply Raised α

/-- The bytes that a source returned. -/
def FileOp.payload : (op : FileOp) → FileReply op → List Bytes
  | .read _ _, .ok payload => [payload]
  | _, _ => []

/-- An operation that reads through no source. -/
def FileOp.Silent : FileOp → Prop
  | .read _ _ => False
  | _ => True

/-- A source that may return anything each time, with all it has returned. -/
def fileMachine : Machine FileOp FileReply (List Bytes) where
  permits _ _ _ := True
  after payloads op reply := payloads ++ op.payload reply

/-- What asks nothing of a source leaves the payloads. -/
theorem along_silent {α : Type} {p : FileProgram α} (silent : p.Only FileOp.Silent)
    (payloads : List Bytes) :
    fileMachine.Along (fun _ _ => True) (fun _ after => after = payloads) p payloads := by
  refine (Machine.along_of_only (fun after => after = payloads) silent rfl ?_).mono
    (fun _ _ _ => trivial) fun _ _ same => same
  rintro _ op reply rfl quiet _
  cases op with
  | read path limit => exact quiet.elim
  | _ => exact List.append_nil _

/-! ### One state of the file system -/

/-- What a file system holds. -/
structure Files where
  contents : Path → Except OSFault Bytes
  lstat : Path → Except Raised FileKind
  resolve : Path → Except OSFault Path
  pathExists : Path → Except OSFault Bool
  isDir : Path → Except OSFault Bool

namespace Files

/-- `read_bounded(path, limit)` -/
def readBounded (files : Files) (path : Path) (limit : ℕ) : Except Raised Bytes :=
  match files.contents path with
  | .ok bytes => .ok (bytes.take (limit + 1))
  | .error fault => .error (.shard .unreadable (Text.format [path.name, " is unreadable: ", fault.name]))

/-- The answer of a file system that nobody changes. -/
def reply (files : Files) : (op : FileOp) → FileReply op
  | .read path limit => files.readBounded path limit
  | .readBytes path => files.contents path
  | .lstat path => files.lstat path
  | .resolve path => files.resolve path
  | .pathExists path => files.pathExists path
  | .isDir path => files.isDir path

/-- A file system of some regular files, without links. -/
def plain (entries : List (Path × Bytes)) : Files where
  contents path := match entries.lookup path with
    | some bytes => .ok bytes
    | none => .error ⟨"FileNotFoundError", "No such file or directory"⟩
  lstat path := match entries.lookup path with
    | some _ => .ok .regular
    | none => .error (.os ⟨"FileNotFoundError", "No such file or directory"⟩)
  resolve path := .ok path
  pathExists _ := .ok true
  isDir path := .ok (entries.lookup path).isNone

end Files

end AxiomMcp.Snapshot
