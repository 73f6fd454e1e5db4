/-
**What is noted along a command.**

A `Discipline` says what of the operations of a process is noted, and what the process keeps to by what it has
noted. Operations that are `Quiet` are not noted and always kept to.

* `Seeing`: a part of a command keeps to a discipline, from what was noted before it;
* `seeing_bind`, `seeing_attempt`, `seeing_refuse`: parts that are quiet, and what goes on after them;
* `Stays`: a property of the notes that a part leaves, however it ends.
-/

import AxiomMcp.Lib.Processes
import AxiomMcp.Gateway.Operations

namespace AxiomMcp.Gateway

open Lib Program Machine

variable {ι V α β : Type}

/-- What is noted, and what is kept to. -/
structure Discipline (ι V : Type) where
  note : V → (op : GatewayOp ι) → GatewayReply op → V
  keeps : V → GatewayOp ι → Prop
  Quiet : GatewayOp ι → Prop
  still : ∀ seen op reply, Quiet op → note seen op reply = seen
  kept : ∀ seen op, Quiet op → keeps seen op

/-- A part of a command keeps to a discipline, and ends in a certain way. -/
abbrev Seeing (D : Discipline ι V) (post : Except GatewayError α → V → Prop) (p : GatewayProgram ι α) (seen : V) :
    Prop :=
  (watcher D.note).Along D.keeps post p seen

/-- What holds of the notes, however a part ends. -/
def Stays (inv : V → Prop) (_ : Except GatewayError α) (seen : V) : Prop := inv seen

variable {D : Discipline ι V} {seen : V} {asks : GatewayOp ι → Prop} {inv : V → Prop}

/-- A part that is not noted. -/
theorem seeing_asks {p : GatewayProgram ι α} (kept : Asks asks p) (quiet : ∀ op, asks op → D.Quiet op) :
    Seeing D (fun outcome seen' => seen' = seen ∧ ∀ raised, outcome = .error raised → NotBusy raised) p seen :=
  along_still kept.only kept.throws (fun op reply asked => D.still seen op reply (quiet op asked))
    fun op asked => D.kept seen op (quiet op asked)

/-- After a part that is not noted, go on. -/
theorem seeing_bind {post : Except GatewayError β → V → Prop} {p : GatewayProgram ι α} {f : α → GatewayProgram ι β}
    (kept : Asks asks p) (quiet : ∀ op, asks op → D.Quiet op) (next : ∀ a, Seeing D post (f a) seen)
    (passes : ∀ raised, NotBusy raised → post (.error raised) seen) : Seeing D post (p >>= f) seen := by
  refine (seeing_asks kept quiet).bind (fun a seen' same => ?_) fun raised seen' same => ?_
  · obtain rfl := same.1
    exact next a
  · obtain rfl := same.1
    exact passes raised (same.2 raised rfl)

/-- One operation that is not noted, and what it raises. -/
theorem seeing_attempt {post : Except GatewayError β → V → Prop} {op : GatewayOp ι}
    {step : GatewayReply op → Except Fault α} {f : α → GatewayProgram ι β} (quiet : D.Quiet op)
    (next : ∀ a, Seeing D post (f a) seen) (passes : ∀ raised, NotBusy raised → post (.error raised) seen) :
    Seeing D post ((.call op fun reply => attempt (step reply)) >>= f) seen :=
  @seeing_bind ι V α β D seen (fun other => other = op) post _ f (asks_call rfl fun _ => asks_attempt _)
    (fun _ same => same ▸ quiet) next passes

theorem seeing_refuse {post : Except GatewayError β → V → Prop} {wrong : Bool} {raised : GatewayError}
    {f : Unit → GatewayProgram ι β} (next : Seeing D post (f ()) seen) (passes : post (.error raised) seen) :
    Seeing D post (refuse wrong raised >>= f) seen := by
  cases wrong with
  | true => exact passes
  | false => exact next

/-- One operation that is not noted. -/
theorem seeing_call {post : Except GatewayError α → V → Prop} {op : GatewayOp ι}
    {next : GatewayReply op → GatewayProgram ι α} (quiet : D.Quiet op)
    (each : ∀ reply, Seeing D post (next reply) seen) : Seeing D post (.call op next) seen := by
  refine along_call (D.kept seen op quiet) fun reply _ => ?_
  show Seeing D post (next reply) (D.note seen op reply)
  rw [D.still seen op reply quiet]
  exact each reply

/-! ### What stays -/

theorem stays_asks {p : GatewayProgram ι α} (kept : Asks asks p) (quiet : ∀ op, asks op → D.Quiet op)
    (holds : inv seen) : Seeing D (Stays inv) p seen :=
  (seeing_asks kept quiet).post fun _ _ same => same.1 ▸ holds

/-- After a part that leaves the property, go on. -/
theorem stays_bind {p : GatewayProgram ι α} {f : α → GatewayProgram ι β} (first : Seeing D (Stays inv) p seen)
    (next : ∀ a seen', inv seen' → Seeing D (Stays inv) (f a) seen') : Seeing D (Stays inv) (p >>= f) seen :=
  first.bind next fun _ _ holds => holds

theorem stays_refuse {wrong : Bool} {raised : GatewayError} {f : Unit → GatewayProgram ι β} (holds : inv seen)
    (next : Seeing D (Stays inv) (f ()) seen) : Seeing D (Stays inv) (refuse wrong raised >>= f) seen :=
  seeing_refuse next holds

theorem stays_attempt {op : GatewayOp ι} {step : GatewayReply op → Except Fault α} {f : α → GatewayProgram ι β}
    (holds : inv seen) (quiet : D.Quiet op) (next : ∀ a, Seeing D (Stays inv) (f a) seen) :
    Seeing D (Stays inv) ((.call op fun reply => attempt (step reply)) >>= f) seen :=
  seeing_attempt quiet next fun _ _ => holds

/-- A printed line that is not noted. -/
theorem stays_print {output : Output} (holds : inv seen) (quiet : D.Quiet (.print output)) :
    Seeing D (Stays inv) (.call (.print output) attempt) seen :=
  seeing_call quiet fun printed => by
    cases printed with
    | ok _ => exact holds
    | error raised => exact holds

end AxiomMcp.Gateway
