/-
**Programs that come to an end.**

`Completes` is `Along` without an unrolled loop that goes on: whatever a machine permits, the
program reaches its end, with `here` at each of its operations and `post` at the end.

* `Completes.resume`, `Completes.bind`: the rules for a sequence.
-/

import AxiomMcp.Lib.Program

namespace AxiomMcp.Lib

variable {Op : Type} {Reply : Op → Type} {ε ε' α β S : Type}

namespace Machine

/-- At every operation of a program `here` holds, it comes to an end, and there `post` holds,
whatever is replied. -/
def Completes (M : Machine Op Reply S) (here : S → Op → Prop) (post : Except ε α → S → Prop) :
    Program Op Reply ε α → S → Prop
  | .done a, s => post (.ok a) s
  | .raise raised, s => post (.error raised) s
  | .call op next, s =>
    here s op ∧ ∀ reply, M.permits s op reply → Completes M here post (next reply) (M.after s op reply)
  | .stuck _, _ => False

variable {M : Machine Op Reply S} {here : S → Op → Prop} {s : S}

theorem completes_call {post : Except ε α → S → Prop} {op : Op} {next : Reply op → Program Op Reply ε α}
    (holds : here s op)
    (each : ∀ reply, M.permits s op reply → M.Completes here post (next reply) (M.after s op reply)) :
    M.Completes here post (.call op next) s :=
  ⟨holds, each⟩

/-- After `p` ended, go on. -/
theorem Completes.resume {post : Except ε α → S → Prop} {p : Program Op Reply ε' β}
    {k : Except ε' β → Program Op Reply ε α} {mid : Except ε' β → S → Prop}
    (first : M.Completes here mid p s)
    (next : ∀ outcome s', mid outcome s' → M.Completes here post (k outcome) s') :
    M.Completes here post (p.resume k) s := by
  induction p generalizing s with
  | done a => exact next _ _ first
  | raise raised => exact next _ _ first
  | stuck op => exact first.elim
  | call op _ ih => exact ⟨first.1, fun reply permitted => ih reply (first.2 reply permitted)⟩

/-- After `p` returned, go on; what `p` raises passes. -/
theorem Completes.bind {post : Except ε α → S → Prop} {p : Program Op Reply ε β}
    {f : β → Program Op Reply ε α} {mid : Except ε β → S → Prop} (first : M.Completes here mid p s)
    (next : ∀ b s', mid (.ok b) s' → M.Completes here post (f b) s')
    (passes : ∀ raised s', mid (.error raised) s' → post (.error raised) s') :
    M.Completes here post (p >>= f) s := by
  refine first.resume fun outcome s' holds => ?_
  cases outcome with
  | ok b => exact next b s' holds
  | error raised => exact passes raised s' holds

end Machine

end AxiomMcp.Lib
