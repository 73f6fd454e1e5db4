/-
**Computations that ask their surroundings.**

A `Program` computes until it needs an answer from outside: it then is the operation it asks together with
what it goes on with for each reply. It returns, or it raises. Everything is built from `resume`, which
goes on after either end.

* `run`: a program run against surroundings that may answer by all they were asked before. What was asked
  and answered is kept (`run_resume`, `run_calls`).
* `Along`: what holds at every operation of a program, whatever the replies a machine permits, and at its
  end (`along_resume`, `Along.run`).
* `against`: the outcome of a program against replies that never change;
* `Only`: the operations of a program are all of a kind;
* `embed`: a program as a program over more operations.
-/

import Mathlib.Data.List.Basic
import AxiomMcp.Lib.Fallible

namespace AxiomMcp.Lib

/-- A computation over operations `Op`, each answered by a `Reply`. -/
inductive Program (Op : Type) (Reply : Op → Type) (ε α : Type) : Type
  | done (a : α)
  | raise (raised : ε)
  | call (op : Op) (next : Reply op → Program Op Reply ε α)
  /-- A loop that would go on by asking `op`, but was unrolled no further. -/
  | stuck (op : Op)

variable {Op : Type} {Reply : Op → Type} {ε ε' α β : Type}

namespace Program

/-- Go on with `k` after a program has returned or raised. -/
def resume : Program Op Reply ε α → (Except ε α → Program Op Reply ε' β) → Program Op Reply ε' β
  | .done a, k => k (.ok a)
  | .raise raised, k => k (.error raised)
  | .call op next, k => .call op fun reply => (next reply).resume k
  | .stuck op, _ => .stuck op

/-- What `k` goes on with after a return; an exception passes. -/
def andThen (f : α → Program Op Reply ε β) : Except ε α → Program Op Reply ε β
  | .ok a => f a
  | .error raised => .raise raised

instance : Monad (Program Op Reply ε) where
  pure := .done
  bind p f := p.resume (andThen f)

/-- The program that ends with an outcome. -/
def ofExcept : Except ε α → Program Op Reply ε α
  | .ok a => .done a
  | .error raised => .raise raised

/-- Ask one operation. -/
def ask (op : Op) : Program Op Reply ε (Reply op) := .call op .done

/-- `try: p except ...: handler` -/
def rescue (p : Program Op Reply ε α) (handler : ε → Program Op Reply ε α) : Program Op Reply ε α :=
  p.resume fun outcome =>
    match outcome with
    | .ok a => .done a
    | .error raised => handler raised

/-- `try: p finally: last` -/
def ensure (p : Program Op Reply ε α) (last : Program Op Reply ε Unit) : Program Op Reply ε α :=
  p.resume fun outcome => last >>= fun _ => ofExcept outcome

/-- The outcome of a program as a value. -/
def outcome (p : Program Op Reply ε α) : Program Op Reply ε' (Except ε α) := p.resume .done

theorem bind_def (p : Program Op Reply ε α) (f : α → Program Op Reply ε β) :
    p >>= f = p.resume (andThen f) := rfl

@[simp] theorem pure_bind (a : α) (f : α → Program Op Reply ε β) :
    (pure a : Program Op Reply ε α) >>= f = f a := rfl

@[simp] theorem done_bind (a : α) (f : α → Program Op Reply ε β) :
    (.done a : Program Op Reply ε α) >>= f = f a := rfl

@[simp] theorem raise_bind (raised : ε) (f : α → Program Op Reply ε β) :
    (.raise raised : Program Op Reply ε α) >>= f = .raise raised := rfl

@[simp] theorem ask_bind (op : Op) (f : Reply op → Program Op Reply ε β) :
    (ask op : Program Op Reply ε (Reply op)) >>= f = .call op f := rfl

/-- The operation a program stands at. -/
def pending : Program Op Reply ε α → Option Op
  | .done _ => none
  | .raise _ => none
  | .call op _ => some op
  | .stuck op => some op

/-- The outcome against replies that never change, unless the program gets stuck. -/
def against (reply : ∀ op, Reply op) : Program Op Reply ε α → Option (Except ε α)
  | .done a => some (.ok a)
  | .raise raised => some (.error raised)
  | .call op next => (next (reply op)).against reply
  | .stuck _ => none

/-- The operations of a program answered by other ones. -/
def embed {Op' : Type} {Reply' : Op' → Type} (into : Op → Op')
    (answer : ∀ op, Reply' (into op) → Reply op) :
    Program Op Reply ε α → Program Op' Reply' ε α
  | .done a => .done a
  | .raise raised => .raise raised
  | .call op next => .call (into op) fun reply => (next (answer op reply)).embed into answer
  | .stuck op => .stuck (into op)

/-! ### The operations of a program -/

/-- A program asks allowed operations only, whatever it is replied. -/
def Only (allowed : Op → Prop) : Program Op Reply ε α → Prop
  | .done _ => True
  | .raise _ => True
  | .call op next => allowed op ∧ ∀ reply, Only allowed (next reply)
  | .stuck op => allowed op

section Only

variable {allowed : Op → Prop}

theorem Only.resume {p : Program Op Reply ε α} {k : Except ε α → Program Op Reply ε' β}
    (first : p.Only allowed) (next : ∀ outcome, (k outcome).Only allowed) : (p.resume k).Only allowed := by
  induction p with
  | done a => exact next _
  | raise raised => exact next _
  | stuck op => exact first
  | call op _ ih => exact ⟨first.1, fun reply => ih reply (first.2 reply)⟩

theorem Only.mono {allowed' : Op → Prop} {p : Program Op Reply ε α} (only : p.Only allowed)
    (weaker : ∀ op, allowed op → allowed' op) : p.Only allowed' := by
  induction p with
  | done a => exact trivial
  | raise raised => exact trivial
  | stuck op => exact weaker op only
  | call op _ ih => exact ⟨weaker op only.1, fun reply => ih reply (only.2 reply)⟩

theorem Only.bind {p : Program Op Reply ε α} {f : α → Program Op Reply ε β} (first : p.Only allowed)
    (next : ∀ a, (f a).Only allowed) : (p >>= f).Only allowed := by
  refine first.resume fun outcome => ?_
  cases outcome with
  | ok a => exact next a
  | error raised => exact trivial

theorem Only.rescue {p : Program Op Reply ε α} {handler : ε → Program Op Reply ε α}
    (first : p.Only allowed) (handled : ∀ raised, (handler raised).Only allowed) :
    (p.rescue handler).Only allowed := by
  refine first.resume fun outcome => ?_
  cases outcome with
  | ok a => exact trivial
  | error raised => exact handled raised

theorem Only.ensure {p : Program Op Reply ε α} {last : Program Op Reply ε Unit} (first : p.Only allowed)
    (ends : last.Only allowed) : (p.ensure last).Only allowed :=
  first.resume fun outcome => ends.bind fun _ => by cases outcome <;> exact trivial

/-- An embedded program asks embedded operations. -/
theorem only_embed {Op' : Type} {Reply' : Op' → Type} {into : Op → Op'}
    {answer : ∀ op, Reply' (into op) → Reply op} (p : Program Op Reply ε α) {allowed : Op' → Prop}
    (each : ∀ op, allowed (into op)) : (p.embed into answer).Only allowed := by
  induction p with
  | done a => exact trivial
  | raise raised => exact trivial
  | stuck op => exact each op
  | call op _ ih => exact ⟨each op, fun reply => ih _⟩

theorem only_ofExcept (outcome : Except ε α) :
    (ofExcept outcome : Program Op Reply ε α).Only allowed := by
  cases outcome <;> exact trivial

end Only

/-! ### Fixed replies -/

section Against

variable {reply : ∀ op, Reply op}

theorem against_resume (p : Program Op Reply ε α) (k : Except ε α → Program Op Reply ε' β) :
    (p.resume k).against reply = (p.against reply).bind fun outcome => (k outcome).against reply := by
  induction p with
  | done a => rfl
  | raise raised => rfl
  | stuck op => rfl
  | call op next ih => exact ih _

/-- What a program goes on with after one that ends. -/
theorem against_bind {p : Program Op Reply ε α} {outcome : Except ε α}
    (ended : p.against reply = some outcome) (f : α → Program Op Reply ε β) :
    (p >>= f).against reply = (andThen f outcome).against reply := by
  rw [bind_def, against_resume, ended]
  rfl

theorem against_ofExcept (outcome : Except ε α) :
    (ofExcept outcome : Program Op Reply ε α).against reply = some outcome := by
  cases outcome with
  | ok a => rfl
  | error raised => rfl

end Against

end Program

/-! ### Machines -/

/-- What operations do to a state: the replies it permits, and the state after one of them. -/
structure Machine (Op : Type) (Reply : Op → Type) (S : Type) where
  permits : S → (op : Op) → Reply op → Prop
  after : S → (op : Op) → Reply op → S

/-- An operation with the reply it was given. -/
structure Call (Op : Type) (Reply : Op → Type) where
  op : Op
  reply : Reply op

namespace Machine

variable {S : Type} (M : Machine Op Reply S)

/-- The machine that permits what satisfies `also` as well. -/
def restrict (also : S → (op : Op) → Reply op → Prop) : Machine Op Reply S where
  permits s op reply := M.permits s op reply ∧ also s op reply
  after := M.after

/-- At every operation of a program `here` holds, and at its end `post` does, whatever is replied. -/
def Along (here : S → Op → Prop) (post : Except ε α → S → Prop) : Program Op Reply ε α → S → Prop
  | .done a, s => post (.ok a) s
  | .raise raised, s => post (.error raised) s
  | .call op next, s =>
    here s op ∧ ∀ reply, M.permits s op reply → Along here post (next reply) (M.after s op reply)
  | .stuck op, s => here s op

/-- Run a program against surroundings that answer by what they were asked before and the state. -/
def run (answer : List (Call Op Reply) → S → (op : Op) → Reply op) :
    Program Op Reply ε α → List (Call Op Reply) → S →
      Option (Except ε α × List (Call Op Reply) × S)
  | .done a, calls, s => some (.ok a, calls, s)
  | .raise raised, calls, s => some (.error raised, calls, s)
  | .call op next, calls, s =>
    run answer (next (answer calls s op)) (calls ++ [⟨op, answer calls s op⟩])
      (M.after s op (answer calls s op))
  | .stuck _, _, _ => none

variable {M} {here : S → Op → Prop} {answer : List (Call Op Reply) → S → (op : Op) → Reply op}

/-! ### Along a program -/

theorem along_call {post : Except ε α → S → Prop} {op : Op} {next : Reply op → Program Op Reply ε α} {s : S}
    (holds : here s op)
    (each : ∀ reply, M.permits s op reply → M.Along here post (next reply) (M.after s op reply)) :
    M.Along here post (.call op next) s :=
  ⟨holds, each⟩

theorem along_resume {post : Except ε' β → S → Prop} (p : Program Op Reply ε α)
    (k : Except ε α → Program Op Reply ε' β) (s : S) :
    M.Along here post (p.resume k) s ↔
      M.Along here (fun outcome s' => M.Along here post (k outcome) s') p s := by
  induction p generalizing s with
  | done a => exact Iff.rfl
  | raise raised => exact Iff.rfl
  | stuck op => exact Iff.rfl
  | call op next ih =>
    show _ ∧ _ ↔ _ ∧ _
    refine and_congr_right fun _ => forall₂_congr fun reply _ => ?_
    exact ih reply _

theorem Along.mono {here' : S → Op → Prop} {post post' : Except ε α → S → Prop}
    {p : Program Op Reply ε α} {s : S} (along : M.Along here post p s)
    (weaker : ∀ s op, here s op → here' s op) (ends : ∀ outcome s, post outcome s → post' outcome s) :
    M.Along here' post' p s := by
  induction p generalizing s with
  | done a => exact ends _ _ along
  | raise raised => exact ends _ _ along
  | stuck op => exact weaker _ _ along
  | call op next ih =>
    exact ⟨weaker _ _ along.1, fun reply permitted => ih reply (along.2 reply permitted)⟩

theorem Along.post {post post' : Except ε α → S → Prop} {p : Program Op Reply ε α} {s : S}
    (along : M.Along here post p s) (ends : ∀ outcome s, post outcome s → post' outcome s) :
    M.Along here post' p s :=
  along.mono (fun _ _ holds => holds) ends

/-- What holds where a program stands. -/
theorem Along.pending {post : Except ε α → S → Prop} {p : Program Op Reply ε α} {s : S} {op : Op}
    (along : M.Along here post p s) (stands : p.pending = some op) : here s op := by
  cases p with
  | done a => cases stands
  | raise raised => cases stands
  | call other next =>
    obtain rfl := Option.some.inj stands
    exact along.1
  | stuck other =>
    obtain rfl := Option.some.inj stands
    exact along

/-- A program either stands at an operation, or has come to its end. -/
theorem Along.state {post : Except ε α → S → Prop} {p : Program Op Reply ε α} {s : S} {holds : S → Prop}
    (along : M.Along here post p s) (inside : ∀ op, here s op → holds s)
    (ends : ∀ outcome, post outcome s → holds s) : holds s := by
  cases p with
  | done a => exact ends _ along
  | raise raised => exact ends _ along
  | call op next => exact inside op along.1
  | stuck op => exact inside op along

/-- What all operations of a program keep holds along it. -/
theorem along_of_only (inv : S → Prop) {allowed : Op → Prop} {p : Program Op Reply ε α} {s : S}
    (only : p.Only allowed) (holds : inv s)
    (kept : ∀ s op reply, inv s → allowed op → M.permits s op reply → inv (M.after s op reply)) :
    M.Along (fun s op => inv s ∧ allowed op) (fun _ s => inv s) p s := by
  induction p generalizing s with
  | done a => exact holds
  | raise raised => exact holds
  | stuck op => exact ⟨holds, only⟩
  | call op next ih =>
    exact ⟨⟨holds, only.1⟩, fun reply permitted =>
      ih reply (only.2 reply) (kept s op reply holds only.1 permitted)⟩

section Rules

variable {post : Except ε α → S → Prop} {s : S}

/-- After `p` ended, go on. -/
theorem Along.resume {p : Program Op Reply ε' β} {k : Except ε' β → Program Op Reply ε α}
    {mid : Except ε' β → S → Prop} (first : M.Along here mid p s)
    (next : ∀ outcome s', mid outcome s' → M.Along here post (k outcome) s') :
    M.Along here post (p.resume k) s :=
  (along_resume p k s).mpr (first.post next)

/-- After `p` returned, go on; what `p` raises passes. -/
theorem Along.bind {p : Program Op Reply ε β} {f : β → Program Op Reply ε α}
    {mid : Except ε β → S → Prop} (first : M.Along here mid p s)
    (next : ∀ b s', mid (.ok b) s' → M.Along here post (f b) s')
    (passes : ∀ raised s', mid (.error raised) s' → post (.error raised) s') :
    M.Along here post (p >>= f) s := by
  refine first.resume fun outcome s' holds => ?_
  cases outcome with
  | ok b => exact next b s' holds
  | error raised => exact passes raised s' holds

theorem Along.rescue {p : Program Op Reply ε α} {handler : ε → Program Op Reply ε α}
    {mid : Except ε α → S → Prop} (first : M.Along here mid p s)
    (returns : ∀ a s', mid (.ok a) s' → post (.ok a) s')
    (handled : ∀ raised s', mid (.error raised) s' → M.Along here post (handler raised) s') :
    M.Along here post (p.rescue handler) s := by
  refine first.resume fun outcome s' holds => ?_
  cases outcome with
  | ok a => exact returns a s' holds
  | error raised => exact handled raised s' holds

theorem along_ofExcept {outcome : Except ε α} (holds : post outcome s) :
    M.Along here post (Program.ofExcept outcome : Program Op Reply ε α) s := by
  cases outcome with
  | ok a => exact holds
  | error raised => exact holds

/-- A step that asks nothing. -/
theorem along_ofExcept_bind {outcome : Except ε β} {f : β → Program Op Reply ε α}
    (next : ∀ b, outcome = .ok b → M.Along here post (f b) s)
    (passes : ∀ raised, outcome = .error raised → post (.error raised) s) :
    M.Along here post (Program.ofExcept outcome >>= f) s := by
  cases outcome with
  | ok b => exact next b rfl
  | error raised => exact passes raised rfl

theorem Along.ensure {p : Program Op Reply ε α} {last : Program Op Reply ε Unit}
    {mid : Except ε α → S → Prop} (first : M.Along here mid p s)
    (ends : ∀ outcome s', mid outcome s' →
      M.Along here (fun closing s'' =>
        match closing with
        | .ok _ => post outcome s''
        | .error raised => post (.error raised) s'') last s') :
    M.Along here post (p.ensure last) s := by
  refine first.resume fun outcome s' holds => ?_
  exact (ends outcome s' holds).bind (fun _ s'' after => along_ofExcept after) fun raised s'' after => after

end Rules

/-- A machine as a part of a larger one, of whose state it sees `view`. -/
structure Part {Op' S' : Type} {Reply' : Op' → Type} (M : Machine Op Reply S) (M' : Machine Op' Reply' S')
    (view : S' → S) (into : Op → Op') (answer : ∀ op, Reply' (into op) → Reply op) : Prop where
  permits : ∀ s' op reply, M'.permits s' (into op) reply → M.permits (view s') op (answer op reply)
  after : ∀ s' op reply, view (M'.after s' (into op) reply) = M.after (view s') op (answer op reply)

/-- What holds along a program on a part of the state holds along it on the whole, with a `frame` that its
operations leave alone. -/
theorem Along.embed {Op' S' : Type} {Reply' : Op' → Type} {M' : Machine Op' Reply' S'} {view : S' → S}
    {into : Op → Op'} {answer : ∀ op, Reply' (into op) → Reply op} (part : Part M M' view into answer)
    (frame : S' → Prop) {here' : S' → Op' → Prop}
    (kept : ∀ s' op reply, frame s' → here (view s') op → M'.permits s' (into op) reply →
      frame (M'.after s' (into op) reply))
    (there : ∀ s' op, frame s' → here (view s') op → here' s' (into op))
    {post : Except ε α → S → Prop} {p : Program Op Reply ε α} {s' : S'} (framed : frame s')
    (along : M.Along here post p (view s')) :
    M'.Along here' (fun outcome s' => post outcome (view s') ∧ frame s') (p.embed into answer) s' := by
  induction p generalizing s' with
  | done a => exact ⟨along, framed⟩
  | raise raised => exact ⟨along, framed⟩
  | stuck op => exact there _ _ framed along
  | call op next ih =>
    refine ⟨there _ _ framed along.1, fun reply permitted => ?_⟩
    refine ih _ (kept _ _ _ framed along.1 permitted) ?_
    rw [part.after]
    exact along.2 _ (part.permits _ _ _ permitted)

/-! ### Runs -/

theorem run_resume (p : Program Op Reply ε α) (k : Except ε α → Program Op Reply ε' β)
    (calls : List (Call Op Reply)) (s : S) :
    M.run answer (p.resume k) calls s =
      (M.run answer p calls s).bind fun ended => M.run answer (k ended.1) ended.2.1 ended.2.2 := by
  induction p generalizing calls s with
  | done a => rfl
  | raise raised => rfl
  | stuck op => rfl
  | call op next ih => exact ih _ _ _

/-- The calls made so far are kept. -/
theorem run_calls {p : Program Op Reply ε α} {calls : List (Call Op Reply)} {s : S}
    {ended : Except ε α × List (Call Op Reply) × S} (ran : M.run answer p calls s = some ended) :
    ∃ made, ended.2.1 = calls ++ made := by
  induction p generalizing calls s with
  | done a => cases ran; exact ⟨[], (List.append_nil _).symm⟩
  | raise raised => cases ran; exact ⟨[], (List.append_nil _).symm⟩
  | stuck op => cases ran
  | call op next ih =>
    obtain ⟨made, same⟩ := ih _ ran
    refine ⟨⟨op, answer calls s op⟩ :: made, ?_⟩
    rw [same, List.append_assoc]
    rfl

/-- A run whose answers the machine permits ends as every permitted end does. -/
theorem Along.run {post : Except ε α → S → Prop} {p : Program Op Reply ε α}
    {calls : List (Call Op Reply)} {s : S} {outcome : Except ε α} {made : List (Call Op Reply)} {s' : S}
    (along : M.Along here post p s) (ran : M.run answer p calls s = some (outcome, made, s'))
    {sound : Call Op Reply → Prop} (kept : ∀ call ∈ made, sound call)
    (legal : ∀ calls s op, sound ⟨op, answer calls s op⟩ → M.permits s op (answer calls s op)) :
    post outcome s' := by
  induction p generalizing calls s with
  | done a => cases ran; exact along
  | raise raised => cases ran; exact along
  | stuck op => cases ran
  | call op next ih =>
    obtain ⟨later, same⟩ := run_calls (p := next (answer calls s op)) ran
    have here : (⟨op, answer calls s op⟩ : Call Op Reply) ∈ made := by
      have split : made = (calls ++ [⟨op, answer calls s op⟩]) ++ later := same
      rw [split]
      exact List.mem_append_left _ (List.mem_append_right _ List.mem_cons_self)
    exact ih _ (along.2 _ (legal _ _ _ (kept _ here))) ran

end Machine

end AxiomMcp.Lib
