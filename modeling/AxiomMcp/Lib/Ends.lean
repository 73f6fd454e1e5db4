/-
**How a program may end on a machine.**

`Ends` relates a program and a state to the outcomes and the states that the replies of a machine can bring it to.

* `ends_resume`: the ends of a part, and of what goes on after it;
* `Along.ends`: what holds along a program holds at every end of it;
* `Ends.keeps`: what no operation of a program changes, the program does not change;
* `play`: one end, from a choice of replies;
* `Stops`: a program that is stopped anywhere; what holds along it holds there (`Along.stops`).
-/

import AxiomMcp.Lib.Program

namespace AxiomMcp.Lib

open Program

namespace Machine

variable {Op : Type} {Reply : Op → Type} {ε ε' α β S : Type} {M : Machine Op Reply S}

/-- A program can come to this end. -/
def Ends (M : Machine Op Reply S) : Program Op Reply ε α → S → Except ε α → S → Prop
  | .done a, s, outcome, s' => outcome = .ok a ∧ s' = s
  | .raise raised, s, outcome, s' => outcome = .error raised ∧ s' = s
  | .call op next, s, outcome, s' =>
    ∃ reply, M.permits s op reply ∧ Ends M (next reply) (M.after s op reply) outcome s'
  | .stuck _, _, _, _ => False

theorem ends_call {op : Op} {next : Reply op → Program Op Reply ε α} {s s' : S} {outcome : Except ε α}
    (reply : Reply op) (permitted : M.permits s op reply)
    (rest : M.Ends (next reply) (M.after s op reply) outcome s') : M.Ends (.call op next) s outcome s' :=
  ⟨reply, permitted, rest⟩

/-- A part comes to an end, and what goes on after it to its own. -/
theorem ends_resume {p : Program Op Reply ε α} {k : Except ε α → Program Op Reply ε' β} {s s'' : S}
    {outcome : Except ε' β} : M.Ends (p.resume k) s outcome s'' ↔
      ∃ ended s', M.Ends p s ended s' ∧ M.Ends (k ended) s' outcome s'' := by
  induction p generalizing s with
  | done a =>
    refine ⟨fun ends => ⟨_, s, ⟨rfl, rfl⟩, ends⟩, ?_⟩
    rintro ⟨_, _, ⟨rfl, rfl⟩, ends⟩
    exact ends
  | raise raised =>
    refine ⟨fun ends => ⟨_, s, ⟨rfl, rfl⟩, ends⟩, ?_⟩
    rintro ⟨_, _, ⟨rfl, rfl⟩, ends⟩
    exact ends
  | stuck op => exact ⟨fun wrong => wrong.elim, fun ⟨_, _, wrong, _⟩ => wrong.elim⟩
  | call op next ih =>
    constructor
    · rintro ⟨reply, permitted, rest⟩
      obtain ⟨ended, s', first, last⟩ := (ih reply).mp rest
      exact ⟨ended, s', ⟨reply, permitted, first⟩, last⟩
    · rintro ⟨ended, s', ⟨reply, permitted, first⟩, last⟩
      exact ⟨reply, permitted, (ih reply).mpr ⟨ended, s', first, last⟩⟩

section Rules

variable {p : Program Op Reply ε α} {s s' s'' : S}

/-- After a return, go on. -/
theorem Ends.bind {f : α → Program Op Reply ε β} {a : α} {outcome : Except ε β} (first : M.Ends p s (.ok a) s')
    (rest : M.Ends (f a) s' outcome s'') : M.Ends (p >>= f) s outcome s'' :=
  ends_resume.mpr ⟨_, s', first, rest⟩

/-- What is raised passes. -/
theorem Ends.raises {f : α → Program Op Reply ε β} {raised : ε} (first : M.Ends p s (.error raised) s') :
    M.Ends (p >>= f) s (.error raised) s' :=
  ends_resume.mpr ⟨_, s', first, rfl, rfl⟩

theorem Ends.returns {handler : ε → Program Op Reply ε α} {a : α} (first : M.Ends p s (.ok a) s') :
    M.Ends (p.rescue handler) s (.ok a) s' :=
  ends_resume.mpr ⟨_, s', first, rfl, rfl⟩

/-- What is raised is handled. -/
theorem Ends.rescue {handler : ε → Program Op Reply ε α} {raised : ε} {outcome : Except ε α}
    (first : M.Ends p s (.error raised) s') (rest : M.Ends (handler raised) s' outcome s'') :
    M.Ends (p.rescue handler) s outcome s'' :=
  ends_resume.mpr ⟨_, s', first, rest⟩

theorem Along.ends {here : S → Op → Prop} {post : Except ε α → S → Prop} {outcome : Except ε α}
    (along : M.Along here post p s) (ends : M.Ends p s outcome s') : post outcome s' := by
  induction p generalizing s with
  | done a =>
    obtain ⟨rfl, rfl⟩ := ends
    exact along
  | raise raised =>
    obtain ⟨rfl, rfl⟩ := ends
    exact along
  | stuck op => exact ends.elim
  | call op next ih =>
    obtain ⟨reply, permitted, rest⟩ := ends
    exact ih reply (along.2 reply permitted) rest

/-- Where a program has ended, it could come to that end. -/
theorem Along.reached {here : S → Op → Prop} {post : Except ε α → S → Prop} (along : M.Along here post p s) :
    M.Along here (fun outcome s' => post outcome s' ∧ M.Ends p s outcome s') p s := by
  induction p generalizing s with
  | done a => exact ⟨along, rfl, rfl⟩
  | raise raised => exact ⟨along, rfl, rfl⟩
  | stuck op => exact along
  | call op next ih =>
    refine ⟨along.1, fun reply permitted => ?_⟩
    exact (ih reply (along.2 reply permitted)).post fun outcome s' ended => ⟨ended.1, reply, permitted, ended.2⟩

/-- What the operations of a program keep is kept at every end. -/
theorem Ends.keeps {allowed : Op → Prop} {γ : Type} {view : S → γ} {outcome : Except ε α}
    (ends : M.Ends p s outcome s') (only : p.Only allowed)
    (kept : ∀ s op reply, allowed op → M.permits s op reply → view (M.after s op reply) = view s) :
    view s' = view s := by
  induction p generalizing s with
  | done a => exact congrArg view ends.2
  | raise raised => exact congrArg view ends.2
  | stuck op => exact ends.elim
  | call op next ih =>
    obtain ⟨reply, permitted, rest⟩ := ends
    exact (ih reply rest (only.2 reply)).trans (kept s op reply only.1 permitted)

theorem ends_ofExcept {first outcome : Except ε α} :
    M.Ends (ofExcept first : Program Op Reply ε α) s outcome s' ↔ outcome = first ∧ s' = s := by
  cases first <;> exact Iff.rfl

/-- What returns after a part: the part returned as well. -/
theorem ends_bind_ok {f : α → Program Op Reply ε β} {b : β} :
    M.Ends (p >>= f) s (.ok b) s'' ↔ ∃ a s', M.Ends p s (.ok a) s' ∧ M.Ends (f a) s' (.ok b) s'' := by
  constructor
  · intro ends
    obtain ⟨ended, s', first, rest⟩ := ends_resume.mp ends
    cases ended with
    | ok a => exact ⟨a, s', first, rest⟩
    | error raised => exact nomatch rest.1
  · rintro ⟨a, s', first, rest⟩
    exact first.bind rest

/-- The end that chosen replies come to. -/
def play (M : Machine Op Reply S) (choice : ∀ (_ : S) op, Reply op) : Program Op Reply ε α → S →
    Option (Except ε α × S)
  | .done a, s => some (.ok a, s)
  | .raise raised, s => some (.error raised, s)
  | .call op next, s => play M choice (next (choice s op)) (M.after s op (choice s op))
  | .stuck _, _ => none

theorem ends_play {choice : ∀ (_ : S) op, Reply op} (permitted : ∀ s op, M.permits s op (choice s op))
    {outcome : Except ε α} (played : M.play choice p s = some (outcome, s')) : M.Ends p s outcome s' := by
  induction p generalizing s with
  | done a =>
    obtain ⟨rfl, rfl⟩ := Prod.mk.inj (Option.some.inj played)
    exact ⟨rfl, rfl⟩
  | raise raised =>
    obtain ⟨rfl, rfl⟩ := Prod.mk.inj (Option.some.inj played)
    exact ⟨rfl, rfl⟩
  | stuck op => cases played
  | call op next ih => exact ⟨_, permitted s op, ih _ played⟩

/-- A program is stopped here: in front of one of its operations, or at its end. -/
def Stops (M : Machine Op Reply S) : Program Op Reply ε α → S → S → Prop
  | .done _, s, s' => s' = s
  | .raise _, s, s' => s' = s
  | .call op next, s, s' => s' = s ∨ ∃ reply, M.permits s op reply ∧ Stops M (next reply) (M.after s op reply) s'
  | .stuck _, s, s' => s' = s

/-- An end is a place to stop. -/
theorem Ends.stops {outcome : Except ε α} (ends : M.Ends p s outcome s') : M.Stops p s s' := by
  induction p generalizing s with
  | done a => exact ends.2
  | raise raised => exact ends.2
  | stuck op => exact ends.elim
  | call op next ih =>
    obtain ⟨reply, permitted, rest⟩ := ends
    exact .inr ⟨reply, permitted, ih reply rest⟩

/-- What holds along a program and at its end holds wherever it is stopped. -/
theorem Along.stops {holds : S → Prop}
    (along : M.Along (fun s _ => holds s) (fun (_ : Except ε α) s => holds s) p s)
    (stops : M.Stops p s s') : holds s' := by
  induction p generalizing s with
  | done a =>
    obtain rfl := stops
    exact along
  | raise raised =>
    obtain rfl := stops
    exact along
  | stuck op =>
    obtain rfl := stops
    exact along
  | call op next ih =>
    rcases stops with rfl | ⟨reply, permitted, rest⟩
    · exact along.1
    · exact ih reply (along.2 reply permitted) rest

end Rules

end Machine

end AxiomMcp.Lib
