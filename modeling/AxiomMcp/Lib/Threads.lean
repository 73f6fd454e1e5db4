/-
**Threads over a shared state.**

A `Config` is a state and what each of its threads has left to do. A `Step` answers the pending operation
of one thread, in one go, or lets a thread that has ended begin again; `Reachable` is any number of steps
in any order.

* `Reachable.invariant`: what holds first and survives every step holds of every reachable configuration;
* `Reachable.coupled`: threads that see a part of the state each, which the others leave alone, while an
  invariant ties the parts together. What holds along every program that a thread may run, on the thread's
  own part, holds in every interleaving;
* `play_reachable`: a schedule that is played out, for runs on fixed inputs.
-/

import Mathlib.Logic.Relation
import Mathlib.Logic.Function.Basic
import AxiomMcp.Lib.Program

namespace AxiomMcp.Lib

variable {ι Op : Type} {Reply : Op → Type} {ε α S V : Type} [DecidableEq ι]

/-- A program with nothing left to do. -/
def Program.Ended : Program Op Reply ε α → Prop
  | .done _ | .raise _ => True
  | _ => False

/-- A shared state and the programs of its threads. -/
structure Config (ι Op : Type) (Reply : Op → Type) (ε α S : Type) where
  shared : S
  threads : ι → Program Op Reply ε α

namespace Config

/-- One step of one thread. -/
inductive Step (M : ι → Machine Op Reply S) (begins : ι → Program Op Reply ε α → Prop) :
    Config ι Op Reply ε α S → Config ι Op Reply ε α S → Prop
  /-- The operation a thread asks is answered. -/
  | act {c : Config ι Op Reply ε α S} (i : ι) {op : Op} {next : Reply op → Program Op Reply ε α}
      (pending : c.threads i = .call op next) (reply : Reply op)
      (permitted : (M i).permits c.shared op reply) :
      Step M begins c ⟨(M i).after c.shared op reply, Function.update c.threads i (next reply)⟩
  /-- A thread that has ended begins a program. -/
  | start {c : Config ι Op Reply ε α S} (i : ι) {p : Program Op Reply ε α}
      (ended : (c.threads i).Ended) (starts : begins i p) :
      Step M begins c ⟨c.shared, Function.update c.threads i p⟩

/-- Any number of steps, in any order. -/
abbrev Reachable (M : ι → Machine Op Reply S) (begins : ι → Program Op Reply ε α → Prop) :
    Config ι Op Reply ε α S → Config ι Op Reply ε α S → Prop :=
  Relation.ReflTransGen (Step M begins)

variable {M : ι → Machine Op Reply S} {begins : ι → Program Op Reply ε α → Prop}
  {start c : Config ι Op Reply ε α S}

theorem Reachable.invariant {inv : Config ι Op Reply ε α S → Prop} (reachable : Reachable M begins start c)
    (first : inv start) (kept : ∀ c c', inv c → Step M begins c c' → inv c') : inv c := by
  induction reachable with
  | refl => exact first
  | tail _ step ih => exact kept _ _ ih step

/-- Every thread's program keeps to `here` and `post` on the thread's own part. -/
def AllAlong (L : ι → Machine Op Reply V) (view : ι → S → V) (here : ι → V → Op → Prop)
    (post : ι → Except ε α → V → Prop) (c : Config ι Op Reply ε α S) : Prop :=
  ∀ i, (L i).Along (here i) (post i) (c.threads i) (view i c.shared)

/-- Threads on parts of the state: each moves its own part by its own machine, and no other. An invariant
ties the parts together, as long as every thread keeps to `here`. -/
structure Coupled (M : ι → Machine Op Reply S) (L : ι → Machine Op Reply V) (view : ι → S → V)
    (here : ι → V → Op → Prop) (inv : S → Prop) : Prop where
  permits : ∀ i s op reply, inv s → here i (view i s) op → (M i).permits s op reply →
    (L i).permits (view i s) op reply
  own : ∀ i s op reply, view i ((M i).after s op reply) = (L i).after (view i s) op reply
  others : ∀ i j s op reply, i ≠ j → view i ((M j).after s op reply) = view i s
  kept : ∀ i s op reply, inv s → here i (view i s) op → (M i).permits s op reply →
    inv ((M i).after s op reply)

section Along

variable {L : ι → Machine Op Reply V} {view : ι → S → V} {here : ι → V → Op → Prop}
  {post : ι → Except ε α → V → Prop} {inv : S → Prop}

/-- One step of one thread. -/
theorem Step.coupled (coupled : Coupled M L view here inv)
    (again : ∀ i p v outcome, begins i p → post i outcome v → (L i).Along (here i) (post i) p v)
    {c c' : Config ι Op Reply ε α S} (holds : inv c.shared) (all : AllAlong L view here post c)
    (step : Step M begins c c') : inv c'.shared ∧ AllAlong L view here post c' := by
  cases step with
  | act j pending reply permitted =>
    have along := all j
    rw [pending] at along
    refine ⟨coupled.kept j _ _ reply holds along.1 permitted, fun i => ?_⟩
    by_cases same : i = j
    · subst same
      show (L i).Along _ _ (Function.update c.threads i _ i) (view i _)
      rw [Function.update_self, coupled.own]
      exact along.2 reply (coupled.permits _ _ _ _ holds along.1 permitted)
    · show (L i).Along _ _ (Function.update c.threads j _ i) (view i _)
      rw [Function.update_of_ne same, coupled.others i j _ _ _ same]
      exact all i
  | start j ended starts =>
    refine ⟨holds, fun i => ?_⟩
    have along := all i
    by_cases same : i = j
    · subst same
      show (L i).Along _ _ (Function.update c.threads i _ i) (view i _)
      rw [Function.update_self]
      cases left : c.threads i with
      | done a =>
        rw [left] at along
        exact again i _ _ _ starts along
      | raise raised =>
        rw [left] at along
        exact again i _ _ _ starts along
      | call op next => rw [left] at ended; exact ended.elim
      | stuck op => rw [left] at ended; exact ended.elim
    · show (L i).Along _ _ (Function.update c.threads j _ i) (view i _)
      rw [Function.update_of_ne same]
      exact along

/-- What holds along every program of a thread on its own part holds in every interleaving, and so does
the invariant. -/
theorem Reachable.coupled (coupled : Coupled M L view here inv)
    (again : ∀ i p v outcome, begins i p → post i outcome v → (L i).Along (here i) (post i) p v)
    (reachable : Reachable M begins start c) (holds : inv start.shared)
    (first : AllAlong L view here post start) : inv c.shared ∧ AllAlong L view here post c :=
  reachable.invariant ⟨holds, first⟩ fun _ _ both step => step.coupled coupled again both.1 both.2

/-- Threads on parts of the state that need no invariant. -/
structure Parted (M : ι → Machine Op Reply S) (L : ι → Machine Op Reply V) (view : ι → S → V) : Prop where
  permits : ∀ i s op reply, (M i).permits s op reply → (L i).permits (view i s) op reply
  own : ∀ i s op reply, view i ((M i).after s op reply) = (L i).after (view i s) op reply
  others : ∀ i j s op reply, i ≠ j → view i ((M j).after s op reply) = view i s

omit [DecidableEq ι] in
theorem Parted.coupled (parted : Parted M L view) : Coupled M L view here fun _ => True where
  permits i s op reply _ _ permitted := parted.permits i s op reply permitted
  own := parted.own
  others := parted.others
  kept _ _ _ _ _ _ _ := trivial

/-- What holds along every program of a thread on its own part holds in every interleaving. -/
theorem Reachable.along (parted : Parted M L view)
    (again : ∀ i p v outcome, begins i p → post i outcome v → (L i).Along (here i) (post i) p v)
    (reachable : Reachable M begins start c) (first : AllAlong L view here post start) :
    AllAlong L view here post c :=
  (Reachable.coupled parted.coupled again reachable trivial first).2

end Along

/-! ### A schedule played out -/

/-- The named threads take a step each, one after another. A thread whose operation `answer` declines goes
on waiting. -/
def play (M : ι → Machine Op Reply S) (answer : ι → S → (op : Op) → Option (Reply op)) :
    List ι → Config ι Op Reply ε α S → Config ι Op Reply ε α S
  | [], c => c
  | i :: rest, c =>
    match c.threads i with
    | .call op next =>
      match answer i c.shared op with
      | some reply =>
        play M answer rest ⟨(M i).after c.shared op reply, Function.update c.threads i (next reply)⟩
      | none => play M answer rest c
    | _ => play M answer rest c

theorem play_reachable {answer : ι → S → (op : Op) → Option (Reply op)}
    (legal : ∀ i s op reply, answer i s op = some reply → (M i).permits s op reply) (schedule : List ι)
    (c : Config ι Op Reply ε α S) : Reachable M begins c (play M answer schedule c) := by
  induction schedule generalizing c with
  | nil => exact .refl
  | cons i rest ih =>
    unfold play
    split
    · rename_i op next pending
      split
      · rename_i reply answered
        exact .head (.act i pending reply (legal _ _ _ _ answered)) (ih _)
      · exact ih c
    · exact ih c

end Config

end AxiomMcp.Lib
