/-
**Processes that may be killed, and the history of what they did.**

Every process runs one program over a shared state. It may be killed wherever it asks something
(`Program.mortal`); the operating system then cleans up after it. What was asked and answered is recorded, with
the state it was asked in (`Moment`).

* `watched`: what a process has seen and done so far, by its own part of the history;
* `Recorded.lawful`: what holds along every program on what the process has seen, and a property of state and
  history that every operation keeps, hold at every moment of every interleaving;
* `watched_since`: a note that is made by one operation only was made at some moment, and nothing has taken it
  back since.
-/

import Mathlib.Data.List.Induction
import AxiomMcp.Lib.Threads
import AxiomMcp.Lib.Traces

namespace AxiomMcp.Lib

open Program Machine

variable {ι Op : Type} {Reply : Op → Type} {ε α S V : Type}

/-! ### Being killed -/

/-- The program of a process that may be killed at every operation. -/
def Program.mortal (killed : ε) : Program Op Reply ε α → Program Op (fun op => Option (Reply op)) ε α
  | .done a => .done a
  | .raise raised => .raise raised
  | .call op next => .call op fun reply =>
    match reply with
    | some reply => (next reply).mortal killed
    | none => .raise killed
  | .stuck op => .stuck op

/-- A machine with processes that are killed, and what is left of the state then. -/
def Machine.mortal (M : Machine Op Reply S) (kill : S → S) : Machine Op (fun op => Option (Reply op)) S where
  permits s op reply :=
    match reply with
    | some reply => M.permits s op reply
    | none => True
  after s op reply :=
    match reply with
    | some reply => M.after s op reply
    | none => kill s

/-- A machine that only takes notes. -/
def watcher (note : V → (op : Op) → Reply op → V) : Machine Op Reply V where
  permits _ _ _ := True
  after := note

/-- What holds along a program holds along it until it is killed. -/
theorem along_mortal {M : Machine Op Reply S} {kill : S → S} {here : S → Op → Prop}
    {post : Except ε α → S → Prop} {killed : ε} {p : Program Op Reply ε α} {s : S}
    (along : M.Along here post p s) (dies : ∀ s op, here s op → post (.error killed) (kill s)) :
    (M.mortal kill).Along here post (p.mortal killed) s := by
  induction p generalizing s with
  | done a => exact along
  | raise raised => exact along
  | stuck op => exact along
  | call op next ih =>
    unfold Program.mortal
    refine along_call along.1 fun reply permitted => ?_
    cases reply with
    | none => exact dies _ _ along.1
    | some reply => exact ih reply (along.2 reply permitted)

/-- A part of a program that is not noted: what was seen stays, and only allowed errors are raised. -/
theorem along_still {note : V → (op : Op) → Reply op → V} {here : V → Op → Prop} {seen : V} {asks : Op → Prop}
    {raises : ε → Prop} {p : Program Op Reply ε α} (only : p.Only asks) (throws : p.Throws raises)
    (still : ∀ op reply, asks op → note seen op reply = seen) (holds : ∀ op, asks op → here seen op) :
    (watcher note).Along here
      (fun outcome seen' => seen' = seen ∧ ∀ raised, outcome = .error raised → raises raised) p seen := by
  induction p with
  | done a => exact ⟨rfl, fun raised wrong => nomatch wrong⟩
  | raise raised => exact ⟨rfl, fun other same => Except.error.inj same ▸ throws⟩
  | stuck op => exact holds op only
  | call op next ih =>
    refine along_call (holds op only.1) fun reply _ => ?_
    show (watcher note).Along here _ (next reply) (note seen op reply)
    rw [still op reply only.1]
    exact ih reply (only.2 reply) (throws reply)

/-! ### Histories -/

/-- A process asks an operation in some state. Without a reply it is killed there. -/
structure Moment (ι Op : Type) (Reply : Op → Type) (S : Type) where
  before : S
  who : ι
  call : Call Op fun op => Option (Reply op)

variable [DecidableEq ι]

/-- What a process does to the state and to the history. -/
def recorded (M : ι → Machine Op Reply S) (kill : ι → S → S) (i : ι) :
    Machine Op (fun op => Option (Reply op)) (S × List (Moment ι Op Reply S)) where
  permits s op reply := ((M i).mortal (kill i)).permits s.1 op reply
  after s op reply := (((M i).mortal (kill i)).after s.1 op reply, s.2 ++ [⟨s.1, i, ⟨op, reply⟩⟩])

/-- The notes on one more moment. -/
def noted (note : V → (op : Op) → Reply op → V) (i : ι) (seen : V) (moment : Moment ι Op Reply S) : V :=
  if moment.who = i then
    match moment.call with
    | ⟨op, some reply⟩ => note seen op reply
    | ⟨_, none⟩ => seen
  else seen

/-- What a process has seen and done so far. -/
def watched (note : V → (op : Op) → Reply op → V) (first : V) (i : ι) (history : List (Moment ι Op Reply S)) : V :=
  history.foldl (noted note i) first

/-- Processes that have each a program to run, with nothing done so far. -/
abbrev Processes (ι Op : Type) (Reply : Op → Type) (ε α S : Type) :=
  Config ι Op (fun op => Option (Reply op)) ε α (S × List (Moment ι Op Reply S))

/-- The beginning: everything is still to be done. -/
def Processes.initial (programs : ι → Program Op Reply ε α) (killed : ε) (start : S) : Processes ι Op Reply ε α S :=
  ⟨(start, []), fun i => (programs i).mortal killed⟩

/-- What the processes can come to. Each runs its program once. -/
def Processes.Reached (M : ι → Machine Op Reply S) (kill : ι → S → S) (programs : ι → Program Op Reply ε α)
    (killed : ε) (start : S) (c : Processes ι Op Reply ε α S) : Prop :=
  Config.Reachable (recorded M kill) (fun _ _ => False) (Processes.initial programs killed start) c

section Watched

variable {note : V → (op : Op) → Reply op → V} {first : V} {i j : ι} {history : List (Moment ι Op Reply S)}
  {moment : Moment ι Op Reply S}

theorem watched_snoc : watched note first i (history ++ [moment]) =
    noted note i (watched note first i history) moment :=
  List.foldl_append

theorem noted_other (other : moment.who ≠ i) (seen : V) : noted note i seen moment = seen := if_neg other

theorem noted_self {before : S} {op : Op} {reply : Reply op} (seen : V) :
    noted note i seen (⟨before, i, ⟨op, some reply⟩⟩ : Moment ι Op Reply S) = note seen op reply :=
  if_pos rfl

theorem noted_killed {before : S} {op : Op} (seen : V) :
    noted note i seen (⟨before, j, ⟨op, none⟩⟩ : Moment ι Op Reply S) = seen := by
  unfold noted
  split <;> rfl

/-- **Since when a note stands.** What is noted now was noted at some moment of the process, and at every moment
since. -/
theorem watched_since {flag : V → Prop} (off : ¬ flag first) (on : flag (watched note first i history)) :
    ∃ before moment after, history = before ++ moment :: after ∧ moment.who = i ∧
      ¬ flag (watched note first i before) ∧
      ∀ rest, rest <+: after → flag (watched note first i (before ++ moment :: rest)) := by
  induction history using List.reverseRec with
  | nil => exact absurd on off
  | append_singleton history last ih =>
    by_cases already : flag (watched note first i history)
    · obtain ⟨before, moment, after, rfl, who, wasOff, since⟩ := ih already
      refine ⟨before, moment, after ++ [last], ?_, who, wasOff, fun rest part => ?_⟩
      · rw [List.append_assoc, List.cons_append]
      · rcases List.prefix_concat_iff.mp part with rfl | earlier
        · rwa [List.append_assoc, List.cons_append] at on
        · exact since rest earlier
    · refine ⟨history, last, [], rfl, ?_, already, fun rest part => ?_⟩
      · by_contra other
        rw [watched_snoc, noted_other other] at on
        exact already on
      · rwa [List.prefix_nil.mp part]

end Watched

/-! ### What holds at every moment -/

/-- A state and its history in which everything went by the rules, at every moment. -/
structure Lawful (M : ι → Machine Op Reply S) (note : V → (op : Op) → Reply op → V) (first : V)
    (here : ι → V → Op → Prop) (holds : S → List (Moment ι Op Reply S) → Prop)
    (s : S × List (Moment ι Op Reply S)) : Prop where
  now : holds s.1 s.2
  ever : ∀ before moment after, s.2 = before ++ moment :: after →
    holds moment.before before ∧ here moment.who (watched note first moment.who before) moment.call.op ∧
      ∀ reply, moment.call.reply = some reply → (M moment.who).permits moment.before moment.call.op reply

section Lawful

variable {M : ι → Machine Op Reply S} {kill : ι → S → S} {programs : ι → Program Op Reply ε α} {killed : ε}
  {start : S} {note : V → (op : Op) → Reply op → V} {first : V} {here : ι → V → Op → Prop}
  {holds : S → List (Moment ι Op Reply S) → Prop}

/-- The last moment of a history is an earlier one, or the one that is added. -/
theorem snoc_split {β : Type} {history before after : List β} {last moment : β}
    (split : history ++ [last] = before ++ moment :: after) :
    (history = before ∧ last = moment ∧ after = []) ∨ ∃ rest, history = before ++ moment :: rest ∧
    after = rest ++ [last] := by
  rcases List.eq_nil_or_concat' after with rfl | ⟨rest, final, rfl⟩
  · obtain ⟨same, lasts⟩ := List.append_inj' split rfl
    exact Or.inl ⟨same, List.singleton_inj.mp lasts, rfl⟩
  · have longer : history ++ [last] = (before ++ moment :: rest) ++ [final] := by
      rw [split, List.append_assoc, List.cons_append]
    obtain ⟨same, lasts⟩ := List.append_inj' longer rfl
    obtain rfl := List.singleton_inj.mp lasts
    exact Or.inr ⟨rest, same, rfl⟩

/-- **What holds at every moment of every interleaving.** -/
theorem Processes.Reached.lawful {post : ι → Except ε α → V → Prop}
    (along : ∀ i, (watcher note).Along (here i) (post i) (programs i) first)
    (dies : ∀ i seen op, here i seen op → post i (.error killed) seen) (init : holds start [])
    (kept : ∀ i s history op reply, holds s history → here i (watched note first i history) op →
      (M i).permits s op reply →
      holds ((M i).after s op reply) (history ++ [⟨s, i, ⟨op, some reply⟩⟩]))
    (cleaned : ∀ i s history op, holds s history → here i (watched note first i history) op →
      holds (kill i s) (history ++ [⟨s, i, ⟨op, none⟩⟩]))
    {c : Processes ι Op Reply ε α S} (reached : Processes.Reached M kill programs killed start c) :
    Lawful M note first here holds c.shared := by
  have coupled : Config.Coupled (recorded M kill) (fun _ => (watcher note).mortal id)
      (fun i s => watched note first i s.2) here (Lawful M note first here holds) := by
    refine ⟨fun i s op reply _ _ _ => ?_, fun i s op reply => ?_, fun i j s op reply different => ?_,
      fun i s op reply lawful stands permitted => ⟨?_, fun before moment after split => ?_⟩⟩
    · cases reply with
      | none => exact trivial
      | some reply => exact trivial
    · show watched note first i (s.2 ++ [_]) = _
      rw [watched_snoc]
      cases reply with
      | none => exact noted_killed _
      | some reply => exact noted_self _
    · show watched note first i (s.2 ++ [_]) = _
      rw [watched_snoc]
      exact noted_other different.symm _
    · cases reply with
      | none => exact cleaned i s.1 s.2 op lawful.now stands
      | some reply => exact kept i s.1 s.2 op reply lawful.now stands permitted
    · rcases snoc_split split with ⟨rfl, rfl, rfl⟩ | ⟨rest, earlier, rfl⟩
      · refine ⟨lawful.now, stands, fun given same => ?_⟩
        have allowed : ((M i).mortal (kill i)).permits s.1 op reply := permitted
        rw [show reply = some given from same] at allowed
        exact allowed
      · exact lawful.ever before moment rest earlier
  have first_along : Config.AllAlong (fun _ : ι => (watcher note).mortal id)
    (fun i s => watched note first i s.2) here
      post (Processes.initial programs killed start) := fun i => along_mortal (along i) (dies i)
  have first_lawful : Lawful M note first here holds (start, []) :=
    ⟨init, fun before moment after wrong =>
      absurd wrong.symm (List.append_ne_nil_of_right_ne_nil _ (List.cons_ne_nil _ _))⟩
  exact (Config.Reachable.coupled coupled (fun _ _ _ _ wrong _ => wrong.elim) reached first_lawful first_along).1

end Lawful

end AxiomMcp.Lib
