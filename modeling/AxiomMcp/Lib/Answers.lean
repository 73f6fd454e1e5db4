/-
**Surroundings that do not change.**

Some operations of a program have fixed answers, the others may be answered by anything. A program over such
surroundings asks what the answers so far lead it to.

* `Machine.fixed`: the machine of fixed answers;
* `Along.asked`: what holds along a program holds of all calls of a trace whose answers are the fixed ones;
* `Along.transfer`: **a trace over some answers is one over any others that agree with them on what the program
  asks**;
* `against_of_trace`, `trace_of_against`: with one answer to each operation a program ends as it does against them.
-/

import AxiomMcp.Lib.Traces

namespace AxiomMcp.Lib

open Program

variable {Op : Type} {Reply : Op → Type} {ε α : Type}

namespace Machine

/-- Surroundings that answer an operation by one of these replies, and never change. -/
def fixed (answers : (op : Op) → Reply op → Prop) : Machine Op Reply Unit where
  permits _ op reply := answers op reply
  after _ _ _ := ()

variable {answers answers' : (op : Op) → Reply op → Prop} {allowed : Op → Prop} {p : Program Op Reply ε α}

/-- What a trace over fixed answers has asked, and how it ended. -/
theorem Along.asked {post : Except ε α → Unit → Prop} {calls : List (Call Op Reply)} {outcome : Except ε α}
    (along : (fixed answers).Along (fun _ op => allowed op) post p ()) (trace : Trace p calls outcome)
    (given : ∀ call ∈ calls, answers call.op call.reply) :
    (∀ call ∈ calls, allowed call.op) ∧ post outcome () := by
  induction trace with
  | done a => exact ⟨fun _ wrong => (nomatch wrong), along⟩
  | raise raised => exact ⟨fun _ wrong => (nomatch wrong), along⟩
  | call rest ih =>
    obtain ⟨here, later⟩ := List.forall_mem_cons.mp given
    obtain ⟨asked, ended⟩ := ih (along.2 _ here) later
    exact ⟨List.forall_mem_cons.mpr ⟨along.1, asked⟩, ended⟩

/-- **A trace over some answers is one over others that agree on what the program asks.** -/
theorem Along.transfer {post : Except ε α → Unit → Prop} {calls : List (Call Op Reply)} {outcome : Except ε α}
    (along : (fixed answers).Along (fun _ op => allowed op) post p ()) (trace : Trace p calls outcome)
    (agree : ∀ op reply, allowed op → answers op reply → answers' op reply)
    (given : ∀ call ∈ calls, answers call.op call.reply) : ∀ call ∈ calls, answers' call.op call.reply :=
  fun call member => agree _ _ ((along.asked trace given).1 call member) (given call member)

/-! ### One answer to each operation -/

section Single

variable {reply reply' : ∀ op, Reply op}

/-- How a trace ends whose calls are answered by one reply each. -/
theorem against_of_trace {calls : List (Call Op Reply)} {outcome : Except ε α} (trace : Trace p calls outcome)
    (given : ∀ call ∈ calls, call.reply = reply call.op) : p.against reply = some outcome := by
  induction trace with
  | done a => rfl
  | raise raised => rfl
  | @call op next answer calls outcome rest ih =>
    obtain ⟨here, later⟩ := List.forall_mem_cons.mp given
    change (next (reply op)).against reply = some outcome
    rw [← (here : answer = reply op)]
    exact ih later

theorem trace_of_against {outcome : Except ε α} (ended : p.against reply = some outcome) :
    ∃ calls, Trace p calls outcome ∧ ∀ call ∈ calls, call.reply = reply call.op := by
  induction p with
  | done a =>
    cases ended
    exact ⟨[], .done a, fun _ wrong => nomatch wrong⟩
  | raise raised =>
    cases ended
    exact ⟨[], .raise raised, fun _ wrong => nomatch wrong⟩
  | stuck op => cases ended
  | call op next ih =>
    obtain ⟨calls, rest, each⟩ := ih _ ended
    exact ⟨_, .call rest, List.forall_mem_cons.mpr ⟨rfl, each⟩⟩

/-- Replies that agree on what a program asks end it in one way. -/
theorem Along.against {post : Except ε α → Unit → Prop} {outcome : Except ε α}
    (along : (fixed fun op given => given = reply op).Along (fun _ op => allowed op) post p ())
    (agree : ∀ op, allowed op → reply' op = reply op) (ended : p.against reply = some outcome) :
    p.against reply' = some outcome ∧ post outcome () := by
  obtain ⟨calls, trace, given⟩ := trace_of_against ended
  have moved : ∀ call ∈ calls, call.reply = reply' call.op :=
    along.transfer trace (fun op given asked same => same.trans (agree op asked).symm) given
  exact ⟨against_of_trace trace moved, (along.asked trace given).2⟩

end Single

/-- A program that asks allowed operations only, over any answers. -/
theorem along_allowed {other : Op → Prop} (only : p.Only other) (weaker : ∀ op, other op → allowed op) :
    (fixed answers).Along (fun _ op => allowed op) (fun _ _ => True) p () :=
  (along_of_only (fun _ => True) only trivial fun _ _ _ _ _ _ => trivial).mono
    (fun _ op holds => weaker op holds.2) fun _ _ _ => trivial

/-- A program over a part of the answers. -/
theorem Along.within {Op' : Type} {Reply' : Op' → Type} {answers' : (op : Op') → Reply' op → Prop}
    {allowed' : Op' → Prop} {into : Op → Op'} {answer : ∀ op, Reply' (into op) → Reply op}
    {post : Except ε α → Prop}
    (along : (fixed answers).Along (fun _ op => allowed op) (fun outcome _ => post outcome) p ())
    (same : ∀ op reply, answers' (into op) reply → answers op (answer op reply))
    (there : ∀ op, allowed op → allowed' (into op)) :
    (fixed answers').Along (fun _ op => allowed' op) (fun outcome _ => post outcome) (p.embed into answer) () := by
  have part : Part (fixed answers) (fixed answers') id into answer := ⟨fun _ => same, fun _ _ _ => rfl⟩
  refine (Along.embed part (fun _ => True) (fun _ _ _ _ _ _ => trivial) (fun _ op _ => there op) trivial
    along).post fun outcome _ ended => ended.1

end Machine

end AxiomMcp.Lib
