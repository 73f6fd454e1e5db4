/-
**What a program may ask and how it may end.**

`Trace p calls outcome` says that a program may make these calls, with these replies, and end so. Nothing
is assumed of the replies: surroundings of any kind only leave some of the traces (`Trace.of_run`).

* `trace_bind_iff` takes a program apart into its parts, `trace_call_iff` and `trace_ofExcept_iff` at
  single steps;
* `Trace.only`: a program whose operations are of a kind makes calls of that kind;
* `Trace.unique`: the replies determine how a program ends.
-/

import AxiomMcp.Lib.Program

namespace AxiomMcp.Lib

variable {Op : Type} {Reply : Op → Type} {ε ε' α β S : Type}

/-- A program may make these calls and end so. -/
inductive Trace : Program Op Reply ε α → List (Call Op Reply) → Except ε α → Prop
  | done (a : α) : Trace (.done a) [] (.ok a)
  | raise (raised : ε) : Trace (.raise raised) [] (.error raised)
  | call {op : Op} {next : Reply op → Program Op Reply ε α} {reply : Reply op}
      {calls : List (Call Op Reply)} {outcome : Except ε α} (rest : Trace (next reply) calls outcome) :
      Trace (.call op next) (⟨op, reply⟩ :: calls) outcome

theorem trace_done_iff {a : α} {calls : List (Call Op Reply)} {outcome : Except ε α} :
    Trace (.done a) calls outcome ↔ calls = [] ∧ outcome = .ok a := by
  constructor
  · rintro ⟨⟩
    exact ⟨rfl, rfl⟩
  · rintro ⟨rfl, rfl⟩
    exact .done a

theorem trace_raise_iff {raised : ε} {calls : List (Call Op Reply)} {outcome : Except ε α} :
    Trace (.raise raised) calls outcome ↔ calls = [] ∧ outcome = .error raised := by
  constructor
  · rintro ⟨⟩
    exact ⟨rfl, rfl⟩
  · rintro ⟨rfl, rfl⟩
    exact .raise raised

theorem trace_ofExcept_iff {ended outcome : Except ε α} {calls : List (Call Op Reply)} :
    Trace (.ofExcept ended) calls outcome ↔ calls = [] ∧ outcome = ended := by
  cases ended with
  | ok a => exact trace_done_iff
  | error raised => exact trace_raise_iff

theorem trace_call_iff {op : Op} {next : Reply op → Program Op Reply ε α} {calls : List (Call Op Reply)}
    {outcome : Except ε α} :
    Trace (.call op next) calls outcome ↔
      ∃ reply rest, calls = ⟨op, reply⟩ :: rest ∧ Trace (next reply) rest outcome := by
  constructor
  · rintro ⟨⟩
    next rest => exact ⟨_, _, rfl, rest⟩
  · rintro ⟨reply, rest, rfl, after⟩
    exact .call after

theorem trace_resume_iff {p : Program Op Reply ε α} {k : Except ε α → Program Op Reply ε' β}
    {calls : List (Call Op Reply)} {outcome : Except ε' β} :
    Trace (p.resume k) calls outcome ↔
      ∃ ended one other, calls = one ++ other ∧ Trace p one ended ∧ Trace (k ended) other outcome := by
  induction p generalizing calls with
  | done a =>
    constructor
    · exact fun trace => ⟨.ok a, [], calls, rfl, .done a, trace⟩
    · rintro ⟨ended, one, other, rfl, first, second⟩
      obtain ⟨rfl, rfl⟩ := trace_done_iff.mp first
      exact second
  | raise raised =>
    constructor
    · exact fun trace => ⟨.error raised, [], calls, rfl, .raise raised, trace⟩
    · rintro ⟨ended, one, other, rfl, first, second⟩
      obtain ⟨rfl, rfl⟩ := trace_raise_iff.mp first
      exact second
  | stuck op =>
    constructor
    · rintro ⟨⟩
    · rintro ⟨ended, one, other, rfl, first, second⟩
      cases first
  | call op next ih =>
    constructor
    · intro trace
      obtain ⟨reply, rest, rfl, after⟩ := trace_call_iff.mp trace
      obtain ⟨ended, one, other, rfl, first, second⟩ := (ih reply).mp after
      exact ⟨ended, ⟨op, reply⟩ :: one, other, rfl, .call first, second⟩
    · rintro ⟨ended, one, other, rfl, first, second⟩
      obtain ⟨reply, rest, rfl, after⟩ := trace_call_iff.mp first
      exact .call ((ih reply).mpr ⟨ended, rest, other, rfl, after, second⟩)

/-- A program in two parts: the first raises, or the second goes on. -/
theorem trace_bind_iff {p : Program Op Reply ε α} {f : α → Program Op Reply ε β}
    {calls : List (Call Op Reply)} {outcome : Except ε β} :
    Trace (p >>= f) calls outcome ↔
      (∃ raised, Trace p calls (.error raised) ∧ outcome = .error raised) ∨
        ∃ a one other, calls = one ++ other ∧ Trace p one (.ok a) ∧ Trace (f a) other outcome := by
  rw [Program.bind_def, trace_resume_iff]
  constructor
  · rintro ⟨ended, one, other, rfl, first, second⟩
    cases ended with
    | ok a => exact Or.inr ⟨a, one, other, rfl, first, second⟩
    | error raised =>
      obtain ⟨rfl, rfl⟩ := trace_raise_iff.mp second
      rw [List.append_nil]
      exact Or.inl ⟨raised, first, rfl⟩
  · rintro (⟨raised, first, rfl⟩ | ⟨a, one, other, rfl, first, second⟩)
    · exact ⟨.error raised, calls, [], (List.append_nil _).symm, first, .raise raised⟩
    · exact ⟨.ok a, one, other, rfl, first, second⟩

/-- A program that begins with a value or an exception. -/
theorem trace_ofExcept_bind_iff {ended : Except ε α} {f : α → Program Op Reply ε β}
    {calls : List (Call Op Reply)} {outcome : Except ε β} :
    Trace (Program.ofExcept ended >>= f) calls outcome ↔
      (∃ raised, ended = .error raised ∧ calls = [] ∧ outcome = .error raised) ∨
        ∃ a, ended = .ok a ∧ Trace (f a) calls outcome := by
  rw [trace_bind_iff]
  constructor
  · rintro (⟨raised, first, rfl⟩ | ⟨a, one, other, rfl, first, second⟩)
    · obtain ⟨rfl, same⟩ := trace_ofExcept_iff.mp first
      exact Or.inl ⟨raised, same.symm, rfl, rfl⟩
    · obtain ⟨rfl, same⟩ := trace_ofExcept_iff.mp first
      exact Or.inr ⟨a, same.symm, second⟩
  · rintro (⟨raised, rfl, rfl, rfl⟩ | ⟨a, rfl, second⟩)
    · exact Or.inl ⟨raised, .raise raised, rfl⟩
    · exact Or.inr ⟨a, [], calls, rfl, .done a, second⟩

/-- A program whose end is handled. -/
theorem trace_rescue_iff {p : Program Op Reply ε α} {handler : ε → Program Op Reply ε α}
    {calls : List (Call Op Reply)} {outcome : Except ε α} :
    Trace (p.rescue handler) calls outcome ↔
      (∃ a, Trace p calls (.ok a) ∧ outcome = .ok a) ∨
        ∃ raised one other, calls = one ++ other ∧ Trace p one (.error raised) ∧
          Trace (handler raised) other outcome := by
  rw [Program.rescue, trace_resume_iff]
  constructor
  · rintro ⟨ended, one, other, rfl, first, second⟩
    cases ended with
    | ok a =>
      obtain ⟨rfl, rfl⟩ := trace_done_iff.mp second
      rw [List.append_nil]
      exact Or.inl ⟨a, first, rfl⟩
    | error raised => exact Or.inr ⟨raised, one, other, rfl, first, second⟩
  · rintro (⟨a, first, rfl⟩ | ⟨raised, one, other, rfl, first, second⟩)
    · exact ⟨.ok a, calls, [], (List.append_nil _).symm, first, .done a⟩
    · exact ⟨.error raised, one, other, rfl, first, second⟩

/-- A program that ends well although it was ensured: both of its parts did. -/
theorem trace_ensure_ok {p : Program Op Reply ε α} {last : Program Op Reply ε Unit}
    {calls : List (Call Op Reply)} {a : α} :
    Trace (p.ensure last) calls (.ok a) ↔
      ∃ one other, calls = one ++ other ∧ Trace p one (.ok a) ∧ Trace last other (.ok ()) := by
  rw [Program.ensure, trace_resume_iff]
  constructor
  · rintro ⟨ended, one, other, rfl, first, second⟩
    rcases trace_bind_iff.mp second with ⟨_, _, wrong⟩ | ⟨_, closing, none, rfl, closed, same⟩
    · cases wrong
    · obtain ⟨rfl, rfl⟩ := trace_ofExcept_iff.mp same
      exact ⟨one, closing, by rw [List.append_nil], first, closed⟩
  · rintro ⟨one, other, rfl, first, closed⟩
    refine ⟨.ok a, one, other, rfl, first, trace_bind_iff.mpr (Or.inr ⟨(), other, [], ?_, closed, .done a⟩)⟩
    exact (List.append_nil _).symm

/-- An embedded program makes the embedded calls. -/
theorem trace_embed_iff {Op' : Type} {Reply' : Op' → Type} {into : Op → Op'}
    {answer : ∀ op, Reply' (into op) → Reply op} {p : Program Op Reply ε α} {calls : List (Call Op' Reply')}
    {outcome : Except ε α} :
    Trace (p.embed into answer) calls outcome ↔
      ∃ inner : List ((op : Op) × Reply' (into op)),
        calls = inner.map (fun asked => ⟨into asked.1, asked.2⟩) ∧
          Trace p (inner.map fun asked => ⟨asked.1, answer asked.1 asked.2⟩) outcome := by
  induction p generalizing calls with
  | done a =>
    constructor
    · intro trace
      obtain ⟨rfl, rfl⟩ := trace_done_iff.mp trace
      exact ⟨[], rfl, .done a⟩
    · rintro ⟨inner, rfl, trace⟩
      obtain ⟨none, rfl⟩ := trace_done_iff.mp trace
      rw [List.map_eq_nil_iff.mp none]
      exact .done a
  | raise raised =>
    constructor
    · intro trace
      obtain ⟨rfl, rfl⟩ := trace_raise_iff.mp trace
      exact ⟨[], rfl, .raise raised⟩
    · rintro ⟨inner, rfl, trace⟩
      obtain ⟨none, rfl⟩ := trace_raise_iff.mp trace
      rw [List.map_eq_nil_iff.mp none]
      exact .raise raised
  | stuck op =>
    constructor
    · rintro ⟨⟩
    · rintro ⟨_, _, trace⟩
      cases trace
  | call op next ih =>
    constructor
    · intro trace
      obtain ⟨reply, rest, rfl, after⟩ := trace_call_iff.mp trace
      obtain ⟨inner, rfl, later⟩ := (ih _).mp after
      exact ⟨⟨op, reply⟩ :: inner, rfl, .call later⟩
    · rintro ⟨inner, rfl, trace⟩
      obtain ⟨reply, rest, same, after⟩ := trace_call_iff.mp trace
      cases inner with
      | nil => cases same
      | cons asked inner =>
        obtain ⟨first, rfl⟩ := List.cons.inj same
        obtain ⟨asked, given⟩ := asked
        cases first
        exact .call ((ih _).mpr ⟨inner, rfl, after⟩)

/-- The calls of a program are of the kind that all its operations are. -/
theorem Trace.only {allowed : Op → Prop} {p : Program Op Reply ε α} {calls : List (Call Op Reply)}
    {outcome : Except ε α} (trace : Trace p calls outcome) (only : p.Only allowed) :
    ∀ call ∈ calls, allowed call.op := by
  induction trace with
  | done a => exact fun _ member => nomatch member
  | raise raised => exact fun _ member => nomatch member
  | call rest ih =>
    intro call member
    rcases List.mem_cons.mp member with rfl | later
    · exact only.1
    · exact ih (only.2 _) call later

/-- A marked call is made after a first part without one, which returned. -/
theorem Trace.past {marked : Op → Prop} {p : Program Op Reply ε α} {f : α → Program Op Reply ε β}
    {calls : List (Call Op Reply)} {outcome : Except ε β} {call : Call Op Reply}
    (trace : Trace (p >>= f) calls outcome) (quiet : p.Only fun op => ¬ marked op) (member : call ∈ calls)
    (here : marked call.op) :
    ∃ a one other, calls = one ++ other ∧ (∀ earlier ∈ one, ¬ marked earlier.op) ∧ Trace p one (.ok a) ∧
      Trace (f a) other outcome ∧ call ∈ other := by
  rcases trace_bind_iff.mp trace with ⟨raised, first, rfl⟩ | ⟨a, one, other, rfl, first, second⟩
  · exact absurd here (first.only quiet call member)
  · rcases List.mem_append.mp member with earlier | later
    · exact absurd here (first.only quiet call earlier)
    · exact ⟨a, one, other, rfl, first.only quiet, first, second, later⟩

/-- The replies determine the calls of a program and its end. -/
theorem Trace.unique {p : Program Op Reply ε α} {one two left right : List (Call Op Reply)}
    {outcome outcome' : Except ε α} (first : Trace p one outcome) (second : Trace p two outcome')
    (same : one ++ left = two ++ right) : one = two ∧ outcome = outcome' := by
  induction first generalizing two with
  | done a =>
    obtain ⟨rfl, rfl⟩ := trace_done_iff.mp second
    exact ⟨rfl, rfl⟩
  | raise raised =>
    obtain ⟨rfl, rfl⟩ := trace_raise_iff.mp second
    exact ⟨rfl, rfl⟩
  | call rest ih =>
    obtain ⟨reply, later, rfl, after⟩ := trace_call_iff.mp second
    obtain ⟨asked, others⟩ := List.cons.inj same
    cases asked
    obtain ⟨rfl, rfl⟩ := ih after others
    exact ⟨rfl, rfl⟩

/-- A program ends in one way with the same calls. -/
theorem Trace.ends {p : Program Op Reply ε α} {calls : List (Call Op Reply)}
    {outcome outcome' : Except ε α} (first : Trace p calls outcome) (second : Trace p calls outcome') :
    outcome = outcome' :=
  (first.unique second (congrArg (· ++ []) rfl)).2

/-- A run makes a trace. -/
theorem Trace.of_run {M : Machine Op Reply S} {answer : List (Call Op Reply) → S → (op : Op) → Reply op}
    {p : Program Op Reply ε α} {calls made : List (Call Op Reply)} {s s' : S} {outcome : Except ε α}
    (ran : M.run answer p calls s = some (outcome, made, s')) :
    ∃ later, made = calls ++ later ∧ Trace p later outcome := by
  induction p generalizing calls s with
  | done a =>
    cases ran
    exact ⟨[], (List.append_nil _).symm, .done a⟩
  | raise raised =>
    cases ran
    exact ⟨[], (List.append_nil _).symm, .raise raised⟩
  | stuck op => cases ran
  | call op next ih =>
    obtain ⟨later, rfl, rest⟩ := ih _ ran
    refine ⟨⟨op, answer calls s op⟩ :: later, ?_, .call rest⟩
    rw [List.append_assoc]
    rfl

/-- The calls of a run are answered as its surroundings answer. -/
theorem Trace.of_run_answered {M : Machine Op Reply S}
    {answer : List (Call Op Reply) → S → (op : Op) → Reply op} {holds : (op : Op) → Reply op → Prop}
    (sound : ∀ calls s op, holds op (answer calls s op)) {p : Program Op Reply ε α}
    {calls made : List (Call Op Reply)} {s s' : S} {outcome : Except ε α}
    (ran : M.run answer p calls s = some (outcome, made, s')) :
    ∃ later, made = calls ++ later ∧ Trace p later outcome ∧ ∀ call ∈ later, holds call.op call.reply := by
  induction p generalizing calls s with
  | done a =>
    cases ran
    exact ⟨[], (List.append_nil _).symm, .done a, fun _ wrong => nomatch wrong⟩
  | raise raised =>
    cases ran
    exact ⟨[], (List.append_nil _).symm, .raise raised, fun _ wrong => nomatch wrong⟩
  | stuck op => cases ran
  | call op next ih =>
    obtain ⟨later, rfl, rest, each⟩ := ih _ ran
    refine ⟨⟨op, answer calls s op⟩ :: later, ?_, .call rest, List.forall_mem_cons.mpr ⟨sound _ _ _, each⟩⟩
    rw [List.append_assoc]
    rfl

/-- An end against replies that never change is the end of a trace. -/
theorem Trace.of_against {reply : ∀ op, Reply op} {p : Program Op Reply ε α} {outcome : Except ε α}
    (ended : p.against reply = some outcome) : ∃ calls, Trace p calls outcome := by
  induction p with
  | done a =>
    cases ended
    exact ⟨[], .done a⟩
  | raise raised =>
    cases ended
    exact ⟨[], .raise raised⟩
  | stuck op => cases ended
  | call op next ih =>
    obtain ⟨calls, rest⟩ := ih _ ended
    exact ⟨_, .call rest⟩

/-! ### What a program may raise -/

namespace Program

/-- A program raises allowed errors only, whatever it is replied. -/
def Throws (allowed : ε → Prop) : Program Op Reply ε α → Prop
  | .done _ => True
  | .raise raised => allowed raised
  | .call _ next => ∀ reply, Throws allowed (next reply)
  | .stuck _ => True

variable {allowed : ε → Prop} {allowed' : ε' → Prop}

/-- After either end of a program, what goes on decides. -/
theorem throws_resume (p : Program Op Reply ε α) {k : Except ε α → Program Op Reply ε' β}
    (next : ∀ outcome, (k outcome).Throws allowed') : (p.resume k).Throws allowed' := by
  induction p with
  | done a => exact next _
  | raise raised => exact next _
  | stuck op => exact trivial
  | call op _ ih => exact fun reply => ih reply

theorem Throws.bind {p : Program Op Reply ε α} {f : α → Program Op Reply ε β}
    (first : p.Throws allowed) (next : ∀ a, (f a).Throws allowed) : (p >>= f).Throws allowed := by
  induction p with
  | done a => exact next a
  | raise raised => exact first
  | stuck op => exact trivial
  | call op _ ih => exact fun reply => ih reply (first reply)

theorem Throws.ensure {p : Program Op Reply ε α} {last : Program Op Reply ε Unit} (first : p.Throws allowed)
    (ends : last.Throws allowed) : (p.ensure last).Throws allowed := by
  induction p with
  | done a => exact ends.bind fun _ => trivial
  | raise raised => exact ends.bind fun _ => first
  | stuck op => exact trivial
  | call op _ ih => exact fun reply => ih reply (first reply)

theorem Throws.rescue {allowed' : ε → Prop} {p : Program Op Reply ε α} {handler : ε → Program Op Reply ε α}
    (first : p.Throws allowed') (handled : ∀ raised, allowed' raised → (handler raised).Throws allowed) :
    (p.rescue handler).Throws allowed := by
  induction p with
  | done a => exact trivial
  | raise raised => exact handled raised first
  | stuck op => exact trivial
  | call op _ ih => exact fun reply => ih reply (first reply)

end Program

end AxiomMcp.Lib
