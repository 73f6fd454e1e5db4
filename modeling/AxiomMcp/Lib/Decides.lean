/-
**Programs over fixed replies, specified.**

`Decides` is what a program is for where its surroundings never change: it comes to an end, it returns exactly
what `returns` says, and what it raises satisfies `raises`. There is one rule for each way a program is built.

* `Decides.bind`, `Decides.rescue`: what goes on after a part, and what handles its exceptions;
* `steady`: the machine that answers by fixed replies. A program comes to one end on it
  (`against_of_ends`);
* `Ends.played`: on a machine that permits one reply only, the end is the one that is played;
* `ends_embed`: a part of a program over more operations.
-/

import AxiomMcp.Lib.Ends

namespace AxiomMcp.Lib

variable {Op : Type} {Reply : Op → Type} {ε ε' α β : Type}

namespace Program

/-- What a program returns and may raise against fixed replies. -/
structure Decides (reply : ∀ op, Reply op) (p : Program Op Reply ε α) (returns : α → Prop)
    (raises : ε → Prop) : Prop where
  ended : ∃ outcome, p.against reply = some outcome
  returned : ∀ a, p.against reply = some (.ok a) ↔ returns a
  raised : ∀ raised, p.against reply = some (.error raised) → raises raised

section Rules

variable {reply : ∀ op, Reply op} {p : Program Op Reply ε α} {returns : α → Prop} {raises : ε → Prop}

theorem decides_done (a : α) : Decides reply (.done a : Program Op Reply ε α) (· = a) raises where
  ended := ⟨_, rfl⟩
  returned b := ⟨fun same => (Except.ok.inj (Option.some.inj same)).symm, fun same => by rw [same]; rfl⟩
  raised _ wrong := nomatch wrong

theorem decides_raise {raised : ε} (allowed : raises raised) :
    Decides reply (.raise raised : Program Op Reply ε α) (fun _ => False) raises where
  ended := ⟨_, rfl⟩
  returned _ := ⟨(fun wrong => nomatch wrong), False.elim⟩
  raised _ same := Except.error.inj (Option.some.inj same) ▸ allowed

theorem decides_ofExcept {x : Except ε α} (allowed : Raises raises x) :
    Decides reply (ofExcept x) (x = .ok ·) raises where
  ended := ⟨x, against_ofExcept x⟩
  returned a := by
    rw [against_ofExcept]
    exact ⟨Option.some.inj, congrArg some⟩
  raised raised same := by
    rw [against_ofExcept] at same
    exact allowed raised (Option.some.inj same)

/-- A value behind a check. -/
theorem decides_ite {c : Prop} [Decidable c] {a : α} {raised : ε} (allowed : ¬ c → raises raised) :
    Decides reply (if c then .done a else .raise raised : Program Op Reply ε α) (fun b => c ∧ b = a) raises where
  ended := by split <;> exact ⟨_, rfl⟩
  returned b := by
    split
    · next holds => exact ((decides_done a : Decides reply _ _ raises).returned b).trans (and_iff_right holds).symm
    · next fails => exact iff_of_false (fun wrong => nomatch wrong) fun both => fails both.1
  raised other same := by
    split at same
    · cases same
    · next fails => exact Except.error.inj (Option.some.inj same) ▸ allowed fails

theorem decides_call {op : Op} {next : Reply op → Program Op Reply ε α}
    (rest : Decides reply (next (reply op)) returns raises) : Decides reply (.call op next) returns raises :=
  ⟨rest.ended, rest.returned, rest.raised⟩

namespace Decides

theorem congr {returns' : α → Prop} (decides : Decides reply p returns raises)
    (same : ∀ a, returns a ↔ returns' a) : Decides reply p returns' raises :=
  ⟨decides.ended, fun a => (decides.returned a).trans (same a), decides.raised⟩

/-- After `p` returned, go on; what `p` raises passes. -/
theorem bind {f : α → Program Op Reply ε β} {returns' : α → β → Prop} (first : Decides reply p returns raises)
    (next : ∀ a, returns a → Decides reply (f a) (returns' a) raises) :
    Decides reply (p >>= f) (fun b => ∃ a, returns a ∧ returns' a b) raises := by
  obtain ⟨outcome, ended⟩ := first.ended
  have called := against_bind ended f
  cases outcome with
  | error raised =>
    refine ⟨⟨_, called⟩, fun b => ?_, fun other same => ?_⟩
    · rw [called]
      refine ⟨(fun wrong => nomatch wrong), fun ⟨a, holds, _⟩ => ?_⟩
      cases ((first.returned a).mpr holds).symm.trans ended
    · obtain rfl := Except.error.inj (Option.some.inj (called.symm.trans same))
      exact first.raised _ ended
  | ok a =>
    have holds := (first.returned a).mp ended
    have rest := next a holds
    refine ⟨?_, fun b => ?_, fun raised same => ?_⟩
    · rw [called]
      exact rest.ended
    · rw [called]
      refine (rest.returned b).trans ⟨fun after => ⟨a, holds, after⟩, fun ⟨other, here, after⟩ => ?_⟩
      obtain rfl := Except.ok.inj (Option.some.inj (((first.returned other).mpr here).symm.trans ended))
      exact after
    · rw [called] at same
      exact rest.raised raised same

/-- Exceptions that are handled by others. -/
theorem rescue {handler : ε → Program Op Reply ε α} {raises' : ε → Prop}
    (first : Decides reply p returns raises)
    (handled : ∀ raised, raises raised → ∃ other, handler raised = .raise other ∧ raises' other) :
    Decides reply (p.rescue handler) returns raises' := by
  obtain ⟨outcome, ended⟩ := first.ended
  cases outcome with
  | ok a =>
    have called : (p.rescue handler).against reply = some (.ok a) := by
      unfold Program.rescue
      rw [against_resume, ended]
      rfl
    refine ⟨⟨_, called⟩, fun b => ?_, fun raised same => ?_⟩
    · rw [called, ← first.returned b, ended]
    · cases called.symm.trans same
  | error raised =>
    obtain ⟨other, raising, allowed⟩ := handled raised (first.raised raised ended)
    have called : (p.rescue handler).against reply = some (.error other) := by
      unfold Program.rescue
      rw [against_resume, ended]
      exact congrArg (against reply) raising
    refine ⟨⟨_, called⟩, fun b => ?_, fun last same => ?_⟩
    · rw [called, ← first.returned b, ended]
      exact ⟨(fun wrong => nomatch wrong), fun wrong => nomatch wrong⟩
    · obtain rfl := Except.error.inj (Option.some.inj (called.symm.trans same))
      exact allowed

/-- A program returns one value. -/
theorem unique (decides : Decides reply p returns raises) {a b : α} (one : returns a) (other : returns b) :
    a = b :=
  Except.ok.inj (Option.some.inj (((decides.returned a).mpr one).symm.trans ((decides.returned b).mpr other)))

/-- It raises exactly if there is nothing to return. -/
theorem none_returned (decides : Decides reply p returns raises) {raised : ε}
    (ended : p.against reply = some (.error raised)) (a : α) : ¬ returns a :=
  fun holds => nomatch ((decides.returned a).mpr holds).symm.trans ended

end Decides

end Rules

end Program

/-! ### Machines that permit one reply -/

namespace Machine

open Program

variable {S : Type} {M : Machine Op Reply S} {p : Program Op Reply ε α} {s s' : S} {outcome : Except ε α}

/-- The machine that answers by fixed replies. -/
def steady (reply : ∀ op, Reply op) : Machine Op Reply Unit where
  permits _ op given := given = reply op
  after _ _ _ := ()

/-- The one end on a machine that answers by fixed replies. -/
theorem against_of_ends {reply : ∀ op, Reply op} (ends : (steady reply).Ends p () outcome ()) :
    p.against reply = some outcome := by
  induction p with
  | done a => exact congrArg some ends.1.symm
  | raise raised => exact congrArg some ends.1.symm
  | stuck op => exact ends.elim
  | call op next ih =>
    obtain ⟨given, rfl, rest⟩ := ends
    exact ih _ rest

/-- The one end on a machine that permits one reply to each operation. -/
theorem Ends.played {choice : ∀ (_ : S) op, Reply op} (ends : M.Ends p s outcome s')
    (one : ∀ s op reply, M.permits s op reply → reply = choice s op) : M.play choice p s = some (outcome, s') := by
  induction p generalizing s with
  | done a => exact congrArg some (Prod.ext ends.1.symm ends.2.symm)
  | raise raised => exact congrArg some (Prod.ext ends.1.symm ends.2.symm)
  | stuck op => exact ends.elim
  | call op next ih =>
    obtain ⟨reply, permitted, rest⟩ := ends
    obtain rfl := one s op reply permitted
    exact ih _ rest

/-- A part of a program over more operations ends as it does on its own. -/
theorem ends_embed {Op' S' : Type} {Reply' : Op' → Type} {M' : Machine Op' Reply' S'} {view : S' → S}
    {into : Op → Op'} {answer : ∀ op, Reply' (into op) → Reply op} (part : Part M M' view into answer)
    {s t : S'} (ends : M'.Ends (p.embed into answer) s outcome t) : M.Ends p (view s) outcome (view t) := by
  induction p generalizing s with
  | done a => exact ⟨ends.1, congrArg view ends.2⟩
  | raise raised => exact ⟨ends.1, congrArg view ends.2⟩
  | stuck op => exact ends.elim
  | call op next ih =>
    obtain ⟨reply, permitted, rest⟩ := ends
    refine ⟨answer op reply, part.permits _ _ _ permitted, ?_⟩
    rw [← part.after]
    exact ih _ rest

end Machine

end AxiomMcp.Lib
