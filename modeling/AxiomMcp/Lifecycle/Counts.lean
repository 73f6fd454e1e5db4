/-
**Queries in flight.**

What holds of the counters of a lifecycle in every interleaving, without any condition.

* `Gateway.Reached.along`: every thread keeps to its conduct;
* `Gateway.Reached.counts`: the queries in flight are those of the threads inside of a query, the counter
  says how many they are, and every query that was admitted has exited or is one of them;
* `admitted_draining`: once a drain has started no query is admitted.
-/

import AxiomMcp.Lifecycle.Conduct

namespace AxiomMcp.Lifecycle

open Lib Program Machine Guard

variable {ι : Type} [DecidableEq ι]

/-! ### Threads on their own histories -/

/-- What threads may do beyond what the lifecycle and its guard permit. -/
abbrev Condition (ι : Type) := Shared ι → (op : Op) → Reply op → Prop

/-- No condition. -/
def anyhow (_ : Shared ι) (op : Op) (_ : Reply op) : Prop := True

/-- The steps of the threads in a run whose steps all meet a condition. -/
def threads (condition : Condition ι) (i : ι) : Machine Op Reply (Shared ι) :=
  (thread i).restrict condition

/-- What a lifecycle can come to by steps that meet a condition. -/
def Gateway.ReachedBy (condition : Condition ι) (c : Gateway ι) : Prop :=
  Config.Reachable (threads condition) Begins Gateway.initial c

/-- What a lifecycle can come to. -/
def Gateway.Reached (c : Gateway ι) : Prop := c.ReachedBy anyhow

variable {condition : Condition ι} {c c' : Gateway ι}

theorem threads_parted :
    Config.Parted (threads condition) (fun _ => ownMachine) fun i (s : Shared ι) => s.own i where
  permits _ _ _ _ _ := trivial
  own i s op reply := by
    cases op with
    | inl op => exact Function.update_self i _ _
    | inr op => exact Function.update_self i _ _
  others i j s op reply different := by
    cases op with
    | inl op => exact Function.update_of_ne different _ _
    | inr op =>
      refine (Function.update_of_ne different _ _).trans ?_
      cases op with
      | admission => cases reply <;> rfl
      | poll deadline =>
        cases reply with
        | none => rfl
        | some remaining =>
          show (if remaining ≠ 0 then _ else s : Shared ι).own i = _
          split <;> rfl
      | _ => rfl

/-- The history of a thread after a step of some thread. -/
theorem own_after (s : Shared ι) (i : ι) (op : Op) (reply : Reply op) :
    ((thread i).after s op reply).own = Function.update s.own i (ownMachine.after (s.own i) op reply) := by
  funext j
  by_cases same : j = i
  · subst same
    rw [Function.update_self]
    exact (threads_parted : Config.Parted (threads anyhow) _ _).own j s op reply
  · rw [Function.update_of_ne same]
    exact (threads_parted : Config.Parted (threads anyhow) _ _).others j i s op reply same

/-- A step of the lifecycle leaves the guard. -/
theorem life_guard (s : Shared ι) (i : ι) (op : LifeOp) (reply : LifeReply op) :
    ((thread i).after s (.inr op) reply).guard = s.guard ∧
      ((thread i).after s (.inr op) reply).letting = s.letting := by
  cases op with
  | admission => cases reply <;> exact ⟨rfl, rfl⟩
  | poll deadline =>
    cases reply with
    | none => exact ⟨rfl, rfl⟩
    | some remaining =>
      show (Shared.setOwn (if remaining ≠ 0 then _ else s) i _).guard = _ ∧
        (Shared.setOwn (if remaining ≠ 0 then _ else s) i _).letting = _
      split <;> exact ⟨rfl, rfl⟩
  | _ => exact ⟨rfl, rfl⟩

theorem Gateway.ReachedBy.along (reached : c.ReachedBy condition) (i : ι) :
    ownMachine.Along Conduct Returned (c.threads i) (c.shared.own i) := by
  have again : ∀ (i : ι) (p : LifeProgram Answer) (own : Own) (outcome : Except Raised Answer),
      Begins i p → Returned outcome own → ownMachine.Along Conduct Returned p own :=
    fun i p own outcome begins returned => begins_conduct begins returned.1
  refine Config.Reachable.along threads_parted again reached (fun i => ?_) i
  exact ⟨⟨rfl, rfl, rfl⟩, fun _ same => nomatch same⟩

/-- The operation that a thread asks keeps to the conduct. -/
theorem Gateway.ReachedBy.conduct (reached : c.ReachedBy condition) {i : ι} {op : Op}
    {next : Reply op → LifeProgram Answer} (pending : c.threads i = .call op next) :
    Conduct (c.shared.own i) op := by
  refine (reached.along i).pending ?_
  rw [pending]
  rfl

/-- An invariant of the shared state: it holds at first, and every step within the conduct keeps it. -/
theorem Gateway.ReachedBy.state {P : Shared ι → Prop} (reached : c.ReachedBy condition)
    (first : P .initial)
    (kept : ∀ (s : Shared ι) i op reply, P s → Conduct (s.own i) op → (thread i).permits s op reply →
      condition s op reply → P ((thread i).after s op reply)) : P c.shared := by
  induction reached with
  | refl => exact first
  | tail before step ih =>
    cases step with
    | act i pending reply permitted =>
      exact kept _ i _ reply ih (Gateway.ReachedBy.conduct before pending) permitted.1 permitted.2
    | start i ended starts => exact ih

/-! ### The counters -/

theorem guardStep_phase (own : Own) (op : GuardOp) (reply : GuardReply op) :
    (own.guardStep op reply).phase = own.phase := by
  cases op with
  | tryLock handle mode => cases reply <;> rfl
  | _ => rfl

theorem guardStep_queries (own : Own) (op : GuardOp) (reply : GuardReply op) :
    (own.guardStep op reply).queries = own.queries := by
  cases op with
  | tryLock handle mode => cases reply <;> rfl
  | _ => rfl

/-- The counters of the queries in flight. -/
structure Counts (s : Shared ι) : Prop where
  flying : ∀ i n, (i, n) ∈ s.flying ↔ (s.own i).phase ≠ .outside ∧ n = (s.own i).queries
  inFlight : s.inFlight = s.flying.card
  balance : s.admitted = s.exited + s.flying.card

omit [DecidableEq ι] in
/-- Steps that leave the counters and, of the thread's history, its place and its number of queries. -/
theorem Counts.same {s s' : Shared ι} (counts : Counts s) (flying : s'.flying = s.flying)
    (inFlight : s'.inFlight = s.inFlight) (admitted : s'.admitted = s.admitted)
    (exited : s'.exited = s.exited)
    (own : ∀ j, ((s'.own j).phase ≠ .outside ↔ (s.own j).phase ≠ .outside) ∧
      (s'.own j).queries = (s.own j).queries) : Counts s' := by
  refine ⟨fun j n => ?_, ?_, ?_⟩
  · rw [flying, counts.flying, (own j).1, (own j).2]
  · rw [inFlight, flying, counts.inFlight]
  · rw [admitted, exited, flying, counts.balance]

/-- A step that leaves the counters, of a thread that stays where it is. -/
theorem Counts.staying {s s' : Shared ι} (counts : Counts s) {i : ι} {own : Own}
    (moved : s'.own = Function.update s.own i own) (flying : s'.flying = s.flying)
    (inFlight : s'.inFlight = s.inFlight) (admitted : s'.admitted = s.admitted)
    (exited : s'.exited = s.exited) (phase : own.phase ≠ .outside ↔ (s.own i).phase ≠ .outside)
    (queries : own.queries = (s.own i).queries) : Counts s' := by
  refine counts.same flying inFlight admitted exited fun j => ?_
  rw [moved]
  exact (Function.forall_update_iff _ (fun j (own : Own) => (own.phase ≠ .outside ↔ (s.own j).phase ≠ .outside) ∧
    own.queries = (s.own j).queries)).mpr ⟨⟨phase, queries⟩, fun _ _ => ⟨Iff.rfl, rfl⟩⟩ j

/-- A query that is admitted. -/
theorem Counts.admission {s : Shared ι} (counts : Counts s) {i : ι} (outside : (s.own i).phase = .outside) :
    Counts ((thread i).after s (.inr .admission) true) := by
  have fresh : (i, (s.own i).queries) ∉ s.flying := fun flies => ((counts.flying _ _).mp flies).1 outside
  have card : (insert (i, (s.own i).queries) s.flying).card = s.flying.card + 1 :=
    Finset.card_insert_of_notMem fresh
  refine ⟨fun j n => ?_, ?_, ?_⟩
  · show (j, n) ∈ insert (i, (s.own i).queries) s.flying ↔ _
    rw [Finset.mem_insert, counts.flying]
    refine (Function.forall_update_iff _ (fun j (own : Own) => ((j, n) = (i, (s.own i).queries) ∨
      (s.own j).phase ≠ .outside ∧ n = (s.own j).queries) ↔ own.phase ≠ .outside ∧ n = own.queries)).mpr
      ⟨?_, fun k apart => ?_⟩ j
    · constructor
      · rintro (same | ⟨inside, _⟩)
        · exact ⟨(fun none => nomatch none), congrArg Prod.snd same⟩
        · exact absurd outside inside
      · exact fun flies => Or.inl (congrArg (Prod.mk i) flies.2)
    · exact or_iff_right fun same => apart (congrArg Prod.fst same)
  · show s.inFlight + 1 = ((insert (i, (s.own i).queries) s.flying).card : ℤ)
    rw [card, counts.inFlight]
    push_cast
    rfl
  · show s.admitted + 1 = s.exited + (insert (i, (s.own i).queries) s.flying).card
    rw [card, counts.balance, Nat.add_assoc]

/-- A query that exits. -/
theorem Counts.exit {s : Shared ι} (counts : Counts s) {i : ι} (inside : (s.own i).phase ≠ .outside) :
    Counts ((thread i).after s (.inr .exit) ()) := by
  have flies : (i, (s.own i).queries) ∈ s.flying := (counts.flying _ _).mpr ⟨inside, rfl⟩
  have card : (s.flying.erase (i, (s.own i).queries)).card + 1 = s.flying.card :=
    Finset.card_erase_add_one flies
  refine ⟨fun j n => ?_, ?_, ?_⟩
  · show (j, n) ∈ s.flying.erase (i, (s.own i).queries) ↔ _
    rw [Finset.mem_erase, counts.flying]
    refine (Function.forall_update_iff _ (fun j (own : Own) => ((j, n) ≠ (i, (s.own i).queries) ∧
      (s.own j).phase ≠ .outside ∧ n = (s.own j).queries) ↔ own.phase ≠ .outside ∧ n = own.queries)).mpr
      ⟨?_, fun k apart => ?_⟩ j
    · constructor
      · rintro ⟨other, _, same⟩
        exact absurd (congrArg (Prod.mk i) same) other
      · exact fun none => absurd rfl none.1
    · exact and_iff_right fun same => apart (congrArg Prod.fst same)
  · show s.inFlight - 1 = ((s.flying.erase (i, (s.own i).queries)).card : ℤ)
    rw [counts.inFlight, ← card]
    push_cast
    exact add_sub_cancel_right _ _
  · show s.admitted = s.exited + 1 + (s.flying.erase (i, (s.own i).queries)).card
    rw [counts.balance, ← card]
    omega

theorem counts_kept (s : Shared ι) (i : ι) (op : Op) (reply : Reply op) (counts : Counts s)
    (conduct : Conduct (s.own i) op) : Counts ((thread i).after s op reply) := by
  cases op with
  | inl op =>
    have phase := guardStep_phase (s.own i) op reply
    exact counts.staying rfl rfl rfl rfl rfl (iff_of_eq (congrArg (· ≠ Phase.outside) phase))
      (guardStep_queries _ _ _)
  | inr op =>
    cases op with
    | admission =>
      cases reply with
      | false => exact counts.staying rfl rfl rfl rfl rfl Iff.rfl rfl
      | true => exact counts.admission conduct.1
    | exit => exact counts.exit conduct.1
    | work =>
      refine counts.staying rfl rfl rfl rfl rfl (iff_of_true (fun none => nomatch none) ?_) rfl
      exact fun outside => nomatch outside.symm.trans conduct.1
    | poll deadline =>
      cases reply with
      | none => exact counts.staying rfl rfl rfl rfl rfl Iff.rfl rfl
      | some remaining =>
        show Counts (Shared.setOwn (if remaining ≠ 0 then _ else s) i _)
        split
        · exact counts.staying rfl rfl rfl rfl rfl Iff.rfl rfl
        · exact counts.staying rfl rfl rfl rfl rfl Iff.rfl rfl
    | readOutcome => cases reply <;> exact counts.staying rfl rfl rfl rfl rfl Iff.rfl rfl
    | _ => exact counts.staying rfl rfl rfl rfl rfl Iff.rfl rfl

theorem Gateway.ReachedBy.counts (reached : c.ReachedBy condition) : Counts c.shared := by
  refine reached.state ⟨fun i n => ?_, rfl, rfl⟩ fun s i op reply counts conduct _ _ =>
    counts_kept s i op reply counts conduct
  exact iff_of_false (Finset.notMem_empty _) fun flies => flies.1 rfl

/-! ### Draining -/

/-- Once a drain has started, it goes on, and no query is admitted. -/
theorem admitted_draining {s : Shared ι} {i : ι} {op : Op} {reply : Reply op}
    (draining : s.draining = true) (permitted : (thread i).permits s op reply) :
    ((thread i).after s op reply).draining = true ∧
      ((thread i).after s op reply).admitted = s.admitted := by
  cases op with
  | inl op => exact ⟨draining, rfl⟩
  | inr op =>
    cases op with
    | admission =>
      have refused : reply = !s.draining := permitted
      rw [draining] at refused
      obtain rfl : reply = false := refused
      exact ⟨draining, rfl⟩
    | startDrain => exact ⟨rfl, rfl⟩
    | poll deadline =>
      cases reply with
      | none => exact ⟨draining, rfl⟩
      | some remaining =>
        show (Shared.setOwn (if remaining ≠ 0 then _ else s) i _).draining = true ∧
          (Shared.setOwn (if remaining ≠ 0 then _ else s) i _).admitted = s.admitted
        split
        · exact ⟨draining, rfl⟩
        · exact ⟨draining, rfl⟩
    | _ => exact ⟨draining, rfl⟩

/-- No query is admitted later on either. -/
theorem reachable_draining (draining : c.shared.draining = true)
    (later : Config.Reachable (threads condition) Begins c c') :
    c'.shared.draining = true ∧ c'.shared.admitted = c.shared.admitted := by
  induction later with
  | refl => exact ⟨draining, rfl⟩
  | tail _ step ih =>
    cases step with
    | act i pending reply permitted =>
      have next := admitted_draining ih.1 permitted.1
      exact ⟨next.1, next.2.trans ih.2⟩
    | start i ended starts => exact ih

end AxiomMcp.Lifecycle
