/-
**Concurrent queries on one lifecycle.**

Two queries that use the guard at the same time disturb each other: the table of held guards and its checks
are shared, so the second one is refused by the checks (`queries_disturb`). The runs without that are those
in which a query checks the guard only while no other one is busy with it, on an operating system that does
not fail (`spaced`).

* `Witnessed`: a lifecycle with the account that each thread keeps of its own use of the guard;
* `Linked`: what ties the accounts to the guard;
* `queries_undisturbed`: in such a run a query fails to get its guard only by a timeout or a cancellation,
  has `data.lock` in its block, and all handles are closed after all queries have exited.
-/

import AxiomMcp.Guard.Processes
import AxiomMcp.Lifecycle.Counts
import AxiomMcp.Lifecycle.Uses

namespace AxiomMcp.Lifecycle

open Lib Program Machine Guard

variable {ι : Type} [DecidableEq ι]

/-- A lifecycle and the accounts of its threads. -/
structure Witnessed (ι : Type) where
  life : Shared ι
  uses : ι → Use

/-- A lifecycle that was just made. -/
def Witnessed.initial : Witnessed ι := ⟨.initial, fun _ => .initial⟩

/-- The steps of one thread, which keeps account of them. -/
def user (i : ι) : Machine Op Reply (Witnessed ι) where
  permits w op := (thread i).permits w.life op
  after w op reply := ⟨(thread i).after w.life op reply,
    Function.update w.uses i ((w.uses i).after op reply)⟩

/-- A query checks the guard only while no other one is busy with it, and on its way to its block nothing
fails. -/
def spaced (inode : Text → Text) (i : ι) (w : Witnessed ι) : (op : Op) → Reply op → Prop
  | .inl op, reply => (op = .isClosed → ∀ j, j ≠ i → (w.uses j).busy = false) ∧
      ((w.uses i).served = false → Healthy inode (w.uses i) op reply)
  | .inr _, _ => True

/-- The steps of one thread in a run that meets the condition. -/
def spacedUser (inode : Text → Text) (i : ι) : Machine Op Reply (Witnessed ι) := (user i).restrict (spaced inode i)

/-- What a thread calls while there is no drain. -/
inductive Queries (i : ι) : LifeProgram Answer → Prop
  | query (settings : Settings) (rounds : ℕ) : Queries i (query settings rounds)

/-- Threads that keep account. -/
abbrev Account (ι : Type) := Config ι Op Reply Raised Answer (Witnessed ι)

/-- No thread has called anything. -/
def Account.initial : Account ι := ⟨.initial, fun _ => .done .answered⟩

/-! ### The table -/

variable {w w' : Witnessed ι} {i : ι} {u : Use}

/-- One thread at a time is busy with the table, which holds what that thread has stored. -/
structure Tables (w : Witnessed ι) : Prop where
  one : ∀ i j, (w.uses i).busy = true → (w.uses j).busy = true → i = j
  table : ∀ i, (w.uses i).busy = true → w.life.guard.held = (w.uses i).table
  idle : ∀ i, (w.uses i).busy = false → (w.uses i).table = []
  free : (∀ i, (w.uses i).busy = false) → w.life.guard.held = []

/-- A step that leaves the table. -/
theorem Tables.same (tables : Tables w) (moved : w'.uses = Function.update w.uses i u)
    (held : w'.life.guard.held = w.life.guard.held) (busy : u.busy = (w.uses i).busy)
    (table : u.table = (w.uses i).table) : Tables w' := by
  have same : ∀ j, (w'.uses j).busy = (w.uses j).busy ∧ (w'.uses j).table = (w.uses j).table := by
    intro j
    rw [moved]
    exact (Function.forall_update_iff _ (fun j (use : Use) => use.busy = (w.uses j).busy ∧
      use.table = (w.uses j).table)).mpr
      ⟨⟨busy, table⟩, fun _ _ => ⟨rfl, rfl⟩⟩ j
  refine ⟨fun j k => ?_, fun j => ?_, fun j => ?_, fun none => ?_⟩
  · rw [(same j).1, (same k).1]
    exact tables.one j k
  · rw [(same j).1, (same j).2, held]
    exact tables.table j
  · rw [(same j).1, (same j).2]
    exact tables.idle j
  · rw [held]
    exact tables.free fun j => (same j).1.symm.trans (none j)

/-- A step after which the table is that of a thread that no other one was busy beside. -/
theorem Tables.moved (tables : Tables w) (alone : ∀ j, j ≠ i → (w.uses j).busy = false)
    (moved : w'.uses = Function.update w.uses i u) (held : w'.life.guard.held = u.table)
    (ends : u.busy = false → u.table = []) : Tables w' := by
  have here : w'.uses i = u := by
    rw [moved, Function.update_self]
  have others : ∀ j, j ≠ i → w'.uses j = w.uses j := fun j other => by
    rw [moved, Function.update_of_ne other]
  have busy : ∀ j, (w'.uses j).busy = true → j = i := by
    intro j busy
    by_contra other
    rw [others j other, alone j other] at busy
    cases busy
  refine ⟨fun j k first second => ?_, fun j first => ?_, fun j idle => ?_, fun none => ?_⟩
  · rw [busy j first, busy k second]
  · rw [busy j first, here, held]
  · by_cases same : j = i
    · rw [same, here] at idle ⊢
      exact ends idle
    · rw [others j same]
      exact tables.idle j (alone j same)
  · have idle := none i
    rw [here] at idle
    rw [held, ends idle]

omit [DecidableEq ι] in
/-- No other thread is busy beside one that is. -/
theorem Tables.alone (tables : Tables w) (busy : (w.uses i).busy = true) (j : ι) (other : j ≠ i) :
    (w.uses j).busy = false := by
  by_contra also
  exact other (tables.one j i (Bool.not_eq_false _ ▸ also) busy)

theorem tables_kept {inode : Text → Text} {op : Op} {reply : Reply op} (tables : Tables w)
    (may : May (w.uses i) op) (meets : spaced inode i w op reply) :
    Tables ((user i).after w op reply) := by
  cases op with
  | inl op =>
    cases op with
    | isClosed =>
      refine tables.moved (meets.1 rfl) rfl ?_ fun none => nomatch none
      show w.life.guard.held = (w.uses i).table
      by_cases busy : (w.uses i).busy = true
      · exact tables.table i busy
      · have idle : (w.uses i).busy = false := Bool.not_eq_true _ ▸ busy
        rw [tables.idle i idle]
        refine tables.free fun j => ?_
        by_cases same : j = i
        · rw [same]
          exact idle
        · exact meets.1 rfl j same
    | store entry =>
      refine tables.moved (tables.alone may.1) rfl ?_ fun none => nomatch may.1.symm.trans none
      have absent : w.life.guard.get? entry.name = none := by
        rw [SolutionGuard.get?, tables.table i may.1]
        exact may.2
      show (w.life.guard.store entry).held = (w.uses i).table ++ [entry]
      rw [SolutionGuard.store_new absent, ← tables.table i may.1]
    | pop name =>
      refine tables.moved (tables.alone may.1) rfl ?_ fun idle => may.2 ?_
      · show (w.life.guard.held.filter fun held => held.name ≠ name) = _
        rw [tables.table i may.1]
        rfl
      · change ((w.uses i).busy && !(w.uses i).served) = false at idle
        rw [may.1, Bool.true_and, Bool.not_eq_false'] at idle
        exact idle
    | openFile name => cases reply <;> exact tables.same rfl rfl rfl rfl
    | tryLock handle mode => cases reply <;> exact tables.same rfl rfl rfl rfl
    | unlock handle => cases reply <;> exact tables.same rfl rfl rfl rfl
    | _ => exact tables.same rfl rfl rfl rfl
  | inr op =>
    have guard := congrArg SolutionGuard.held (life_guard w.life i op reply).1
    cases op with
    | exit =>
      have clear : (w.uses i).Clear := may
      by_cases busy : (w.uses i).busy = true
      · refine tables.moved (tables.alone busy) rfl ?_ fun _ => clear.table
        exact tables.table i busy
      · exact tables.same rfl rfl (Bool.not_eq_true _ ▸ busy).symm rfl
    | admission => exact tables.same rfl guard rfl rfl
    | work => exact tables.same rfl guard rfl rfl
    | _ => exact may.elim

/-! ### The handles -/

/-- The handles that are open, each with its lock. -/
def openLocks (guard : SolutionGuard) (handle : Handle) : Option (Option LockMode) :=
  guard.handles[handle]?.bind fun state => if state.isOpen then some state.lock else none

theorem openLocks_update {guard : SolutionGuard} {handle : Handle} {change : HandleState → HandleState}
    {lock : Option (Option LockMode)}
    (changed : ∀ state, guard.handles[handle]? = some state →
      (if (change state).isOpen then some (change state).lock else none) = lock)
    (there : openLocks guard handle ≠ none) :
    openLocks (guard.update handle change) = Function.update (openLocks guard) handle lock := by
  funext other
  show (guard.handles.modify handle change)[other]?.bind _ = _
  by_cases same : other = handle
  · subst same
    rw [Function.update_self, List.getElem?_modify_eq]
    cases found : guard.handles[other]? with
    | none =>
      rw [openLocks, found] at there
      exact absurd rfl there
    | some state => exact changed state found
  · rw [Function.update_of_ne same, List.getElem?_modify_ne _ _ (Ne.symm same)]
    rfl

/-- A change of what is not open and locked. -/
theorem openLocks_kept {guard : SolutionGuard} {handle : Handle} {change : HandleState → HandleState}
    (kept : ∀ state, (change state).isOpen = state.isOpen ∧ (change state).lock = state.lock) :
    openLocks (guard.update handle change) = openLocks guard := by
  funext other
  show (guard.handles.modify handle change)[other]?.bind _ = guard.handles[other]?.bind _
  by_cases same : handle = other
  · subst same
    rw [List.getElem?_modify_eq]
    cases guard.handles[handle]? with
    | none => rfl
    | some state =>
      show (if (change state).isOpen then some (change state).lock else none) = _
      rw [(kept state).1, (kept state).2]
      rfl
  · rw [List.getElem?_modify_ne _ _ same]

/-- The next handle is not open yet. -/
theorem openLocks_next {guard : SolutionGuard} {handle : Handle} (next : handle = guard.handles.length) :
    openLocks guard handle = none := by
  rw [openLocks, next, List.getElem?_eq_none le_rfl]
  rfl

/-- Every open handle is in the account of one thread, with its lock. -/
structure Handles (w : Witnessed ι) : Prop where
  known : ∀ i handle known, (w.uses i).opens handle = some known →
    openLocks w.life.guard handle = some known.2
  apart : ∀ i j handle, (w.uses i).opens handle ≠ none → (w.uses j).opens handle ≠ none → i = j
  owned : ∀ handle, openLocks w.life.guard handle ≠ none → ∃ i, (w.uses i).opens handle ≠ none

/-- A step that leaves what is open and locked. -/
theorem Handles.same (handles : Handles w) (moved : w'.uses = Function.update w.uses i u)
    (opens : u.opens = (w.uses i).opens) (locks : openLocks w'.life.guard = openLocks w.life.guard) :
    Handles w' := by
  have same : ∀ j, (w'.uses j).opens = (w.uses j).opens := by
    rw [moved]
    exact (Function.forall_update_iff _ fun j (use : Use) => use.opens = (w.uses j).opens).mpr
      ⟨opens, fun _ _ => rfl⟩
  refine ⟨fun j => ?_, fun j k => ?_, ?_⟩
  · rw [same j, locks]
    exact handles.known j
  · rw [same j, same k]
    exact handles.apart j k
  · simp only [same, locks]
    exact handles.owned

/-- A step of a thread on a handle of its own, or on one that was not open. -/
theorem Handles.moved (handles : Handles w) {handle : Handle} {known : Option (Text × Option LockMode)}
    (own : (w.uses i).opens handle ≠ none ∨ openLocks w.life.guard handle = none)
    (moved : w'.uses = Function.update w.uses i u)
    (opens : u.opens = Function.update (w.uses i).opens handle known)
    (locks : openLocks w'.life.guard = Function.update (openLocks w.life.guard) handle (known.map Prod.snd)) :
    Handles w' := by
  have alone : ∀ j, j ≠ i → (w.uses j).opens handle = none := by
    intro j other
    by_contra mine
    rcases own with also | closed
    · exact other (handles.apart j i handle mine also)
    · obtain ⟨lock, locked⟩ := Option.ne_none_iff_exists'.mp mine
      exact nomatch closed.symm.trans (handles.known j handle lock locked)
  have here : (w'.uses i).opens handle = known := by
    rw [moved, Function.update_self, opens, Function.update_self]
  have elsewhere : ∀ j other, ¬ (j = i ∧ other = handle) →
      (w'.uses j).opens other = (w.uses j).opens other := by
    intro j other apart
    by_cases same : j = i
    · subst same
      rw [moved, Function.update_self, opens, Function.update_of_ne fun same => apart ⟨rfl, same⟩]
    · rw [moved, Function.update_of_ne same]
  have nobody : ∀ j, (w'.uses j).opens handle ≠ none → j = i := by
    intro j mine
    by_contra other
    rw [elsewhere j handle fun both => other both.1, alone j other] at mine
    exact mine rfl
  refine ⟨fun j other found opened => ?_, fun j k other first second => ?_, fun other there => ?_⟩
  · rw [locks]
    by_cases same : other = handle
    · subst same
      obtain rfl : j = i := nobody j fun none => nomatch opened.symm.trans none
      rw [Function.update_self, ← here, opened]
      rfl
    · rw [Function.update_of_ne same]
      rw [elsewhere j other fun both => same both.2] at opened
      exact handles.known j other found opened
  · by_cases same : other = handle
    · subst same
      rw [nobody j first, nobody k second]
    · rw [elsewhere j other fun both => same both.2] at first
      rw [elsewhere k other fun both => same both.2] at second
      exact handles.apart j k other first second
  · rw [locks] at there
    by_cases same : other = handle
    · subst same
      rw [Function.update_self] at there
      exact ⟨i, fun none => there (by rw [← here, none]; rfl)⟩
    · rw [Function.update_of_ne same] at there
      obtain ⟨j, mine⟩ := handles.owned other there
      refine ⟨j, ?_⟩
      rw [elsewhere j other fun both => same both.2]
      exact mine

omit [DecidableEq ι] in
/-- A handle of one's own is open. -/
theorem Handles.open (handles : Handles w) {handle : Handle} (own : (w.uses i).opens handle ≠ none) :
    openLocks w.life.guard handle ≠ none := by
  obtain ⟨lock, known⟩ := Option.ne_none_iff_exists'.mp own
  exact fun none => nomatch (handles.known i handle lock known).symm.trans none

/-- What is open stays so under a change that keeps it open. -/
theorem isOpen_of_openLocks {guard : SolutionGuard} {handle : Handle} {state : HandleState}
    (there : openLocks guard handle ≠ none) (found : guard.handles[handle]? = some state) :
    state.isOpen = true := by
  rw [openLocks, found] at there
  by_contra closed
  exact there (if_neg closed)

theorem handles_kept {op : Op} {reply : Reply op} (handles : Handles w) (may : May (w.uses i) op)
    (permitted : (user i).permits w op reply) : Handles ((user i).after w op reply) := by
  cases op with
  | inl op =>
    cases op with
    | store entry =>
      refine handles.same rfl rfl ?_
      show openLocks (w.life.guard.store entry) = _
      unfold SolutionGuard.store
      split <;> rfl
    | openFile name =>
      cases reply with
      | error raised => exact handles.same rfl rfl rfl
      | ok handle =>
        have next : handle = w.life.guard.handles.length := permitted handle rfl
        have fresh := openLocks_next next
        refine handles.moved (Or.inr fresh) rfl rfl ?_
        funext other
        show (w.life.guard.handles ++ [.fresh name])[other]?.bind _ = _
        rcases lt_trichotomy other w.life.guard.handles.length with below | same | above
        · rw [List.getElem?_append_left below, Function.update_of_ne fun same => below.ne (same.trans next)]
          rfl
        · rw [same, ← next, Function.update_self, next, List.getElem?_concat_length]
          rfl
        · rw [Function.update_of_ne fun same => above.ne' (same.trans next), openLocks,
            List.getElem?_eq_none above.le, List.getElem?_eq_none]
          rw [List.length_append]
          exact above
    | identity handle =>
      refine handles.same rfl rfl (openLocks_kept fun state => ?_)
      cases reply with
      | ok _ => exact ⟨rfl, rfl⟩
      | error raised => cases raised <;> exact ⟨rfl, rfl⟩
    | tryLock handle mode =>
      cases reply with
      | error raised => exact handles.same rfl rfl (openLocks_kept fun state => ⟨rfl, rfl⟩)
      | ok _ =>
        obtain ⟨known, own⟩ := Option.ne_none_iff_exists'.mp may
        refine handles.moved (Or.inl may) rfl rfl (openLocks_update (fun state found => ?_) (handles.open may))
        rw [own]
        exact if_pos (isOpen_of_openLocks (handles.open may) found)
    | unlock handle =>
      cases reply with
      | error raised => exact handles.same rfl rfl (openLocks_kept fun state => ⟨rfl, rfl⟩)
      | ok _ =>
        obtain ⟨known, own⟩ := Option.ne_none_iff_exists'.mp may
        refine handles.moved (Or.inl may) rfl rfl (openLocks_update (fun state found => ?_) (handles.open may))
        rw [own]
        exact if_pos (isOpen_of_openLocks (handles.open may) found)
    | closeHandle handle =>
      exact handles.moved (Or.inl may) rfl rfl (openLocks_update (fun _ _ => rfl) (handles.open may))
    | _ => exact handles.same rfl rfl rfl
  | inr op =>
    have locks := congrArg openLocks (life_guard w.life i op reply).1
    cases op with
    | admission => exact handles.same rfl rfl locks
    | work => exact handles.same rfl rfl locks
    | exit => exact handles.same rfl rfl locks
    | _ => exact may.elim

/-! ### Every interleaving -/

/-- What ties the accounts to the lifecycle. -/
structure Linked (w : Witnessed ι) : Prop where
  opened : w.life.guard.closed = false
  admits : w.life.draining = false
  tables : Tables w
  handles : Handles w
  shut : ∀ (handle : Handle) state, w.life.guard.handles[handle]? = some state →
    state.isOpen = false → state.lock = none

omit [DecidableEq ι] in
theorem linked_initial : Linked (.initial : Witnessed ι) where
  opened := rfl
  admits := rfl
  tables := ⟨(fun _ _ busy => nomatch busy), (fun _ busy => nomatch busy), fun _ _ => rfl, fun _ => rfl⟩
  handles := ⟨(fun _ _ _ none => nomatch none), fun _ _ _ none => absurd rfl none,
    fun _ none => absurd rfl none⟩
  shut _ _ none := nomatch none

omit [DecidableEq ι] in
/-- A handle that is closed has no lock, before a step and after it. -/
theorem shut_kept {op : GuardOp} {reply : GuardReply op} (linked : Linked w) (may : (w.uses i).may op)
    (handle : Handle) (state : HandleState)
    (found : (machine.after w.life.guard op reply).handles[handle]? = some state)
    (closed : state.isOpen = false) : state.lock = none := by
  cases op with
  | store entry =>
    refine linked.shut handle state ?_ closed
    change (w.life.guard.store entry).handles[handle]? = _ at found
    unfold SolutionGuard.store at found
    split at found
    · exact found
    · exact found
  | openFile name =>
    cases reply with
    | error raised => exact linked.shut handle state found closed
    | ok next =>
      change (w.life.guard.handles ++ [.fresh name])[handle]? = _ at found
      rw [List.getElem?_append] at found
      split at found
      · exact linked.shut handle state found closed
      · obtain rfl := List.mem_singleton.mp (List.mem_of_getElem? found)
        cases closed
  | identity target =>
    obtain ⟨old, there, rfl | ⟨_, rfl⟩⟩ := update_source found
    · exact linked.shut handle state there closed
    · have same : (old.read reply).isOpen = old.isOpen ∧ (old.read reply).lock = old.lock := by
        cases reply with
        | ok _ => exact ⟨rfl, rfl⟩
        | error raised => cases raised <;> exact ⟨rfl, rfl⟩
      rw [same.1] at closed
      rw [same.2]
      exact linked.shut handle old there closed
  | tryLock target mode =>
    obtain ⟨old, there, rfl | ⟨same, rfl⟩⟩ := update_source found
    · exact linked.shut handle state there closed
    · cases reply with
      | error raised => exact linked.shut handle old there closed
      | ok _ =>
        have own : (w.uses i).opens target ≠ none := may
        rw [same] at own
        exact nomatch (isOpen_of_openLocks (linked.handles.open own) there).symm.trans closed
  | unlock target =>
    obtain ⟨old, there, rfl | ⟨_, rfl⟩⟩ := update_source found
    · exact linked.shut handle state there closed
    · cases reply with
      | error raised => exact linked.shut handle old there closed
      | ok _ => rfl
  | closeHandle target =>
    obtain ⟨old, there, rfl | ⟨_, rfl⟩⟩ := update_source found
    · exact linked.shut handle state there closed
    · rfl
  | _ => exact linked.shut handle state found closed

variable {inode : Text → Text}

theorem linked_kept {op : Op} {reply : Reply op} (linked : Linked w) (may : May (w.uses i) op)
    (permitted : (spacedUser inode i).permits w op reply) : Linked ((user i).after w op reply) := by
  have tables := tables_kept linked.tables may permitted.2
  have handles := handles_kept linked.handles may permitted.1
  cases op with
  | inl op =>
    refine ⟨?_, linked.admits, tables, handles, shut_kept linked may⟩
    show (machine.after w.life.guard op reply).closed = false
    cases op with
    | store entry =>
      show (w.life.guard.store entry).closed = false
      unfold SolutionGuard.store
      split <;> exact linked.opened
    | openFile name => cases reply <;> exact linked.opened
    | markClosed => exact may.elim
    | _ => exact linked.opened
  | inr op =>
    have same : ((user i).after w (.inr op) reply).life.guard = w.life.guard := (life_guard _ _ _ _).1
    refine ⟨?_, ?_, tables, handles, ?_⟩
    · rw [same]
      exact linked.opened
    · cases op with
      | admission => cases reply <;> exact linked.admits
      | work => exact linked.admits
      | exit => exact linked.admits
      | _ => exact may.elim
    · rw [same]
      exact linked.shut

omit [DecidableEq ι] in
/-- How a thread that may ask finds the guard. -/
theorem linked_answers {op : GuardOp} {reply : GuardReply op} (linked : Linked w)
    (may : (w.uses i).may op) (permitted : machine.permits w.life.guard op reply) :
    (w.uses i).answers op reply := by
  cases op with
  | isClosed => exact Eq.trans permitted linked.opened
  | heldGet name =>
    refine Eq.trans permitted ?_
    rw [SolutionGuard.get?, linked.tables.table i may]
    rfl
  | heldTable => exact Eq.trans permitted (linked.tables.table i may)
  | pop name =>
    refine Eq.trans permitted ?_
    rw [SolutionGuard.get?, linked.tables.table i may.1]
    rfl
  | openFile name =>
    cases reply with
    | error raised => exact trivial
    | ok handle =>
      show (w.uses i).opens handle = none
      by_contra own
      exact linked.handles.open own (openLocks_next (permitted handle rfl))
  | _ => exact trivial

theorem linked_coupled (inode : Text → Text) :
    Config.Coupled (spacedUser inode) (fun _ : ι => useMachine inode) (fun i w => w.uses i)
      (fun _ => May) Linked where
  permits i w op reply linked may permitted := by
    cases op with
    | inl op => exact ⟨linked_answers linked may permitted.1, permitted.2.2⟩
    | inr op =>
      cases op with
      | admission =>
        have admits : reply = !w.life.draining := permitted.1
        rw [linked.admits] at admits
        exact admits
      | _ => exact trivial
  own i w op reply := Function.update_self i _ _
  others i j w op reply different := Function.update_of_ne different _ _
  kept i w op reply linked may permitted := linked_kept linked may permitted

/-- **Queries that use the guard one after another do not disturb each other.** One that fails to get its
guard was timed out or cancelled; in its block it has `data.lock`, with an open handle of its own that has
the lock; and after all queries have exited every handle is released and closed. -/
theorem queries_undisturbed (inode : Text → Text) (c : Account ι)
    (reached : Config.Reachable (spacedUser inode) Queries Account.initial c) :
    (∀ i raised, c.threads i = .raise raised → (c.shared.uses i).served = false →
        endsWait raised = true) ∧
      (∀ i, (c.threads i).pending = some (.inr .work) → ∃ handle,
        (c.shared.uses i).Holds ⟨"data.lock", .shared, handle⟩ ∧
          c.shared.life.guard.held = [⟨"data.lock", .shared, handle⟩] ∧
            openLocks c.shared.life.guard handle = some (some .shared)) ∧
      ((∀ i, (c.threads i).Ended ∨ (c.threads i).pending = some (.inr .admission)) →
        c.shared.life.guard.held = [] ∧
          ∀ state ∈ c.shared.life.guard.handles, state.isOpen = false ∧ state.lock = none) := by
  have again : ∀ (i : ι) (p : LifeProgram Answer) (u : Use) (outcome : Except Raised Answer),
      Queries i p → Finished outcome u → (useMachine inode).Along May Finished p u := by
    intro i p u outcome begins finished
    cases begins with
    | query settings rounds => exact query_uses finished.1 finished.2.1
  have first : Config.AllAlong (fun _ : ι => useMachine inode) (fun i w => w.uses i) (fun _ => May)
      (fun _ => Finished) Account.initial := fun i => ⟨rfl, ⟨rfl, rfl⟩, fun _ none => nomatch none⟩
  obtain ⟨linked, along⟩ := reached.coupled (linked_coupled inode) again linked_initial first
  refine ⟨fun i raised left unserved => ?_, fun i works => ?_, fun exited => ?_⟩
  · have ended := along i
    rw [left] at ended
    exact ended.2.2 raised rfl unserved
  · obtain ⟨handle, holds⟩ := (along i).pending works
    refine ⟨handle, holds, (linked.tables.table i holds.busy).trans holds.table, ?_⟩
    refine linked.handles.known i handle ("data.lock", some .shared) ?_
    rw [holds.opens, Function.update_self]
  · have rests : ∀ i, (c.shared.uses i).busy = false ∧ (c.shared.uses i).Clear := by
      intro i
      rcases exited i with ended | waits
      · have along := along i
        cases left : c.threads i with
        | done a => rw [left] at along; exact ⟨along.1, along.2.1⟩
        | raise raised => rw [left] at along; exact ⟨along.1, along.2.1⟩
        | call op next => rw [left] at ended; exact ended.elim
        | stuck op => rw [left] at ended; exact ended.elim
      · exact (along i).pending waits
    refine ⟨linked.tables.free fun i => (rests i).1, fun state member => ?_⟩
    obtain ⟨handle, found⟩ := List.mem_iff_getElem?.mp member
    have closed : state.isOpen = false := by
      by_contra there
      have locked : openLocks c.shared.life.guard handle ≠ none := by
        rw [openLocks, found]
        exact fun none => nomatch (if_pos (Bool.not_eq_false _ ▸ there)).symm.trans none
      obtain ⟨i, own⟩ := linked.handles.owned handle locked
      rw [(rests i).2.opens] at own
      exact own rfl
    exact ⟨closed, linked.shut handle state found closed⟩

/-! ### Two queries at once -/

/-- A query that has begun. -/
def oneQuery : Account Bool :=
  ⟨.initial, Function.update (Account.initial : Account Bool).threads false (query defaults 1)⟩

/-- Two queries that have begun. -/
def twoQueries : Account Bool := ⟨.initial, Function.update oneQuery.threads true (query defaults 1)⟩

theorem twoQueries_reached (M : Bool → Machine Op Reply (Witnessed Bool)) :
    Config.Reachable M Queries Account.initial twoQueries := by
  have first : Config.Step M Queries Account.initial oneQuery :=
    .start false trivial (.query defaults 1)
  have second : Config.Step M Queries oneQuery twoQueries := .start true trivial (.query defaults 1)
  exact .tail (.tail .refl first) second

/-- What a thread has raised. -/
def raised? : LifeProgram Answer → Option Raised
  | .raise raised => some raised
  | _ => none

theorem raised?_some {p : LifeProgram Answer} {raised : Raised} (left : raised? p = some raised) :
    p = .raise raised := by
  unfold raised? at left
  split at left
  · cases left
    rfl
  · cases left

/-- The first query is in its block when the second one begins. -/
def overlapping : Account Bool :=
  Config.play user (fun _ w op => some (hasty w.life op)) (List.replicate 24 false ++ List.replicate 5 true)
    twoQueries

/-- The second of two queries fails to get its guard because the first one has it. -/
theorem queries_disturb : ∃ c : Account Bool, Config.Reachable user Queries Account.initial c ∧
    (c.threads false).pending = some (.inr .work) ∧
    ∃ raised, c.threads true = .raise raised ∧ (c.shared.uses true).served = false ∧
      endsWait raised = false := by
  have stands : (overlapping.threads false).pending = some (.inr .work) := by decide +kernel
  have ends : (raised? (overlapping.threads true)).map endsWait = some false := by decide +kernel
  have unserved : (overlapping.shared.uses true).served = false := by decide +kernel
  obtain ⟨raised, left, waits⟩ := Option.map_eq_some_iff.mp ends
  refine ⟨overlapping, ?_, stands, raised, raised?_some left, unserved, waits⟩
  refine (twoQueries_reached user).trans (Config.play_reachable (fun i w op reply answered => ?_) _ _)
  cases answered
  exact hasty_permitted i w.life op

instance healthyDecidable (inode : Text → Text) (use : Use) :
    (op : GuardOp) → (reply : GuardReply op) → Decidable (Healthy inode use op reply)
  | .identity handle, reply =>
    decidable_of_iff (∀ known ∈ use.opens handle, @Eq (Except Raised Text) reply (.ok (inode known.1))) Iff.rfl
  | .fileIdentity name, reply => inferInstanceAs (Decidable (@Eq (Except OSFault Text) reply (.ok (inode name))))
  | .tryLock _ _, .ok _ => isTrue trivial
  | .tryLock _ _, .error raised => inferInstanceAs (Decidable (isBusy raised = true))
  | .makeDirectory, .ok _ => isTrue trivial
  | .makeDirectory, .error _ => isFalse not_false
  | .openFile _, .ok _ => isTrue trivial
  | .openFile _, .error _ => isFalse not_false
  | .unlock _, .ok _ => isTrue trivial
  | .unlock _, .error _ => isFalse not_false
  | .closeHandle _, .ok _ => isTrue trivial
  | .closeHandle _, .error _ => isFalse not_false
  | .cancelled, .ok _ => isTrue trivial
  | .cancelled, .error _ => isFalse not_false
  | .sleep _, .ok _ => isTrue trivial
  | .sleep _, .error _ => isFalse not_false
  | .isClosed, _ => isTrue trivial
  | .heldGet _, _ => isTrue trivial
  | .heldTable, _ => isTrue trivial
  | .store _, _ => isTrue trivial
  | .pop _, _ => isTrue trivial
  | .markClosed, _ => isTrue trivial
  | .clock, _ => isTrue trivial

instance (inode : Text → Text) (i : Bool) (w : Witnessed Bool) :
    (op : Op) → (reply : Reply op) → Decidable (spaced inode i w op reply)
  | .inl op, reply =>
    haveI : Decidable (Healthy inode (w.uses i) op reply) := healthyDecidable inode (w.uses i) op reply
    inferInstanceAs (Decidable ((op = .isClosed → ∀ j, j ≠ i → (w.uses j).busy = false) ∧
      ((w.uses i).served = false → Healthy inode (w.uses i) op reply)))
  | .inr _, _ => isTrue trivial

/-- The second query is admitted while the first one is in its block, and checks the guard as soon as the
first one has popped its lock. -/
def succeeding : Account Bool :=
  Config.play (spacedUser plainIdentity)
    (fun i w op => if spaced plainIdentity i w op (hasty w.life op) then some (hasty w.life op) else none)
    (List.replicate 24 false ++ [true] ++ List.replicate 5 false ++ List.replicate 10 true ++
      List.replicate 3 false ++ List.replicate 40 true) twoQueries

theorem ended_of_pending {p : LifeProgram Answer} (none : p.pending = none) : p.Ended := by
  cases p with
  | done a => exact trivial
  | raise raised => exact trivial
  | call op next => cases none
  | stuck op => cases none

/-- Two queries that overlap, but use the guard one after another. -/
theorem queries_undisturbed_succeeding :
    succeeding.shared.life.finished = 2 ∧ succeeding.shared.life.guard.handles.length = 4 ∧
      ∀ state ∈ succeeding.shared.life.guard.handles, state.isOpen = false ∧ state.lock = none := by
  have none : ∀ i, (succeeding.threads i).pending = none := by decide +kernel
  have exited : ∀ i, (succeeding.threads i).Ended ∨ (succeeding.threads i).pending = some (.inr .admission) :=
    fun i => Or.inl (ended_of_pending (none i))
  have reached : Config.Reachable (spacedUser plainIdentity) Queries Account.initial succeeding := by
    refine (twoQueries_reached _).trans (Config.play_reachable (fun i w op reply answered => ?_) _ _)
    split at answered
    · rename_i meets
      cases answered
      exact ⟨hasty_permitted i w.life op, meets⟩
    · cases answered
  exact ⟨by decide +kernel, by decide +kernel, ((queries_undisturbed plainIdentity _ reached).2.2 exited).2⟩

end AxiomMcp.Lifecycle
