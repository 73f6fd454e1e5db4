/-
**The use that a query makes of the guard.**

A thread's own account of the guard (`Use`): which entries of the table it has stored, which handles it has
opened and what locks they got, and whether it is busy with the table. Between its first check of the guard
and its last access to the table a query reads the table as if no other thread were there.

* `useMachine`: the steps of a thread on its own account;
* `query_uses`: a query that nobody disturbs fails to get its guard only by a timeout or a cancellation, has
  `data.lock` in its block, and leaves nothing behind.
-/

import AxiomMcp.Lifecycle.Model

namespace AxiomMcp.Lifecycle

open Lib Program Machine Guard

/-- What a thread has done with the guard. -/
structure Use where
  /-- It has checked the guard, and may access the guard's table again. -/
  busy : Bool
  /-- Its last query has come to its block. -/
  served : Bool
  /-- The entries of the guard's table that it has stored and not popped. -/
  table : List HeldLock
  /-- The handles that it has opened and not closed, each with its file and its lock. -/
  opens : Handle → Option (Text × Option LockMode)

namespace Use

/-- A thread that has done nothing. -/
def initial : Use := ⟨false, false, [], fun _ => none⟩

def get? (use : Use) (name : Text) : Option HeldLock :=
  use.table.find? fun held => held.name = name

/-- Change what is known of one handle. -/
def put (use : Use) (handle : Handle) (known : Option (Text × Option LockMode)) : Use :=
  { use with opens := Function.update use.opens handle known }

/-- The lock of one handle changes. -/
def lock (use : Use) (handle : Handle) (mode : Option LockMode) : Use :=
  use.put handle ((use.opens handle).map fun known => (known.1, mode))

/-- A step of the engine. -/
def guardStep (use : Use) : (op : GuardOp) → GuardReply op → Use
  | .isClosed, _ => { use with busy := true }
  | .store entry, _ => { use with table := use.table ++ [entry] }
  -- a query that was served pops its guard last
  | .pop name, _ =>
    { use with busy := use.busy && !use.served, table := use.table.filter fun held => held.name ≠ name }
  | .openFile name, .ok handle => use.put handle (some (name, none))
  | .tryLock handle mode, .ok _ => use.lock handle (some mode)
  | .unlock handle, .ok _ => use.lock handle none
  | .closeHandle handle, _ => use.put handle none
  | _, _ => use

/-- A step of the lifecycle. -/
def lifeStep (use : Use) : (op : LifeOp) → LifeReply op → Use
  | .admission, _ => { use with served := false }
  | .work, _ => { use with served := true }
  | .exit, _ => { use with busy := false }
  | _, _ => use

/-- A step of a thread. -/
def after (use : Use) : (op : Op) → Reply op → Use
  | .inl op => use.guardStep op
  | .inr op => use.lifeStep op

/-- How a busy thread finds the guard. -/
def answers (use : Use) : (op : GuardOp) → GuardReply op → Prop
  | .isClosed, closed => closed = false
  | .heldGet name, found => found = use.get? name
  | .heldTable, table => table = use.table
  | .pop name, found => found = use.get? name
  | .openFile _, .ok handle => use.opens handle = none
  | _, _ => True

/-- What a thread may ask. -/
def may (use : Use) : GuardOp → Prop
  | .heldGet _ => use.busy = true
  | .heldTable => use.busy = true
  | .store entry => use.busy = true ∧ use.get? entry.name = none
  | .pop name =>
    use.busy = true ∧ (use.served = true → (use.table.filter fun held => held.name ≠ name) = [])
  | .tryLock handle _ | .unlock handle | .closeHandle handle => use.opens handle ≠ none
  | .markClosed => False
  | _ => True

/-- A thread that has nothing of the guard. -/
structure Clear (use : Use) : Prop where
  table : use.table = []
  opens : use.opens = fun _ => none

/-- The thread holds one guard, and no other handle is open. -/
structure Holds (use : Use) (entry : HeldLock) : Prop where
  busy : use.busy = true
  table : use.table = [entry]
  opens : use.opens = Function.update (fun _ => none) entry.handle (some (entry.name, some entry.mode))

/-- What a thread may ask of the lifecycle. -/
def mayLife (use : Use) : LifeOp → Prop
  | .admission => use.busy = false ∧ use.Clear
  | .work => ∃ handle, use.Holds ⟨"data.lock", .shared, handle⟩
  | .exit => use.Clear
  | _ => False

end Use

/-- An operating system that does not fail: a lock may be busy, but the guard files stay what they are, each with an
identity of its own, and everything else succeeds. -/
def Healthy (inode : Text → Text) (use : Use) : (op : GuardOp) → GuardReply op → Prop
  | .makeDirectory, .error _ => False
  | .openFile _, .error _ => False
  | .identity handle, identity => ∀ known, use.opens handle = some known → identity = .ok (inode known.1)
  | .fileIdentity name, identity => identity = .ok (inode name)
  | .tryLock _ _, .error raised => isBusy raised = true
  | .unlock _, .error _ => False
  | .closeHandle _, .error _ => False
  | .cancelled, .error _ => False
  | .sleep _, .error _ => False
  | _, _ => True

/-- The steps of the engine, on the account of a thread. On its way to its block nothing fails. -/
def partMachine (inode : Text → Text) : Machine GuardOp GuardReply Use where
  permits use op reply := use.answers op reply ∧ (use.served = false → Healthy inode use op reply)
  after := Use.guardStep

/-- The steps of a thread, on its own account. No drain refuses a query. -/
def useMachine (inode : Text → Text) : Machine Op Reply Use where
  permits use op := match op with
    | .inl op => (partMachine inode).permits use op
    | .inr .admission => fun (admitted : Bool) => admitted = true
    | .inr _ => fun _ => True
  after := Use.after

/-- What a thread may ask. -/
def May (use : Use) : Op → Prop
  | .inl op => use.may op
  | .inr op => use.mayLife op

/-! ### The engine -/

section Engine

variable {py : Interpreter} {settings : Guard.Settings} {rounds : ℕ} {inode : Text → Text} {u : Use} {α : Type}

theorem put_put (handle : Handle) (one other : Option (Text × Option LockMode)) :
    (u.put handle one).put handle other = u.put handle other := by
  show { u with opens := Function.update (Function.update u.opens handle one) handle other } = _
  rw [Function.update_idem]
  rfl

/-- Closing a handle that was opened. -/
theorem put_back {handle : Handle} (fresh : u.opens handle = none) (known : Option (Text × Option LockMode)) :
    (u.put handle known).put handle none = u := by
  rw [put_put]
  show Use.mk _ _ _ (Function.update _ _ _) = u
  rw [← fresh, Function.update_eq_self]

theorem put_self (handle : Handle) (known : Option (Text × Option LockMode)) :
    (u.put handle known).opens handle = known := Function.update_self _ _ _

/-- The lock of an open handle changes, and its file does not. -/
theorem lock_open {handle : Handle} {name : Text} {old : Option LockMode}
    (own : u.opens handle = some (name, old)) (mode : Option LockMode) :
    u.lock handle mode = u.put handle (some (name, mode)) := by
  rw [Use.lock, own]
  rfl

/-- A part of the engine on the account of a thread. -/
abbrev Uses (inode : Text → Text) (post : Except Raised α → Use → Prop) (p : GuardProgram α) (u : Use) : Prop :=
  (partMachine inode).Along Use.may post p u

/-- Nothing has changed, and only a timeout or a cancellation is raised. -/
def Waits (u : Use) (outcome : Except Raised α) (after : Use) : Prop :=
  after = u ∧ ∀ raised, outcome = .error raised → endsWait raised = true

theorem clock_uses : Uses inode (fun outcome after => after = u ∧ ∃ now, outcome = .ok now) clock u :=
  along_call trivial fun now _ => ⟨rfl, now, rfl⟩

/-- A wait that ends. -/
def Ends (u : Use) (outcome : Except Raised α) (after : Use) : Prop :=
  ∃ raised, outcome = .error raised ∧ endsWait raised = true ∧ after = u

theorem elapsed_uses (started : ℚ) (raised : ℤ → Raised) (ends : ∀ elapsed, endsWait (raised elapsed) = true) :
    Uses inode (Ends u) (elapsedMs started >>= fun elapsed => (.raise (raised elapsed) : GuardProgram α))
      u :=
  along_call trivial fun _ _ => ⟨_, rfl, ends _, rfl⟩

theorem checkCancelled_uses (waiting : u.served = false) (name : Text) (started : ℚ) :
    Uses inode (Waits u) (checkCancelled settings name started) u := by
  have passes : Uses inode (Waits u) (.done ()) u := ⟨rfl, fun _ none => nomatch none⟩
  unfold checkCancelled
  split
  · refine along_call trivial fun reply permitted => ?_
    cases reply with
    | error raised => exact (permitted.2 waiting).elim
    | ok cancels =>
      show Uses inode _ (if cancels = true then _ else _) u
      split
      · refine (elapsed_uses started (guardCancelled name) fun _ => rfl).post ?_
        rintro _ after ⟨raised, rfl, ends, same⟩
        exact ⟨same, fun other same => Except.error.inj same ▸ ends⟩
      · exact passes
  · exact passes

/-- An attempt to open a guard file succeeds. -/
theorem openVerified_uses (waiting : u.served = false) (name : Text) :
    Uses inode (fun outcome after => ∃ handle, outcome = .ok handle ∧ u.opens handle = none ∧
      after = u.put handle (some (name, none))) (openVerified py settings name) u := by
  refine along_call trivial fun opened permitted => ?_
  cases opened with
  | error raised => exact (permitted.2 waiting).elim
  | ok handle =>
    have fresh : u.opens handle = none := permitted.1
    refine along_call trivial fun identity healthy => ?_
    obtain rfl : identity = .ok (inode name) := healthy.2 waiting _ (put_self handle _)
    refine along_call trivial fun current healthy => ?_
    obtain rfl : current = .ok (inode name) := healthy.2 waiting
    show Uses inode _ (if inode name = inode name then .done handle else _) (u.put handle (some (name, none)))
    rw [if_pos rfl]
    exact ⟨handle, rfl, fresh, rfl⟩

/-- A wait for a handle of one's own: it gets the lock, or ends. -/
def Granted (u : Use) (handle : Handle) (name : Text) (mode : LockMode) (outcome : Except Raised Unit)
    (after : Use) : Prop :=
  match outcome with
  | .ok _ => after = u.put handle (some (name, some mode))
  | .error raised => endsWait raised = true ∧ after = u

theorem waitFor_uses (waiting : u.served = false) (name : Text) (mode : LockMode) {handle : Handle}
    {lock : Option LockMode} (own : u.opens handle = some (name, lock)) (started deadline : ℚ) (rounds : ℕ)
    (delay : ℚ) :
    Uses inode (Granted u handle name mode)
      (waitFor settings name mode handle started deadline rounds delay) u := by
  have there : u.opens handle ≠ none := own ▸ Option.some_ne_none _
  induction rounds generalizing delay with
  | zero => exact there
  | succ rounds ih =>
    have cancels : Uses inode (Waits u) (checkCancelled settings name started) u :=
      checkCancelled_uses waiting name started
    refine cancels.bind (fun _ after same => ?_) fun raised after ended => ⟨ended.2 raised rfl, ended.1⟩
    obtain ⟨rfl, _⟩ := same
    refine along_call there fun attempted permitted => ?_
    cases attempted with
    | ok _ => exact lock_open own _
    | error raised =>
      have busy : isBusy raised = true := permitted.2 waiting
      show Uses inode _ (if isBusy raised = true then _ else _) after
      rw [if_pos busy]
      refine along_call trivial fun (now : ℚ) _ => ?_
      show Uses inode _ (if deadline - now ≤ 0 then _ else _) after
      split
      · refine (elapsed_uses started (fun elapsed => guardTimeout name elapsed settings.timeoutMs)
          fun _ => rfl).post ?_
        rintro _ _ ⟨raised, rfl, ends, rfl⟩
        exact ⟨ends, rfl⟩
      · refine along_call trivial fun slept healthy => ?_
        cases slept with
        | error raised => exact (healthy.2 waiting).elim
        | ok _ => exact ih _

/-- A guard that was taken, or a wait that has ended. -/
def Taken (u : Use) (name : Text) (mode : LockMode) (outcome : Except Raised HeldLock) (after : Use) :
    Prop :=
  match outcome with
  | .ok held => held.name = name ∧ held.mode = mode ∧ u.opens held.handle = none ∧
      after = { u.put held.handle (some (name, some mode)) with table := u.table ++ [held] }
  | .error raised => endsWait raised = true ∧ after = u

theorem lockOpened_uses (waiting : u.served = false) (busy : u.busy = true) {name : Text}
    (absent : u.get? name = none) (mode : LockMode) {handle : Handle} (fresh : u.opens handle = none) :
    Uses inode (Taken u name mode) (lockOpened settings rounds name mode handle)
      (u.put handle (some (name, none))) := by
  have own := put_self (u := u) handle (some (name, none))
  refine clock_uses.bind (fun started after same => ?_) fun _ _ none => nomatch none.2.choose_spec
  obtain ⟨rfl, _⟩ := same
  refine Along.resume (waitFor_uses (u := u.put handle (some (name, none)))
    waiting name mode own started _ rounds _) ?_
  intro outcome after granted
  cases outcome with
  | error raised =>
    obtain ⟨ends, rfl⟩ := granted
    refine along_call (fun none => nomatch own.symm.trans none) fun closing healthy => ?_
    cases closing with
    | error raised => exact (healthy.2 waiting).elim
    | ok _ => exact ⟨ends, put_back fresh _⟩
  | ok _ =>
    obtain rfl : after = (u.put handle (some (name, none))).put handle (some (name, some mode)) := granted
    rw [put_put]
    exact along_call ⟨busy, absent⟩ fun _ _ => ⟨rfl, rfl, fresh, rfl⟩

/-- A guard that nobody has, and that comes after those the thread has. -/
theorem acquireOne_uses (waiting : u.served = false) {name : Text} (declared : name ∈ lockFileNames)
    (absent : u.get? name = none)
    (ordered : (u.table.find? fun already => position name < position already.name) = none)
    (mode : LockMode) :
    Uses inode (Taken { u with busy := true } name mode) (acquireOne py settings rounds name mode) u := by
  unfold acquireOne
  rw [if_neg (not_not.mpr declared)]
  refine along_call trivial fun closed found => ?_
  obtain rfl : closed = false := found.1
  refine along_call rfl fun held found => ?_
  obtain rfl : held = none := found.1.trans absent
  refine along_call rfl fun table found => ?_
  obtain rfl : table = u.table := found.1
  rw [ordered]
  refine along_call trivial fun made healthy => ?_
  cases made with
  | error raised => exact (healthy.2 waiting).elim
  | ok _ =>
    refine (openVerified_uses (u := { u with busy := true }) waiting name).bind
      (fun handle after opened => ?_) fun raised after opened => nomatch opened.choose_spec.1
    obtain ⟨_, same, fresh, rfl⟩ := opened
    obtain rfl := Except.ok.inj same
    exact lockOpened_uses (u := { u with busy := true }) waiting rfl absent mode fresh

/-- The account after a guard was released. -/
def Use.without (u : Use) (held : HeldLock) : Use :=
  { u.put held.handle none with
    busy := u.busy && !u.served, table := u.table.filter fun other => other.name ≠ held.name }

/-- Releasing a guard that the thread has. -/
theorem releaseHeld_uses {held : HeldLock} (own : u.opens held.handle ≠ none) :
    Uses inode (fun outcome after => after = u.put held.handle none ∧
      (u.served = false → outcome = .ok ())) (releaseHeld held) u := by
  have closes : ∀ (u' : Use) (outcome : Except Raised Unit), u'.opens held.handle ≠ none →
      u'.put held.handle none = u.put held.handle none → u'.served = u.served →
      (u.served = false → outcome = .ok ()) →
      Uses inode (fun outcome after => after = u.put held.handle none ∧
        (u.served = false → outcome = .ok ()))
        (closeHandle held.handle >>= fun _ => ofExcept outcome : GuardProgram Unit) u' := by
    intro u' outcome own same served healthy
    refine along_call own fun closing permitted => ?_
    cases closing with
    | error raised => exact ⟨same, fun waiting => (permitted.2 (served.trans waiting)).elim⟩
    | ok _ => exact along_ofExcept ⟨same, healthy⟩
  refine along_call own fun unlocked permitted => ?_
  cases unlocked with
  | error raised => exact closes u _ own rfl rfl fun waiting => (permitted.2 waiting).elim
  | ok _ =>
    obtain ⟨known, own⟩ := Option.ne_none_iff_exists'.mp own
    refine closes _ _ ?_ (put_put _ _ _) rfl fun _ => rfl
    show (u.lock held.handle none).opens held.handle ≠ none
    rw [lock_open own, put_self]
    exact Option.some_ne_none _

theorem release_uses (waiting : u.served = false) (busy : u.busy = true) {held : HeldLock}
    (found : u.get? held.name = some held) (own : u.opens held.handle ≠ none) :
    Uses inode (fun outcome after => outcome = .ok () ∧ after = u.without held) (release held.name) u := by
  refine along_call ⟨busy, fun served => nomatch waiting.symm.trans served⟩ fun popped answer => ?_
  obtain rfl : popped = some held := answer.1.trans found
  refine (releaseHeld_uses (u := u.guardStep (.pop held.name) (some held)) own).post ?_
  rintro outcome after ⟨rfl, healthy⟩
  exact ⟨healthy waiting, rfl⟩

theorem presentNames_uses (busy : u.busy = true) (names : List Text) :
    Uses inode (fun outcome after => after = u ∧
      outcome = .ok (names.filter fun name => (u.get? name).isSome)) (presentNames names) u := by
  induction names with
  | nil => exact ⟨rfl, rfl⟩
  | cons name rest ih =>
    refine along_call busy fun held answer => ?_
    obtain rfl : held = u.get? name := answer.1
    refine ih.bind (fun later after same => ?_) fun raised after same => nomatch same.2
    obtain ⟨rfl, same⟩ := same
    obtain rfl := Except.ok.inj same
    refine ⟨rfl, congrArg Except.ok ?_⟩
    rw [List.filter_cons]

/-- What `release_all` leaves behind: nothing. -/
def Released (u : Use) (outcome : Except Raised Unit) (after : Use) : Prop :=
  after.Clear ∧ after.served = u.served ∧ (u.served = false → outcome = .ok () ∧ after.busy = u.busy)

/-- The names that `release_all` releases, of a table without others than the declared guards. -/
theorem releaseNames_uses (busy : u.busy = true) {order : List Text}
    (present : (releaseOrder.filter fun name => (u.get? name).isSome) = order)
    (declared : ∀ held ∈ u.table, held.name ∈ order) :
    Uses inode (fun outcome after => after = u ∧ outcome = .ok order) releaseNames u := by
  refine (presentNames_uses busy releaseOrder).bind (fun names after same => ?_)
    fun raised after same => nomatch same.2
  obtain ⟨rfl, same⟩ := same
  obtain rfl : names = order := (Except.ok.inj same).trans present
  refine along_call busy fun table answer => ⟨rfl, congrArg Except.ok ?_⟩
  obtain rfl : table = after.table := answer.1
  have none : ((after.table.map HeldLock.name).reverse.filter fun name => name ∉ names) = [] := by
    rw [List.filter_eq_nil_iff]
    intro name member
    obtain ⟨held, there, rfl⟩ := List.mem_map.mp (List.mem_reverse.mp member)
    exact fun missing => of_decide_eq_true missing (declared held there)
  rw [none, List.append_nil]

/-- Nothing to release. -/
theorem releaseAll_clear (busy : u.busy = true) (clear : u.Clear) :
    Uses inode (Released u) releaseAll u := by
  have nothing : (releaseOrder.filter fun name => (u.get? name).isSome) = [] := by
    rw [List.filter_eq_nil_iff]
    intro name _
    rw [Use.get?, clear.table]
    exact Bool.false_ne_true
  refine (releaseNames_uses busy nothing fun held member => ?_).bind (fun names after same => ?_)
    fun raised after same => nomatch same.2
  · rw [clear.table] at member
    cases member
  · obtain ⟨rfl, same⟩ := same
    obtain rfl := Except.ok.inj same
    exact ⟨clear, rfl, fun _ => ⟨rfl, rfl⟩⟩

/-- The one guard that is held is released. -/
theorem releaseAll_holds {held : HeldLock} (declared : held.name ∈ lockFileNames) (holds : u.Holds held) :
    Uses inode (Released u) releaseAll u := by
  have found : ∀ name, u.get? name = if held.name = name then some held else none := by
    intro name
    rw [Use.get?, holds.table, List.find?_singleton]
    simp only [decide_eq_true_eq]
  have one : (releaseOrder.filter fun name => (u.get? name).isSome) = [held.name] := by
    have present : ∀ name, (u.get? name).isSome = decide (held.name = name) := by
      intro name
      rw [found]
      by_cases same : held.name = name
      · rw [if_pos same, decide_eq_true same]
        rfl
      · rw [if_neg same, decide_eq_false same]
        rfl
    simp only [present]
    rcases List.mem_pair.mp declared with same | same
    · rw [same]
      rfl
    · rw [same]
      rfl
  have own : u.opens held.handle ≠ none := by
    rw [holds.opens, Function.update_self]
    exact Option.some_ne_none _
  have nothing : (u.table.filter fun other => other.name ≠ held.name) = [] := by
    rw [holds.table, List.filter_singleton, decide_eq_false (not_not.mpr rfl)]
    rfl
  have ends : ∀ outcome, (u.served = false → outcome = .ok ()) → Released u outcome (u.without held) := by
    intro outcome healthy
    refine ⟨⟨nothing, ?_⟩, rfl, fun waiting => ⟨healthy waiting, ?_⟩⟩
    · show Function.update u.opens held.handle none = _
      rw [holds.opens, Function.update_idem]
      exact Function.update_eq_self held.handle fun _ => none
    · show (u.busy && !u.served) = u.busy
      rw [waiting, Bool.not_false, Bool.and_true]
  refine (releaseNames_uses holds.busy one fun other member => ?_).bind (fun names after same => ?_)
    fun raised after same => nomatch same.2
  · rw [holds.table] at member
    rw [List.mem_singleton.mp member]
    exact List.mem_cons_self
  obtain ⟨kept, same⟩ := same
  rw [kept]
  obtain rfl := Except.ok.inj same
  have named : Uses inode (fun outcome last => last = u.without held ∧ (u.served = false → outcome = .ok []))
      (releaseNamed held.name) u := by
    refine along_call ⟨holds.busy, fun _ => nothing⟩ fun popped answer => ?_
    obtain rfl : popped = some held := answer.1.trans ((found _).trans (if_pos rfl))
    refine (releaseHeld_uses (u := u.guardStep (.pop held.name) (some held)) own).resume ?_
    rintro outcome last ⟨rfl, healthy⟩
    split
    · exact ⟨rfl, fun _ => rfl⟩
    · exact ⟨rfl, fun waiting => nomatch healthy waiting⟩
    · exact ⟨rfl, fun waiting => nomatch healthy waiting⟩
  refine named.bind (fun failed last reached => ?_) fun raised last reached => ?_
  · obtain ⟨rfl, healthy⟩ := reached
    show Uses inode _ (if failed = [] then _ else _) (u.without held)
    split
    · exact ends _ fun _ => rfl
    · rename_i some
      exact ends _ fun waiting => absurd (Except.ok.inj (healthy waiting)) some
  · rw [reached.1]
    exact ends _ fun waiting => nomatch reached.2 waiting

/-- The guard after `admission.lock` was taken. -/
theorem holds_taken {held : HeldLock} (clear : u.Clear) (busy : u.busy = true) {mode : LockMode}
    (same : held.mode = mode) :
    ({ u.put held.handle (some (held.name, some mode)) with table := u.table ++ [held] } : Use).Holds held := by
  refine ⟨busy, ?_, ?_⟩
  · show u.table ++ [held] = [held]
    rw [clear.table, List.nil_append]
  · show Function.update u.opens held.handle (some (held.name, some mode)) = _
    rw [clear.opens, same]

/-- The way to the block of a reader: the block has `data.lock`, or the way ends by a timeout or a
cancellation. -/
def Entered (outcome : Except Raised Unit) (after : Use) : Prop :=
  after.served = false ∧
    match outcome with
    | .ok _ => ∃ handle, after.Holds ⟨"data.lock", .shared, handle⟩
    | .error raised => endsWait raised = true ∧ after.busy = true ∧
        (after.Clear ∨ ∃ held, held.name ∈ lockFileNames ∧ after.Holds held)

/-- After `data.lock` was taken, `admission.lock` is dropped. -/
theorem dropAdmission_uses (waiting : u.served = false) {admission data : HeldLock}
    (holds : u.Holds admission) (named : admission.name = "admission.lock")
    (other : data = ⟨"data.lock", .shared, data.handle⟩) (fresh : u.opens data.handle = none) :
    Uses inode Entered (release "admission.lock")
      { u.put data.handle (some ("data.lock", some .shared)) with table := u.table ++ [data] } := by
  let both : Use := { u.put data.handle (some ("data.lock", some .shared)) with table := u.table ++ [data] }
  have table : both.table = [admission, data] := by
    show u.table ++ [data] = _
    rw [holds.table]
    rfl
  have apart : data.handle ≠ admission.handle := by
    intro same
    rw [holds.opens, same, Function.update_self] at fresh
    cases fresh
  have found : both.get? admission.name = some admission := by
    rw [Use.get?, table]
    exact List.find?_cons_of_pos (decide_eq_true rfl)
  have own : both.opens admission.handle ≠ none := by
    show Function.update u.opens data.handle _ admission.handle ≠ none
    rw [Function.update_of_ne apart.symm, holds.opens, Function.update_self]
    exact Option.some_ne_none _
  show Uses inode Entered (release "admission.lock") both
  rw [← named]
  refine (release_uses (u := both) waiting holds.busy found own).post ?_
  rintro _ _ ⟨rfl, rfl⟩
  refine ⟨waiting, data.handle, ?_, ?_, ?_⟩
  · show (both.busy && !both.served) = true
    rw [show both.busy = true from holds.busy, show both.served = false from waiting]
    rfl
  · show (both.table.filter fun held => held.name ≠ admission.name) = _
    rw [table, named, other, List.filter_cons_of_neg (by rw [named]; decide)]
    rfl
  · show Function.update (Function.update u.opens data.handle _) admission.handle none = _
    rw [Function.update_comm apart, holds.opens, Function.update_idem]
    exact congrArg (Function.update · data.handle _) (Function.update_eq_self admission.handle fun _ => none)

/-- A step that takes a guard. -/
theorem take_uses (waiting : u.served = false) {name : Text} (declared : name ∈ lockFileNames)
    (absent : u.get? name = none)
    (ordered : (u.table.find? fun already => position name < position already.name) = none)
    (mode : LockMode) :
    Uses inode (fun outcome after => ∃ taken, Taken { u with busy := true } name mode taken after ∧
      outcome = taken.map fun _ => ()) ((Step.take name mode).program py settings rounds) u := by
  refine (acquireOne_uses waiting declared absent ordered mode).bind ?_ ?_
  · exact fun held after taken => ⟨.ok held, taken, rfl⟩
  · exact fun raised after ended => ⟨.error raised, ended, rfl⟩

theorem takeSteps_uses (waiting : u.served = false) (clear : u.Clear) :
    Uses inode Entered (takeSteps py settings rounds (stepsOf readerSpecs readerEarly)) u := by
  have absent : u.get? "admission.lock" = none := by
    rw [Use.get?, clear.table]
    rfl
  have ordered : (u.table.find? fun already => position "admission.lock" < position already.name) = none := by
    rw [clear.table]
    rfl
  refine Along.resume (take_uses waiting (by decide) absent ordered .shared) ?_
  rintro _ after ⟨taken, reached, rfl⟩
  cases taken with
  | error raised =>
    obtain ⟨ends, rfl⟩ := reached
    exact ⟨waiting, ends, rfl, Or.inl ⟨clear.table, clear.opens⟩⟩
  | ok admission =>
    obtain ⟨named, shared, _, rfl⟩ := reached
    have holds := holds_taken (u := { u with busy := true }) ⟨clear.table, clear.opens⟩ rfl shared
    rw [named] at holds
    generalize taken : ({ ({ u with busy := true } : Use).put admission.handle
      (some ("admission.lock", some .shared)) with table := u.table ++ [admission] } : Use) = later at holds
    have waits : later.served = false := by
      rw [← taken]
      exact waiting
    have absent : later.get? "data.lock" = none := by
      rw [Use.get?, holds.table, List.find?_singleton, named]
      rfl
    have ordered : (later.table.find? fun already => position "data.lock" < position already.name) = none := by
      rw [holds.table, List.find?_singleton, named]
      rfl
    show Uses inode Entered (takeSteps py settings rounds
      [.take "data.lock" .shared, .drop "admission.lock"]) later
    refine Along.resume (take_uses waits (by decide) absent ordered .shared) ?_
    rintro _ last ⟨taken, reached, rfl⟩
    have same : ({ later with busy := true } : Use) = later := by
      rw [← holds.busy]
    rw [same] at reached
    cases taken with
    | error raised =>
      obtain ⟨ends, rfl⟩ := reached
      refine ⟨waits, ends, holds.busy, Or.inr ⟨admission, ?_, holds⟩⟩
      rw [named]
      decide
    | ok data =>
      obtain ⟨name, mode, fresh, rfl⟩ := reached
      have other : data = ⟨"data.lock", .shared, data.handle⟩ := by
        rw [← name, ← mode]
      exact (dropAdmission_uses waits holds named other fresh).bind (fun _ _ entered => entered)
        fun _ _ ended => ended

/-- The way of a reader to its block. -/
theorem enter_uses (waiting : u.served = false) (clear : u.Clear) :
    Uses inode (fun outcome after => after.served = false ∧ match outcome with
      | .ok _ => ∃ handle, after.Holds ⟨"data.lock", .shared, handle⟩
      | .error raised => endsWait raised = true ∧ after.Clear)
      (enter py settings rounds readerSpecs readerEarly 1) u := by
  refine (takeSteps_uses waiting clear).rescue (fun _ _ entered => entered) fun raised after ended => ?_
  obtain ⟨waits, ends, busy, left⟩ := ended
  show Uses inode _ (if endsWait raised = true then _ else _) after
  rw [if_pos ends]
  have releases : Uses inode (Released after) releaseAll after := by
    rcases left with clear | ⟨held, declared, holds⟩
    · exact releaseAll_clear busy clear
    · exact releaseAll_holds declared holds
  refine releases.bind (fun _ last released => ?_) fun _ last released => ?_
  · exact ⟨released.2.1.trans waits, ends, released.1⟩
  · cases (released.2.2 waits).1

end Engine

/-! ### A query -/

section Query

variable {settings : Settings} {rounds : ℕ} {inode : Text → Text} {u : Use}

theorem usePart : Part (partMachine inode) (useMachine inode) id Sum.inl (fun _ reply => reply) :=
  ⟨fun _ _ _ permitted => permitted, fun _ _ _ => rfl⟩

/-- A part of the engine, as a part of a query. -/
theorem inject_uses {p : GuardProgram Unit} {post : Except Raised Unit → Use → Prop}
    (uses : Uses inode post p u) : (useMachine inode).Along May post (inject p) u :=
  (Along.embed usePart (fun _ => True) (fun _ _ _ _ _ _ => trivial) (fun _ _ _ may => may) trivial
    uses).post fun _ _ ended => ended.1

/-- What a query leaves behind before it exits. -/
def Left (outcome : Except Raised Unit) (after : Use) : Prop :=
  after.Clear ∧ ∀ raised, outcome = .error raised → after.served = false → endsWait raised = true

theorem guarded_uses (waiting : u.served = false) (clear : u.Clear) :
    (useMachine inode).Along May Left (guarded settings rounds) u := by
  refine (inject_uses (enter_uses waiting clear)).bind (fun _ after entered => ?_) fun raised after ended => ?_
  · obtain ⟨_, handle, holds⟩ := entered
    have served : ({ after with served := true } : Use).Holds ⟨"data.lock", .shared, handle⟩ :=
      ⟨holds.busy, holds.table, holds.opens⟩
    have body : (useMachine inode).Along May
        (fun _ later => later = { after with served := true }) block after :=
      along_call ⟨handle, holds⟩ fun _ _ => along_ofExcept rfl
    refine body.ensure fun outcome later same => ?_
    obtain rfl := same
    have declared : ("data.lock" : Text) ∈ lockFileNames := by decide
    refine (inject_uses (releaseAll_holds declared served)).post fun closing last released => ?_
    have left : ∀ outcome, Left outcome last := fun outcome =>
      ⟨released.1, fun _ _ unserved => nomatch released.2.1.symm.trans unserved⟩
    cases closing with
    | ok _ => exact left _
    | error raised => exact left _
  · obtain ⟨_, ends, clear⟩ := ended
    refine ⟨clear, fun other same _ => ?_⟩
    obtain rfl : raised = other := Except.error.inj same
    exact ends

/-- A thread after a query. -/
def Finished (outcome : Except Raised Answer) (after : Use) : Prop :=
  after.busy = false ∧ after.Clear ∧
    ∀ raised, outcome = .error raised → after.served = false → endsWait raised = true

/-- **The use of a query**: it fails to get its guard only by a timeout or a cancellation, it has
`data.lock` in its block, and it leaves nothing behind. -/
theorem query_uses (idle : u.busy = false) (clear : u.Clear) :
    (useMachine inode).Along May Finished (query settings rounds) u := by
  refine along_call ⟨idle, clear⟩ fun admitted granted => ?_
  obtain rfl : admitted = true := granted
  have inside : (useMachine inode).Along May Left (guarded settings rounds)
      ({ u with served := false } : Use) := guarded_uses rfl ⟨clear.table, clear.opens⟩
  have exits : (useMachine inode).Along May (fun outcome after => after.busy = false ∧ Left outcome after)
      ((guarded settings rounds).ensure (life .exit)) ({ u with served := false } : Use) := by
    refine inside.ensure fun outcome later left => ?_
    exact along_call left.1 fun _ _ => ⟨rfl, ⟨left.1.table, left.1.opens⟩, left.2⟩
  refine exits.bind (fun _ after left => ?_) fun raised after left => ?_
  · exact ⟨left.1, left.2.1, fun _ none => nomatch none⟩
  · refine ⟨left.1, left.2.1, fun other same unserved => ?_⟩
    obtain rfl : raised = other := Except.error.inj same
    exact left.2.2 raised rfl unserved

end Query

end AxiomMcp.Lifecycle
