import DragonSched.Sched.Cfs

namespace DragonOS

namespace ProcessManager

/-- `ProcessManager::find`: `None` also before the table exists. -/
def find (kernel : Kernel) (pid : Pid) : Option PcbRef := kernel.allProcess.bind fun table => table pid

/-- `ProcessManager::add_pcb`: the last insertion for a pid wins; panics before `init`. -/
def addPcb (kernel : Kernel) (pcb : PcbRef) : Option Kernel := do
  let table ← kernel.allProcess
  pure { kernel with allProcess := some (Function.update table (kernel.pcbs pcb).pid (some pcb)) }

/-- Where a `ProcessManager::wakeup` call stands: before its check, re-check, enqueue, or returned. -/
inductive WakeupPhase where
  | check
  | recheck
  | enqueue
  | done (result : Except SystemError Unit)

/-- The read-locked check of `wakeup`. -/
def wakeupCheck (kernel : Kernel) (pcb : PcbRef) : WakeupPhase :=
  let state := kernel.state pcb
  if state.isBlocked then .recheck
  else if state.isExited then .done (.error .EINVAL)
  else .done (.ok ())

/-- The write-locked re-check of `wakeup`, which sets a blocked process runnable. -/
def wakeupRecheck (kernel : Kernel) (pcb : PcbRef) : Kernel × WakeupPhase :=
  let state := kernel.state pcb
  if state.isBlocked then (kernel.setState pcb .runnable, .enqueue)
  else if state.isExited then (kernel, .done (.error .EINVAL))
  else (kernel, .done (.ok ()))

/-- One step of a `wakeup` call; `None` once it has returned, or on a panic. -/
def wakeupStep (kernel : Kernel) (pcb : PcbRef) : WakeupPhase → Option (Kernel × WakeupPhase)
  | .check => some (kernel, wakeupCheck kernel pcb)
  | .recheck => some (wakeupRecheck kernel pcb)
  | .enqueue => (schedEnqueue kernel pcb true).map fun kernel => (kernel, .done (.ok ()))
  | .done _ => none

/-- `ProcessManager::wakeup`, its three steps run with nothing in between. -/
def wakeup (kernel : Kernel) (pcb : PcbRef) : Option (Kernel × Except SystemError Unit) :=
  match wakeupCheck kernel pcb with
  | .done result => some (kernel, result)
  | _ =>
    match wakeupRecheck kernel pcb with
    | (kernel, .done result) => some (kernel, result)
    | (kernel, _) => (schedEnqueue kernel pcb true).map fun kernel => (kernel, .ok ())

theorem wakeup_eq_some {kernel next : Kernel} {pcb : PcbRef} {result : Except SystemError Unit} :
    wakeup kernel pcb = some (next, result) ↔
      ((kernel.state pcb).isBlocked = true ∧ result = .ok () ∧
          schedEnqueue (kernel.setState pcb .runnable) pcb true = some next) ∨
        ((kernel.state pcb).isBlocked = false ∧ next = kernel ∧
          result = if (kernel.state pcb).isExited then .error .EINVAL else .ok ()) := by
  unfold wakeup wakeupCheck wakeupRecheck
  cases state : kernel.state pcb with
  | blocked interruptable =>
      simp only [state, ProcessState.isBlocked, ite_true, Option.map_eq_some', Prod.mk.injEq]
      constructor
      · rintro ⟨enqueued, enqueuedEq, rfl, rfl⟩
        exact .inl ⟨trivial, rfl, enqueuedEq⟩
      · rintro (⟨-, rfl, enqueuedEq⟩ | ⟨nope, -⟩)
        · exact ⟨next, enqueuedEq, rfl, rfl⟩
        · cases nope
  | runnable => simp [ProcessState.isBlocked, ProcessState.isExited, eq_comm, and_comm]
  | exited code => simp [ProcessState.isBlocked, ProcessState.isExited, eq_comm, and_comm]

/-- `ProcessManager::mark_sleep` by the process running on `cpu`. -/
def markSleep (kernel : Kernel) (cpu : Nat) (interruptable : Bool) :
    Kernel × Except SystemError Unit :=
  let pcb := kernel.current cpu
  if kernel.state pcb ≠ .exited 0 then
    ((kernel.setState pcb (.blocked interruptable)).updFlags pcb (·.insert .needSchedule), .ok ())
  else (kernel, .error .EINTR)

/-- `ProcessControlBlock::adopt_childen`: `drain().for_each(insert)` into the init process's map. -/
def adoptChilden (kernel : Kernel) (pcb : PcbRef) : Kernel × Except SystemError Unit :=
  match find kernel 1 with
  | some initPcb =>
    let (drained, left) := (kernel.pcbs pcb).children.drain
    let kernel := kernel.updPcb pcb fun p => { p with children := left }
    (kernel.updPcb initPcb fun p =>
        { p with children := drained.foldl (fun children entry => children.insert entry.1 entry.2) p.children },
      .ok ())
  | none => (kernel, .error .ECHILD)

/-- `ProcessManager::exit_notify`: a failed adoption panics. -/
def exitNotify (kernel : Kernel) (cpu : Nat) : Option Kernel :=
  let current := kernel.current cpu
  if (kernel.pcbs current).pid ≠ 1 then
    match adoptChilden kernel current with
    | (kernel, .ok ()) => some kernel
    | (_, .error _) => none
  else some kernel

/-- `exit_notify` changes nothing or adopts the running process's children. -/
theorem exitNotify_eq_some {kernel next : Kernel} {cpu : Nat}
    (notified : exitNotify kernel cpu = some next) :
    next = kernel ∨ next = (adoptChilden kernel (kernel.current cpu)).1 := by
  simp only [exitNotify] at notified
  split at notified
  · split at notified
    · rename_i adopted
      cases notified
      rw [adopted]
      exact .inr rfl
    · cases notified
  · cases notified
    exact .inl rfl

/-- `WaitQueue::wakeup`, not in the source: `wakeup` of each waiter in `state`, which leaves. -/
def wakeupWaiters (kernel : Kernel) (state : ProcessState) :
    List PcbRef → Option (Kernel × List PcbRef)
  | [] => some (kernel, [])
  | waiter :: rest =>
    if kernel.state waiter = state then do
      let (kernel, _) ← wakeup kernel waiter
      wakeupWaiters kernel state rest
    else do
      let (kernel, kept) ← wakeupWaiters kernel state rest
      pure (kernel, waiter :: kept)

/-- What every `wakeup` keeps, waking a wait queue keeps. -/
theorem wakeupWaiters_induction {state : ProcessState} {holds : Kernel → Prop}
    (woken : ∀ {kernel next pcb result}, holds kernel → wakeup kernel pcb = some (next, result) →
      holds next) :
    ∀ {waiters : List PcbRef} {kernel next : Kernel} {kept : List PcbRef}, holds kernel →
      wakeupWaiters kernel state waiters = some (next, kept) → holds next
  | [], _, _, _, initial, done => by
      simp only [wakeupWaiters, Option.some.injEq, Prod.mk.injEq] at done
      exact done.1 ▸ initial
  | waiter :: rest, kernel, next, kept, initial, done => by
      unfold wakeupWaiters at done
      split at done
      · simp only [bind, Option.bind_eq_some] at done
        obtain ⟨⟨woke, result⟩, first, later⟩ := done
        exact wakeupWaiters_induction woken (woken initial first) later
      · simp only [bind, Option.bind_eq_some, pure, Option.some.injEq, Prod.mk.injEq] at done
        obtain ⟨⟨woke, rest⟩, later, rfl, -⟩ := done
        exact wakeupWaiters_induction woken initial later

/-- `ProcessManager::exit` by the process running on `cpu`, up to its switch away. -/
def exit (kernel : Kernel) (cpu : Nat) (exitCode : Nat) : Option Kernel := do
  let pcb := kernel.current cpu
  let kernel := kernel.setState pcb (.exited exitCode)
  let (kernel, kept) ← wakeupWaiters kernel (.blocked true) (kernel.pcbs pcb).waitQueue
  let kernel := kernel.updPcb pcb fun p => { p with waitQueue := kept }
  let kernel ← exitNotify kernel cpu
  Arch.sched kernel cpu

/-- An `exit` that completes woke its waiters, handed its children over and rescheduled. -/
theorem exit_eq_some {kernel next : Kernel} {cpu exitCode : Nat} :
    exit kernel cpu exitCode = some next ↔
      ∃ woke kept, wakeupWaiters (kernel.setState (kernel.current cpu) (.exited exitCode)) (.blocked true)
          ((kernel.setState (kernel.current cpu) (.exited exitCode)).pcbs (kernel.current cpu)).waitQueue =
            some (woke, kept) ∧
        ∃ notified, exitNotify (woke.updPcb (kernel.current cpu) fun p => { p with waitQueue := kept }) cpu =
          some notified ∧ Arch.sched notified cpu = some next := by
  simp only [exit, bind, Option.bind_eq_some, Prod.exists]

/-- `ProcessManager::release`; `held` counts strong references, so the clone `find` makes adds one. -/
def release (kernel : Kernel) (held : PcbRef → Nat) (pid : Pid) : Option Kernel :=
  match find kernel pid with
  | none => some kernel
  | some pcb =>
    if held pcb + 1 ≤ 1 then
      some { kernel with allProcess := kernel.allProcess.map fun table => Function.update table pid none }
    else none

end ProcessManager

end DragonOS
