import DragonSched.System.Exclusive

namespace DragonOS

/-- The selection half of `sched` changes no process. -/
theorem SameProcs.schedSelect {kernel selected : Kernel} {cpu : Nat} {queue : QueueRef} {se : Entry}
    (selectedEq : SchedulerCFS.schedSelect kernel cpu = some (selected, queue, se)) : SameProcs kernel selected := by
  obtain ⟨-, rfl, rest, -, rfl⟩ := SchedulerCFS.schedSelect_eq_some.mp selectedEq
  exact ((SameProcs.updFlags kernel (kernel.current cpu) (·.remove .needSchedule)).trans
    (SameProcs.updQueue _ ⟨.root, cpu⟩ fun _ => rest)).trans (SameProcs.updQueue _ ⟨.root, cpu⟩ fun q => q.dequeue.2)

/-- `sched` changes no process: only the run queues, budgets and flags. -/
theorem SameProcs.sched {kernel after : Kernel} {cpu : Nat} {picked : Option Entry}
    (scheduled : SchedulerCFS.sched kernel cpu = some (after, picked)) : SameProcs kernel after := by
  obtain ⟨selected, queue, se, selectedEq, proc, -, decided⟩ := SchedulerCFS.sched_eq_some.mp scheduled
  have selectedSame := SameProcs.schedSelect selectedEq
  rcases SchedulerCFS.schedDecide_cases decided with
    ⟨-, -, rfl⟩ | ⟨-, -, -, requeued, requeuedEq, rfl⟩ | ⟨-, -, -, pushedEq⟩
  · exact selectedSame.trans (SameProcs.refreshBudget _ _ _ _)
  · exact (selectedSame.trans (schedEnqueue_counts requeuedEq).1).trans (SameProcs.refreshBudget _ _ _ _)
  · exact (selectedSame.trans (SameProcs.refreshBudget _ _ _ _)).trans (schedEnqueue_counts pushedEq).1

/-- `sched` with its switch changes no process's state or pid. -/
theorem sched_keeps {kernel next : Kernel} {cpu : Nat} (scheduled : Arch.sched kernel cpu = some next)
    (pcb : PcbRef) : next.state pcb = kernel.state pcb ∧ (next.pcbs pcb).pid = (kernel.pcbs pcb).pid := by
  obtain ⟨after, picked, schedEq, switched⟩ := Arch.sched_eq_some.mp scheduled
  have same := SameProcs.sched schedEq
  rcases switched with ⟨-, rfl⟩ | ⟨_, _, _, _, rfl⟩
  · exact ⟨same.state pcb, same.pid pcb⟩
  · simpa using And.intro (same.state pcb) (same.pid pcb)

theorem state_sched {kernel next : Kernel} {cpu : Nat} (scheduled : Arch.sched kernel cpu = some next)
    (pcb : PcbRef) : next.state pcb = kernel.state pcb :=
  (sched_keeps scheduled pcb).1

/-- Waking waiters one after another only wakes blocked processes. -/
theorem Wakes.of_wakeupWaiters {state : ProcessState} {waiters : List PcbRef} {kernel next : Kernel}
    {kept : List PcbRef} (woken : ProcessManager.wakeupWaiters kernel state waiters = some (next, kept)) :
    Wakes kernel next :=
  @ProcessManager.wakeupWaiters_induction state (Wakes kernel)
    (fun before first => before.trans (Wakes.of_wakeup first)) _ _ _ _ (SameProcs.refl kernel).wakes woken

/-- `exit` leaves its process exited with its code; others keep their state or wake. -/
theorem exit_states {kernel next : Kernel} {cpu exitCode : Nat}
    (exited : ProcessManager.exit kernel cpu exitCode = some next) :
    next.state (kernel.current cpu) = .exited exitCode ∧ ∀ pcb, pcb ≠ kernel.current cpu →
      next.state pcb = kernel.state pcb ∨ (kernel.state pcb).isBlocked = true ∧ next.state pcb = .runnable := by
  obtain ⟨woke, kept, wokenEq, notified, notifiedEq, scheduled⟩ := ProcessManager.exit_eq_some.mp exited
  have wakes := Wakes.of_wakeupWaiters wokenEq
  have final (pcb : PcbRef) : next.state pcb = woke.state pcb := by
    rw [state_sched scheduled, (exitNotify_same notifiedEq).1.state,
      (SameProcs.updPcb woke _ (fun p => { p with waitQueue := kept }) fun _ => ⟨rfl, rfl⟩).state]
  refine ⟨?_, fun pcb different => ?_⟩
  · rw [final, wakes.state_of_not_blocked (by simp [ProcessState.isBlocked])]
    simp
  · simpa only [final, Kernel.state_setState, if_neg different] using wakes.state pcb

/-- `exit` changes no process's pid. -/
theorem pid_exit {kernel next : Kernel} {cpu exitCode : Nat}
    (exited : ProcessManager.exit kernel cpu exitCode = some next) (pcb : PcbRef) :
    (next.pcbs pcb).pid = (kernel.pcbs pcb).pid := by
  obtain ⟨woke, kept, wokenEq, notified, notifiedEq, scheduled⟩ := ProcessManager.exit_eq_some.mp exited
  rw [(sched_keeps scheduled pcb).2, (exitNotify_same notifiedEq).1.pid,
    (SameProcs.updPcb woke _ (fun p => { p with waitQueue := kept }) fun _ => ⟨rfl, rfl⟩).pid,
    (Wakes.of_wakeupWaiters wokenEq).pid, Kernel.pid_setState]

/-- The state changes the source makes: wake, sleep, change of sleep, and exit. -/
inductive ProcessState.Moves : ProcessState → ProcessState → Prop
  | stay (state : ProcessState) : Moves state state
  | wake (interruptable : Bool) : Moves (.blocked interruptable) .runnable
  | sleep (interruptable : Bool) : Moves .runnable (.blocked interruptable)
  | resleep (before after : Bool) : Moves (.blocked before) (.blocked after)
  | exit {state : ProcessState} (code : Nat) (alive : state.isExited = false) : Moves state (.exited code)

namespace ProcessState.Moves

/-- No move leaves Exited, nor changes its code. -/
theorem of_exited {code : Nat} {after : ProcessState} (moves : Moves (.exited code) after) :
    after = .exited code := by
  cases moves with
  | stay => rfl
  | exit _ alive => cases alive

/-- A process that has not exited may be blocked. -/
theorem block {state : ProcessState} (alive : state.isExited = false) (interruptable : Bool) :
    Moves state (.blocked interruptable) := by
  cases state with
  | runnable => exact .sleep interruptable
  | blocked before => exact .resleep before interruptable
  | exited => cases alive

/-- Keeping the state, or going from Blocked to Runnable, is a move. -/
theorem of_woken {before after : ProcessState}
    (woken : after = before ∨ before.isBlocked = true ∧ after = .runnable) : Moves before after := by
  rcases woken with rfl | ⟨blocked, rfl⟩
  · exact .stay _
  · obtain ⟨interruptable, rfl⟩ := (isBlocked_iff _).mp blocked
    exact .wake interruptable

end ProcessState.Moves

/-- `mark_sleep` on a CPU whose process has not exited blocks only that process. -/
theorem moves_markSleep {kernel : Kernel} {cpu : Nat}
    (live : (kernel.state (kernel.current cpu)).isExited = false) (interruptable : Bool) (pcb : PcbRef) :
    (kernel.state pcb).Moves ((ProcessManager.markSleep kernel cpu interruptable).1.state pcb) := by
  rw [markSleep_of_live live, Kernel.state_updFlags, Kernel.state_setState]
  split
  · rename_i running
    subst running
    exact .block live interruptable
  · exact .stay _

/-- Every step moves each process's state only as the source does. -/
theorem Op.run_moves {kernel next : Kernel} {op : Op} (stepped : op.run kernel = some next) (pcb : PcbRef) :
    (kernel.state pcb).Moves (next.state pcb) := by
  cases op with
  | markSleep cpu interruptable =>
      obtain ⟨live, rfl⟩ := Op.run_markSleep_eq_some.mp stepped
      exact moves_markSleep live.2 interruptable pcb
  | sleep cpu interruptable =>
      obtain ⟨live, scheduled⟩ := Op.run_sleep_eq_some.mp stepped
      rw [state_sched scheduled]
      exact moves_markSleep live.2 interruptable pcb
  | wakeup waiter =>
      obtain ⟨result, woken⟩ := Op.run_wakeup_eq_some.mp stepped
      exact .of_woken ((Wakes.of_wakeup woken).state pcb)
  | exit cpu exitCode =>
      obtain ⟨live, exited⟩ := Op.run_exit_eq_some.mp stepped
      obtain ⟨self, others⟩ := exit_states exited
      by_cases running : pcb = kernel.current cpu
      · subst running
        rw [self]
        exact .exit exitCode live.2
      · exact .of_woken (others pcb running)
  | timer cpu =>
      rw [(timerUpdateJiffies_same stepped).1.state]
      exact .stay _
  | sched cpu =>
      rw [state_sched stepped]
      exact .stay _

/-- `wakeup` of an exited process fails with `EINVAL` and changes nothing. -/
theorem wakeup_exited {kernel : Kernel} {pcb : PcbRef} {code : Nat} (exited : kernel.state pcb = .exited code) :
    ProcessManager.wakeup kernel pcb = some (kernel, .error .EINVAL) := by
  simp [ProcessManager.wakeup, ProcessManager.wakeupCheck, exited, ProcessState.isBlocked,
    ProcessState.isExited]

/-- A CPU running an exited process makes no `mark_sleep`, sleep or `exit` call. -/
theorem Op.run_refused {kernel : Kernel} {cpu : Nat} (exited : (kernel.state (kernel.current cpu)).isExited = true)
    (interruptable : Bool) (exitCode : Nat) :
    (Op.markSleep cpu interruptable).run kernel = none ∧ (Op.sleep cpu interruptable).run kernel = none ∧
      (Op.exit cpu exitCode).run kernel = none := by
  simp [Op.run, Kernel.RunsLive, exited]

/-- Along every run states move only as the source allows, and Exited is absorbing. -/
theorem exited_absorbing {start kernel : Kernel} (reached : Reachable (fun _ => True) start kernel)
    (pcb : PcbRef) :
    (∀ (op : Op) (next : Kernel), op.run kernel = some next → (kernel.state pcb).Moves (next.state pcb)) ∧
      ∀ code, start.state pcb = .exited code →
        kernel.state pcb = .exited code ∧ ProcessManager.wakeup kernel pcb = some (kernel, .error .EINVAL) ∧
        ∀ cpu, kernel.current cpu = pcb → ∀ interruptable exitCode,
          (Op.markSleep cpu interruptable).run kernel = none ∧ (Op.sleep cpu interruptable).run kernel = none ∧
            (Op.exit cpu exitCode).run kernel = none := by
  refine ⟨fun op next stepped => Op.run_moves stepped pcb, fun code exited => ?_⟩
  have stays : kernel.state pcb = .exited code :=
    @Reachable.induction _ _ (fun kernel => kernel.state pcb = .exited code) exited
      (fun _ _ _ before _ stepped => by
        have moves := Op.run_moves stepped pcb
        rw [before] at moves
        exact moves.of_exited) _ reached
  refine ⟨stays, wakeup_exited stays, fun cpu running interruptable exitCode => ?_⟩
  subst running
  exact Op.run_refused (by rw [stays]; rfl) interruptable exitCode

/-- `twoCpus` after init is woken and process 3 on CPU 0 exits with code 7. -/
def exitedThree : Kernel := (Op.runs twoCpus [.wakeup 5, .exit 0 7]).getD twoCpus

/-- `exitedThree` after a `wakeup` of process 3 and a tick on each CPU. -/
def exitedThreeLater : Kernel := (Op.runs exitedThree [.wakeup 3, .timer 0, .timer 1]).getD exitedThree

theorem exitedThree_stays_exited :
    exitedThree.state 3 = .exited 7 ∧ exitedThreeLater.state 3 = .exited 7 ∧
      ProcessManager.wakeup exitedThreeLater 3 = some (exitedThreeLater, .error .EINVAL) := by
  have started : exitedThree.state 3 = .exited 7 := by decide
  have absorbed := (exited_absorbing
    (@Reachable.of_runs _ exitedThree [.wakeup 3, .timer 0, .timer 1] _ .refl (fun _ _ => trivial) _ rfl)
    3).2 7 started
  exact ⟨started, absorbed.1, absorbed.2.1⟩

end DragonOS
