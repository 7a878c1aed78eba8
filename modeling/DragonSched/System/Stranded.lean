import DragonSched.System.Fairness

namespace DragonOS

/-- A runnable process no queue holds, no CPU runs and no entity names. -/
structure Stranded (kernel : Kernel) (pcb : PcbRef) : Prop where
  runnable : kernel.state pcb = .runnable
  unqueued : queuedCount kernel pcb = 0
  idle : runningCount kernel pcb = 0
  unnamed : ∀ se, (kernel.ses se).pcb ≠ some pcb

namespace Stranded

variable {kernel : Kernel} {pcb : PcbRef}

theorem of_same {next : Kernel} (stranded : Stranded kernel pcb) (same : SameProcs kernel next)
    (unqueued : queuedCount next pcb = 0) : Stranded next pcb where
  runnable := (same.state pcb).trans stranded.runnable
  unqueued := unqueued
  idle := by rw [same.runningCount]; exact stranded.idle
  unnamed := by rw [same.ses]; exact stranded.unnamed

/-- No CPU runs a stranded process. -/
theorem not_current (stranded : Stranded kernel pcb) {cpu : Nat} (inRange : cpu < kernel.maxCpuNum) :
    kernel.current cpu ≠ pcb := by
  rintro rfl
  have running := runningCount_pos kernel inRange
  have idle := stranded.idle
  omega

theorem setState (stranded : Stranded kernel pcb) {other : PcbRef} (different : other ≠ pcb)
    (state : ProcessState) : Stranded (kernel.setState other state) pcb where
  runnable := by rw [Kernel.state_setState, if_neg (Ne.symm different)]; exact stranded.runnable
  unqueued := stranded.unqueued
  idle := stranded.idle
  unnamed := stranded.unnamed

theorem setCurrent (stranded : Stranded kernel pcb) {cpu : Nat} (inRange : cpu < kernel.maxCpuNum)
    {proc : PcbRef} (different : proc ≠ pcb) : Stranded (kernel.setCurrent cpu proc) pcb where
  runnable := stranded.runnable
  unqueued := stranded.unqueued
  idle := by
    have switched := runningCount_setCurrent kernel inRange proc pcb
    have idle := stranded.idle
    rw [if_neg different] at switched
    omega
  unnamed := stranded.unnamed

theorem refreshBudget (stranded : Stranded kernel pcb) (tested refreshed priority) :
    Stranded (SchedulerCFS.refreshBudget kernel tested refreshed priority) pcb :=
  stranded.of_same (SameProcs.refreshBudget kernel tested refreshed priority)
    (by rw [queuedCount_refreshBudget]; exact stranded.unqueued)

/-- `sched_enqueue` of another process leaves a stranded one off the queues. -/
theorem schedEnqueue {next : Kernel} {other : PcbRef} {resetTime : Bool} (stranded : Stranded kernel pcb)
    (different : other ≠ pcb) (enqueued : DragonOS.schedEnqueue kernel other resetTime = some next) :
    Stranded next pcb := by
  obtain ⟨same, counts, -⟩ := schedEnqueue_counts enqueued
  exact stranded.of_same same (by rw [counts, stranded.unqueued, if_neg fun named => different named.1.symm])

/-- `wakeup` enqueues only a blocked process, never a stranded one. -/
theorem wakeup {next : Kernel} {waiter : PcbRef} {result : Except SystemError Unit}
    (stranded : Stranded kernel pcb) (woken : ProcessManager.wakeup kernel waiter = some (next, result)) :
    Stranded next pcb := by
  rcases ProcessManager.wakeup_eq_some.mp woken with ⟨blocked, -, enqueued⟩ | ⟨-, rfl, -⟩
  · have different : waiter ≠ pcb := by
      rintro rfl
      rw [stranded.runnable] at blocked
      cases blocked
    exact (stranded.setState different .runnable).schedEnqueue different enqueued
  · exact stranded

/-- `mark_sleep` blocks the process the CPU runs, which is not the stranded one. -/
theorem markSleep (stranded : Stranded kernel pcb) {cpu : Nat} (inRange : cpu < kernel.maxCpuNum)
    (interruptable : Bool) : Stranded (ProcessManager.markSleep kernel cpu interruptable).1 pcb := by
  simp only [ProcessManager.markSleep]
  split
  · have blocked := stranded.setState (stranded.not_current inRange) (.blocked interruptable)
    dsimp only
    exact blocked.of_same (SameProcs.updFlags _ _ _) blocked.unqueued
  · exact stranded

end Stranded

namespace Stranded

variable {kernel : Kernel} {pcb : PcbRef}

/-- `sched` switches only to, and puts back only, processes it took or ran. -/
theorem sched {next : Kernel} {cpu : Nat} (stranded : Stranded kernel pcb)
    (scheduled : Arch.sched kernel cpu = some next) : Stranded next pcb := by
  obtain ⟨after, picked, schedEq, switched⟩ := Arch.sched_eq_some.mp scheduled
  obtain ⟨selected, queue, se, selectedEq, proc, procEq, decided⟩ := SchedulerCFS.sched_eq_some.mp schedEq
  obtain ⟨inRange, rfl, same, -, rest, queued, -⟩ := schedSelect_entries selectedEq
  have notProc : proc ≠ pcb := by
    rintro rfl
    cases se with
    | pcb candidate =>
        obtain rfl : candidate = proc := Option.some.inj procEq
        have counted := count_le_queuedCount kernel inRange candidate
        rw [queued, List.count_cons_self] at counted
        have unqueued := stranded.unqueued
        omega
    | se entity => exact stranded.unnamed entity (by rw [← same.ses]; exact procEq)
  have selectedStranded : Stranded selected pcb :=
    stranded.of_same same (Nat.eq_zero_of_le_zero (stranded.unqueued ▸ queuedCount_schedSelect_le selectedEq pcb))
  have notCurrent : selected.current cpu ≠ pcb := by
    rw [same.current]
    exact stranded.not_current inRange
  have afterStranded : Stranded after pcb ∧ (picked = some se ∨ picked = none) := by
    rcases SchedulerCFS.schedDecide_cases decided with
      ⟨-, rfl, rfl⟩ | ⟨-, -, rfl, requeued, requeuedEq, rfl⟩ | ⟨-, -, rfl, pushedEq⟩
    · exact ⟨selectedStranded.refreshBudget _ _ _, .inl rfl⟩
    · exact ⟨(selectedStranded.schedEnqueue notCurrent requeuedEq).refreshBudget _ _ _, .inl rfl⟩
    · exact ⟨(selectedStranded.refreshBudget _ _ _).schedEnqueue notProc pushedEq, .inr rfl⟩
  rcases switched with ⟨-, rfl⟩ | ⟨chosen, switchedTo, rfl, found, rfl⟩
  · exact afterStranded.1
  · obtain rfl := Option.some.inj (afterStranded.2.resolve_right Option.noConfusion)
    rw [entryPcb_of_ses ((SameProcs.sched schedEq).ses.trans same.ses.symm), procEq] at found
    obtain rfl := Option.some.inj found
    exact afterStranded.1.setCurrent ((SameProcs.sched schedEq).maxCpuNum ▸ inRange) notProc

theorem exit {next : Kernel} {cpu exitCode : Nat} (stranded : Stranded kernel pcb)
    (inRange : cpu < kernel.maxCpuNum) (exited : ProcessManager.exit kernel cpu exitCode = some next) :
    Stranded next pcb := by
  obtain ⟨woke, kept, wokenEq, notified, notifiedEq, scheduled⟩ := ProcessManager.exit_eq_some.mp exited
  have wokeStranded := @ProcessManager.wakeupWaiters_induction _ (Stranded · pcb)
    (fun stranded first => stranded.wakeup first) _ _ _ _
    (stranded.setState (stranded.not_current inRange) (.exited exitCode)) wokenEq
  have keptStranded := wokeStranded.of_same
    (SameProcs.updPcb woke (kernel.current cpu) (fun p => { p with waitQueue := kept }) fun _ => ⟨rfl, rfl⟩)
    wokeStranded.unqueued
  obtain ⟨same, queues⟩ := exitNotify_same notifiedEq
  refine (keptStranded.of_same same ?_).sched scheduled
  simpa only [queuedCount, same.maxCpuNum, queues] using keptStranded.unqueued

/-- Every step keeps a process stranded. -/
theorem step {next : Kernel} {op : Op} (stranded : Stranded kernel pcb) (stepped : op.run kernel = some next) :
    Stranded next pcb := by
  cases op with
  | markSleep cpu interruptable =>
      obtain ⟨live, rfl⟩ := Op.run_markSleep_eq_some.mp stepped
      exact stranded.markSleep live.1 interruptable
  | sleep cpu interruptable =>
      obtain ⟨live, scheduled⟩ := Op.run_sleep_eq_some.mp stepped
      exact (stranded.markSleep live.1 interruptable).sched scheduled
  | wakeup waiter =>
      obtain ⟨result, woken⟩ := Op.run_wakeup_eq_some.mp stepped
      exact stranded.wakeup woken
  | exit cpu exitCode =>
      obtain ⟨live, exited⟩ := Op.run_exit_eq_some.mp stepped
      exact stranded.exit live.1 exited
  | timer cpu =>
      obtain ⟨same, entries⟩ := timerUpdateJiffies_same stepped
      exact stranded.of_same same (by simpa only [queuedCount, same.maxCpuNum, entries] using stranded.unqueued)
  | sched cpu => exact stranded.sched stepped

end Stranded

/-- A process `sched` dropped from its queue is never run again. -/
theorem stranded_never_runs {start kernel : Kernel} {pcb : PcbRef} (stranded : Stranded start pcb)
    (reached : Reachable (fun _ => True) start kernel) :
    kernel.state pcb = .runnable ∧ queuedCount kernel pcb = 0 ∧
      ∀ cpu < kernel.maxCpuNum, kernel.current cpu ≠ pcb := by
  have reachedStranded := @Reachable.induction _ _ (Stranded · pcb) stranded
    (fun _ _ _ holds _ stepped => holds.step stepped) _ reached
  exact ⟨reachedStranded.runnable, reachedStranded.unqueued, fun _ inRange => reachedStranded.not_current inRange⟩

/-- `twoQueued` after `sched` on CPU 0 switched to 4 and lost 5. -/
def droppedSecond : Kernel := (Arch.sched twoQueued 0).getD twoQueued

theorem droppedSecond_never_runs :
    droppedSecond.state 5 = .runnable ∧ queuedCount droppedSecond 5 = 0 ∧
      ∀ cpu < droppedSecond.maxCpuNum, droppedSecond.current cpu ≠ 5 :=
  stranded_never_runs ⟨by decide, by decide, by decide, fun _ => Option.noConfusion⟩ .refl

end DragonOS
