import DragonSched.System.Budget

namespace DragonOS

open ProcessManager

/-- What the reschedule flag's invariant reads: CPUs, running processes, flags. -/
def flagView (kernel : Kernel) : Nat × (Nat → PcbRef) × (PcbRef → ProcessFlags) :=
  (kernel.maxCpuNum, kernel.current, fun pcb => (kernel.pcbs pcb).flags)

section View

variable (kernel : Kernel)

@[simp] theorem flagView_updQueue (queue change) : flagView (kernel.updQueue queue change) = flagView kernel := rfl

theorem flagView_updPcb (pcb : PcbRef) {change : ProcessControlBlock → ProcessControlBlock}
    (keeps : ∀ p, (change p).flags = p.flags) : flagView (kernel.updPcb pcb change) = flagView kernel := by
  simp only [flagView, Kernel.updPcb_maxCpuNum, Kernel.updPcb_current, Prod.mk.injEq, true_and]
  exact funext fun other => by by_cases same : other = pcb <;> simp [same, keeps]

@[simp] theorem flagView_setState (pcb state) : flagView (kernel.setState pcb state) = flagView kernel :=
  flagView_updPcb kernel pcb fun _ => rfl

@[simp] theorem flagView_setVirtualRuntime (pcb value) :
    flagView (kernel.setVirtualRuntime pcb value) = flagView kernel :=
  flagView_updPcb kernel pcb fun _ => rfl

@[simp] theorem flagView_refreshBudget (tested refreshed priority) :
    flagView (SchedulerCFS.refreshBudget kernel tested refreshed priority) = flagView kernel := by
  unfold SchedulerCFS.refreshBudget
  split <;> rfl

@[simp] theorem flagView_resetVruntime (queue pcb) :
    flagView (SchedulerCFS.resetVruntime kernel queue pcb) = flagView kernel := by
  unfold SchedulerCFS.resetVruntime
  split <;> simp

end View

theorem flagView_schedEnqueue {kernel next : Kernel} {pcb : PcbRef} {resetTime : Bool}
    (enqueued : schedEnqueue kernel pcb resetTime = some next) : flagView next = flagView kernel := by
  unfold schedEnqueue at enqueued
  split at enqueued
  · obtain ⟨cpu, -, -, rfl⟩ := SchedulerCFS.enqueueResetVruntime_eq_some.mp enqueued
    simp
  · obtain ⟨cpu, -, -, rfl⟩ := SchedulerCFS.enqueuePcb_eq_some.mp enqueued
    rfl

/-- The decision half of `sched` moves no flag and switches no CPU. -/
theorem flagView_schedDecide {kernel next : Kernel} {current : PcbRef} {queue final : QueueRef} {se : Entry}
    {proc : PcbRef} {picked : Option Entry}
    (decided : SchedulerCFS.schedDecide kernel current queue final se proc = some (next, picked)) :
    flagView next = flagView kernel := by
  rcases SchedulerCFS.schedDecide_cases decided with
    ⟨-, -, rfl⟩ | ⟨-, -, -, requeued, requeuedEq, rfl⟩ | ⟨-, -, -, pushedEq⟩
  · simp
  · rw [flagView_refreshBudget, flagView_schedEnqueue requeuedEq]
  · rw [flagView_schedEnqueue pushedEq, flagView_refreshBudget]

theorem flagView_wakeup {kernel next : Kernel} {pcb : PcbRef} {result : Except SystemError Unit}
    (woken : wakeup kernel pcb = some (next, result)) : flagView next = flagView kernel := by
  rcases wakeup_eq_some.mp woken with ⟨-, -, enqueued⟩ | ⟨-, rfl, -⟩
  · rw [flagView_schedEnqueue enqueued, flagView_setState]
  · rfl

theorem flagView_exitNotify {kernel next : Kernel} {cpu : Nat} (notified : exitNotify kernel cpu = some next) :
    flagView next = flagView kernel := by
  rcases exitNotify_eq_some notified with rfl | rfl
  · rfl
  · unfold adoptChilden
    split
    · dsimp only
      refine (flagView_updPcb _ _ ?_).trans (flagView_updPcb _ _ ?_) <;> exact fun _ => rfl
    · rfl

/-- `NEED_SCHEDULE` is set only on processes that a CPU runs. -/
def FlaggedRunning (kernel : Kernel) : Prop :=
  ∀ pcb, (kernel.pcbs pcb).flags.contains .needSchedule = true → ∃ cpu < kernel.maxCpuNum, kernel.current cpu = pcb

namespace FlaggedRunning

variable {kernel next : Kernel}

theorem of_view (flagged : FlaggedRunning kernel) (same : flagView next = flagView kernel) :
    FlaggedRunning next := by
  simp only [flagView, Prod.mk.injEq] at same
  obtain ⟨cpus, current, flags⟩ := same
  intro pcb set
  rw [cpus, current]
  exact flagged pcb (by simpa only [← congrFun flags pcb] using set)

theorem setState (flagged : FlaggedRunning kernel) (pcb : PcbRef) (state : ProcessState) :
    FlaggedRunning (kernel.setState pcb state) :=
  flagged.of_view (flagView_setState _ _ _)

theorem setVirtualRuntime (flagged : FlaggedRunning kernel) (pcb : PcbRef) (value : Int) :
    FlaggedRunning (kernel.setVirtualRuntime pcb value) :=
  flagged.of_view (flagView_setVirtualRuntime _ _ _)

/-- Changing the flags of the process a CPU runs keeps the invariant, whatever the change. -/
theorem updFlags (flagged : FlaggedRunning kernel) {cpu : Nat} (inRange : cpu < kernel.maxCpuNum)
    (change : ProcessFlags → ProcessFlags) : FlaggedRunning (kernel.updFlags (kernel.current cpu) change) := by
  intro pcb set
  by_cases running : pcb = kernel.current cpu
  · exact ⟨cpu, inRange, running.symm⟩
  · rw [flags_updFlags, if_neg running] at set
    exact flagged pcb set

/-- A tick sets the flag only on the process its CPU runs. -/
theorem timer (flagged : FlaggedRunning kernel) {cpu : Nat}
    (ticked : SchedulerCFS.timerUpdateJiffies kernel .root cpu = some next) : FlaggedRunning next := by
  simp only [SchedulerCFS.timerUpdateJiffies, bind, Option.bind_eq_some, Kernel.cpuQueue_eq_some, pure,
    Option.some.injEq] at ticked
  obtain ⟨_, ⟨inRange, rfl⟩, rfl⟩ := ticked
  have budgeted : FlaggedRunning (kernel.updQueue ⟨.root, cpu⟩ fun q =>
      { q with cpuExecProcJiffies := q.cpuExecProcJiffies - 1#64 }) :=
    flagged.of_view rfl
  apply FlaggedRunning.setVirtualRuntime
  split
  · exact budgeted.updFlags inRange _
  · exact budgeted

/-- `mark_sleep` sets the flag only on the process its CPU runs. -/
theorem markSleep (flagged : FlaggedRunning kernel) {cpu : Nat} (inRange : cpu < kernel.maxCpuNum)
    (interruptable : Bool) : FlaggedRunning (ProcessManager.markSleep kernel cpu interruptable).1 := by
  simp only [ProcessManager.markSleep]
  split
  · dsimp only
    exact (flagged.setState _ _).updFlags inRange _
  · exact flagged

/-- `sched` clears its process's flag before switching, so flagged processes run elsewhere. -/
theorem sched (flagged : FlaggedRunning kernel) {cpu : Nat} (scheduled : Arch.sched kernel cpu = some next) :
    FlaggedRunning next := by
  obtain ⟨after, picked, schedEq, switched⟩ := Arch.sched_eq_some.mp scheduled
  obtain ⟨selected, queue, se, selectedEq, proc, -, decided⟩ := SchedulerCFS.sched_eq_some.mp schedEq
  obtain ⟨inRange, rfl, rest, -, rfl⟩ := SchedulerCFS.schedSelect_eq_some.mp selectedEq
  simp only [Kernel.updQueue_current, Kernel.updFlags_current] at decided
  have decidedView := flagView_schedDecide decided
  simp only [flagView, Prod.mk.injEq] at decidedView
  obtain ⟨cpus, current, flags⟩ := decidedView
  -- after the selection, every flagged process runs on a CPU other than `cpu`
  have elsewhere (pcb : PcbRef) (set : (after.pcbs pcb).flags.contains .needSchedule = true) :
      ∃ other < after.maxCpuNum, other ≠ cpu ∧ after.current other = pcb := by
    rw [congrFun flags pcb] at set
    simp only [Kernel.updQueue_pcbs, flags_updFlags] at set
    split_ifs at set with running
    · simp at set
    · obtain ⟨other, otherInRange, runs⟩ := flagged pcb set
      refine ⟨other, by simpa [cpus] using otherInRange, fun same => running (same ▸ runs).symm, ?_⟩
      simpa [current] using runs
  rcases switched with ⟨-, rfl⟩ | ⟨-, proc, -, -, rfl⟩
  · intro pcb set
    obtain ⟨other, otherInRange, -, runs⟩ := elsewhere pcb set
    exact ⟨other, otherInRange, runs⟩
  · intro pcb set
    obtain ⟨other, otherInRange, different, runs⟩ := elsewhere pcb set
    exact ⟨other, otherInRange, by simp [different, runs]⟩

theorem wakeup (flagged : FlaggedRunning kernel) {pcb : PcbRef} {result : Except SystemError Unit}
    (woken : ProcessManager.wakeup kernel pcb = some (next, result)) : FlaggedRunning next :=
  flagged.of_view (flagView_wakeup woken)

/-- `exit` wakes the waiters and hands the children over, moving no flag, and then schedules. -/
theorem exit (flagged : FlaggedRunning kernel) {cpu exitCode : Nat}
    (exited : ProcessManager.exit kernel cpu exitCode = some next) : FlaggedRunning next := by
  obtain ⟨woke, kept, wokenEq, notified, notifiedEq, scheduled⟩ := ProcessManager.exit_eq_some.mp exited
  have wokeFlagged := @wakeupWaiters_induction _ FlaggedRunning (fun flagged first => flagged.wakeup first)
    _ _ _ _ (flagged.setState _ _) wokenEq
  have keptView : flagView (woke.updPcb (kernel.current cpu) fun p => { p with waitQueue := kept }) =
      flagView woke := flagView_updPcb _ _ fun _ => rfl
  exact (wokeFlagged.of_view ((flagView_exitNotify notifiedEq).trans keptView)).sched scheduled

theorem step (flagged : FlaggedRunning kernel) {op : Op} (stepped : op.run kernel = some next) :
    FlaggedRunning next := by
  cases op with
  | markSleep cpu interruptable =>
      obtain ⟨live, rfl⟩ := Op.run_markSleep_eq_some.mp stepped
      exact flagged.markSleep live.1 interruptable
  | sleep cpu interruptable =>
      obtain ⟨live, scheduled⟩ := Op.run_sleep_eq_some.mp stepped
      exact (flagged.markSleep live.1 interruptable).sched scheduled
  | wakeup pcb =>
      obtain ⟨result, woken⟩ := Op.run_wakeup_eq_some.mp stepped
      exact flagged.wakeup woken
  | exit cpu exitCode => exact flagged.exit (Op.run_exit_eq_some.mp stepped).2
  | timer cpu => exact flagged.timer stepped
  | sched cpu => exact flagged.sched stepped

end FlaggedRunning

/-- Along every run only running processes have `NEED_SCHEDULE` set. -/
theorem needSchedule_only_running {start kernel : Kernel} (flagged : FlaggedRunning start)
    (reached : Reachable (fun _ => True) start kernel) (pcb : PcbRef)
    (idle : ∀ cpu < kernel.maxCpuNum, kernel.current cpu ≠ pcb) :
    (kernel.pcbs pcb).flags.contains .needSchedule = false := by
  have held : FlaggedRunning kernel := reached.induction flagged fun _ _ _ flagged _ stepped => flagged.step stepped
  by_contra set
  obtain ⟨cpu, inRange, runs⟩ := held pcb (Bool.not_eq_false _ ▸ set)
  exact idle cpu inRange runs

/-- `twoCpus` after a tick flags 3, init 5 wakes, and CPU 0 switches to 5. -/
def tickedSwitched : Kernel := (Op.runs twoCpus [.timer 0, .wakeup 5, .sched 0]).getD twoCpus

/-- No process of `twoCpus` has a flag set. -/
theorem flags_twoCpus (pcb : PcbRef) : (twoCpus.pcbs pcb).flags = .empty := by
  simp only [twoCpus]
  split <;> rfl

theorem tickedSwitched_flag_clear :
    (∀ cpu < tickedSwitched.maxCpuNum, tickedSwitched.current cpu ≠ 3) ∧
      (tickedSwitched.pcbs 3).flags.contains .needSchedule = false :=
  have idle : ∀ cpu < tickedSwitched.maxCpuNum, tickedSwitched.current cpu ≠ 3 := by decide
  ⟨idle, @needSchedule_only_running twoCpus tickedSwitched
    (fun pcb set => absurd set (by rw [flags_twoCpus]; decide))
    (.step (.sched 0) (.step (.wakeup 5) (.step (.timer 0) .refl trivial rfl) trivial rfl) trivial rfl) 3 idle⟩

end DragonOS
