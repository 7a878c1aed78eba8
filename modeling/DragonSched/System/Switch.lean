import DragonSched.System.Stranded
import DragonSched.System.Tables
import DragonSched.System.Fairness

namespace DragonOS

/-- The run queues hold processes only, and no idle process. -/
structure IdleFree (kernel : Kernel) : Prop where
  processes : ∀ cpu < kernel.maxCpuNum, ∀ entry ∈ (kernel.queues ⟨.root, cpu⟩).entries, ∃ pcb, entry = .pcb pcb
  idle : ∀ pcb, (kernel.pcbs pcb).pid = 0 → queuedCount kernel pcb = 0

namespace IdleFree

variable {kernel next : Kernel}

/-- Empty run queues, as `SchedulerCFS::new` builds them, are idle-free. -/
theorem of_empty (empty : ∀ cpu < kernel.maxCpuNum, (kernel.queues ⟨.root, cpu⟩).entries = []) :
    IdleFree kernel where
  processes cpu inRange entry member := by simp [empty cpu inRange] at member
  idle pcb _ := Finset.sum_eq_zero fun cpu inRange => by simp [empty cpu (Finset.mem_range.mp inRange)]

/-- Every entry of an idle-free queue is a process of nonzero pid. -/
theorem named (free : IdleFree kernel) {cpu : Nat} (inRange : cpu < kernel.maxCpuNum) {entry : Entry}
    (member : entry ∈ (kernel.queues ⟨.root, cpu⟩).entries) : ∃ pcb, entry = .pcb pcb ∧ (kernel.pcbs pcb).pid ≠ 0 := by
  obtain ⟨pcb, rfl⟩ := free.processes cpu inRange entry member
  refine ⟨pcb, rfl, fun idle => ?_⟩
  have counted := count_le_queuedCount kernel inRange pcb
  rw [free.idle pcb idle] at counted
  exact absurd (List.count_pos_iff.mpr member) (by omega)

/-- A step keeping CPUs, pids and queue entries keeps the queues idle-free. -/
theorem of_entries (free : IdleFree kernel) (cpus : next.maxCpuNum = kernel.maxCpuNum)
    (pids : ∀ pcb, (next.pcbs pcb).pid = (kernel.pcbs pcb).pid)
    (entries : ∀ cpu, (next.queues ⟨.root, cpu⟩).entries = (kernel.queues ⟨.root, cpu⟩).entries) :
    IdleFree next where
  processes cpu inRange entry member := free.processes cpu (cpus ▸ inRange) entry (entries cpu ▸ member)
  idle pcb idle := by
    simp only [queuedCount, cpus, entries]
    exact free.idle pcb (pids pcb ▸ idle)

theorem of_same (free : IdleFree kernel) (same : SameProcs kernel next)
    (entries : ∀ cpu, (next.queues ⟨.root, cpu⟩).entries = (kernel.queues ⟨.root, cpu⟩).entries) :
    IdleFree next :=
  free.of_entries same.maxCpuNum same.pid entries

theorem setState (free : IdleFree kernel) (pcb : PcbRef) (state : ProcessState) :
    IdleFree (kernel.setState pcb state) :=
  free.of_entries rfl (by simp) fun _ => rfl

/-- `sched_enqueue` lets no idle process in: `enqueue` skips pid 0. -/
theorem schedEnqueue (free : IdleFree kernel) {pcb : PcbRef} {resetTime : Bool}
    (enqueued : DragonOS.schedEnqueue kernel pcb resetTime = some next) : IdleFree next := by
  obtain ⟨same, counts, entries⟩ := schedEnqueue_counts enqueued
  refine ⟨fun cpu inRange entry member => ?_, fun other idle => ?_⟩
  · rcases entries cpu (same.maxCpuNum ▸ inRange) entry member with old | rfl
    · exact free.processes cpu (same.maxCpuNum ▸ inRange) entry old
    · exact ⟨pcb, rfl⟩
  · rw [same.pid] at idle
    rw [counts, free.idle other idle, if_neg fun ⟨same, nonzero⟩ => nonzero (same ▸ idle)]

/-- The selection only takes entries off the queue. -/
theorem schedSelect (free : IdleFree kernel) {selected : Kernel} {cpu : Nat} {queue : QueueRef} {se : Entry}
    (selectedEq : SchedulerCFS.schedSelect kernel cpu = some (selected, queue, se)) : IdleFree selected := by
  obtain ⟨-, -, same, others, rest, queued, left⟩ := schedSelect_entries selectedEq
  refine ⟨fun other inRange entry member => free.processes other (same.maxCpuNum ▸ inRange) entry ?_,
    fun pcb idle => Nat.eq_zero_of_le_zero ?_⟩
  · by_cases here : other = cpu
    · subst here
      rw [left] at member
      rw [queued]
      exact List.mem_cons_of_mem _ (List.mem_of_mem_tail member)
    · rwa [others _ fun same => here (congrArg QueueRef.cpu same)] at member
  · exact (queuedCount_schedSelect_le selectedEq pcb).trans (free.idle pcb (same.pid pcb ▸ idle)).le

theorem refreshBudget (free : IdleFree kernel) (tested refreshed priority) :
    IdleFree (SchedulerCFS.refreshBudget kernel tested refreshed priority) :=
  free.of_same (SameProcs.refreshBudget kernel tested refreshed priority) fun _ => entries_refreshBudget _ _ _ _ _

theorem sched (free : IdleFree kernel) {cpu : Nat} (scheduled : Arch.sched kernel cpu = some next) :
    IdleFree next :=
  @Arch.sched_induction IdleFree (fun free selectedEq => free.schedSelect selectedEq)
    (fun _ _ _ free => free.refreshBudget _ _ _) (fun free requeued => free.schedEnqueue requeued)
    (fun _ _ free => free.of_entries rfl (fun _ => rfl) fun _ => rfl) _ _ _ free scheduled

/-- `sched` switches only its own CPU, to a process popped from its queue. -/
theorem sched_switches (free : IdleFree kernel) {cpu : Nat} (scheduled : Arch.sched kernel cpu = some next)
    (other : Nat) : next.current other = kernel.current other ∨ (next.pcbs (next.current other)).pid ≠ 0 := by
  obtain ⟨inRange, key, first, rest, proc, popped, procEq, switched⟩ := Arch.sched_cases scheduled
  have member : first ∈ (kernel.queues ⟨.root, cpu⟩).entries := by simp [CFSQueue.entries, popped]
  obtain ⟨pcb, rfl, nonzero⟩ := free.named inRange member
  obtain rfl : pcb = proc := Option.some.inj procEq
  have pid : (next.pcbs pcb).pid = (kernel.pcbs pcb).pid :=
    congrFun (congrArg (·.2.2.2) (registryView_sched scheduled)) pcb
  rcases switched with switchedTo | ⟨kept, -⟩
  · by_cases here : other = cpu
    · subst here
      rw [switchedTo, Function.update_same, pid]
      exact .inr nonzero
    · rw [switchedTo, Function.update_noteq here]
      exact .inl rfl
  · exact .inl (congrFun kept other)

theorem markSleep (free : IdleFree kernel) (cpu : Nat) (interruptable : Bool) :
    IdleFree (ProcessManager.markSleep kernel cpu interruptable).1 ∧
      (ProcessManager.markSleep kernel cpu interruptable).1.current = kernel.current := by
  simp only [ProcessManager.markSleep]
  split
  · exact ⟨free.of_entries rfl (by simp) fun _ => rfl, rfl⟩
  · exact ⟨free, rfl⟩

/-- `wakeup` sets a state and enqueues, and switches no CPU. -/
theorem wakeup (free : IdleFree kernel) {pcb : PcbRef} {result : Except SystemError Unit}
    (woken : ProcessManager.wakeup kernel pcb = some (next, result)) :
    IdleFree next ∧ next.current = kernel.current := by
  rcases ProcessManager.wakeup_eq_some.mp woken with ⟨-, -, enqueued⟩ | ⟨-, rfl, -⟩
  · exact ⟨(free.setState pcb .runnable).schedEnqueue enqueued, (schedEnqueue_counts enqueued).1.current⟩
  · exact ⟨free, rfl⟩

/-- `exit` wakes the waiters and hands the children over before its `sched`, which alone switches. -/
theorem exit (free : IdleFree kernel) {cpu exitCode : Nat}
    (exited : ProcessManager.exit kernel cpu exitCode = some next) :
    IdleFree next ∧ ∀ other, next.current other = kernel.current other ∨ (next.pcbs (next.current other)).pid ≠ 0 := by
  obtain ⟨woke, kept, wokenEq, notified, notifiedEq, scheduled⟩ := ProcessManager.exit_eq_some.mp exited
  obtain ⟨wokeFree, wokeCurrent⟩ := @ProcessManager.wakeupWaiters_induction _
    (fun woke => IdleFree woke ∧ woke.current = kernel.current)
    (fun ⟨free, current⟩ first => ⟨(free.wakeup first).1, (free.wakeup first).2.trans current⟩) _ _ _ _
    ⟨free.setState _ _, rfl⟩ wokenEq
  have keptSame := SameProcs.updPcb woke (kernel.current cpu) (fun p => { p with waitQueue := kept })
    fun _ => ⟨rfl, rfl⟩
  obtain ⟨same, queues⟩ := exitNotify_same notifiedEq
  have notifiedFree := wokeFree.of_same (keptSame.trans same) fun _ => by rw [queues]; rfl
  refine ⟨notifiedFree.sched scheduled, fun other => ?_⟩
  rw [← wokeCurrent, ← keptSame.current, ← same.current]
  exact notifiedFree.sched_switches scheduled other

/-- Every step keeps the run queues idle-free and switches no CPU to an idle process. -/
theorem step (free : IdleFree kernel) {op : Op} (stepped : op.run kernel = some next) :
    IdleFree next ∧ ∀ cpu, next.current cpu = kernel.current cpu ∨ (next.pcbs (next.current cpu)).pid ≠ 0 := by
  cases op with
  | markSleep cpu interruptable =>
      obtain ⟨-, rfl⟩ := Op.run_markSleep_eq_some.mp stepped
      obtain ⟨slept, current⟩ := free.markSleep cpu interruptable
      exact ⟨slept, fun other => .inl (congrFun current other)⟩
  | sleep cpu interruptable =>
      obtain ⟨-, scheduled⟩ := Op.run_sleep_eq_some.mp stepped
      obtain ⟨slept, current⟩ := free.markSleep cpu interruptable
      exact ⟨slept.sched scheduled, fun other => current ▸ slept.sched_switches scheduled other⟩
  | wakeup pcb =>
      obtain ⟨result, woken⟩ := Op.run_wakeup_eq_some.mp stepped
      obtain ⟨wokeFree, current⟩ := free.wakeup woken
      exact ⟨wokeFree, fun other => .inl (congrFun current other)⟩
  | exit cpu exitCode => exact free.exit (Op.run_exit_eq_some.mp stepped).2
  | timer cpu =>
      obtain ⟨same, entries⟩ := timerUpdateJiffies_same stepped
      exact ⟨free.of_same same fun _ => entries _, fun other => .inl (congrFun same.current other)⟩
  | sched cpu => exact ⟨free.sched stepped, free.sched_switches stepped⟩

end IdleFree

/-- `sched` on a CPU with an unrunnable process switches to the popped one. -/
theorem sched_leaves_unrunnable {kernel next : Kernel} {cpu : Nat} (core : RunQueueCore kernel)
    (notRunnable : kernel.state (kernel.current cpu) ≠ .runnable) (scheduled : Arch.sched kernel cpu = some next) :
    next.current cpu ≠ kernel.current cpu := by
  obtain ⟨inRange, key, first, rest, proc, popped, procEq, switched⟩ := Arch.sched_cases scheduled
  rcases switched with switchedTo | ⟨-, runnable, -⟩
  · have member : first ∈ (kernel.queues ⟨.root, cpu⟩).entries := by simp [CFSQueue.entries, popped]
    obtain ⟨candidate, rfl⟩ := core.processEntries cpu inRange first member
    obtain rfl : candidate = proc := Option.some.inj procEq
    have queued := (List.count_pos_iff.mpr member).trans_le (count_le_queuedCount kernel inRange candidate)
    rw [switchedTo, Function.update_same]
    rintro rfl
    exact notRunnable (core.queuedRunnable _ queued)
  · exact absurd runnable notRunnable

/-- Sleeping or exiting gives the CPU up; `exit`'s `loop {}` is never reached. -/
theorem sleep_exit_give_up_cpu {kernel : Kernel} {cpu : Nat} (inv : RunQueueInv kernel)
    (inRange : cpu < kernel.maxCpuNum) :
    (∀ interruptable next, Arch.sched (ProcessManager.markSleep kernel cpu interruptable).1 cpu = some next →
        next.current cpu ≠ kernel.current cpu) ∧
      ∀ exitCode next, ProcessManager.exit kernel cpu exitCode = some next →
        next.current cpu ≠ kernel.current cpu ∧ next.state (kernel.current cpu) = .exited exitCode := by
  refine ⟨fun interruptable next scheduled => ?_, fun exitCode next exited => ⟨?_, (exit_states exited).1⟩⟩
  · rw [markSleep_of_live (inv.runsAwake cpu inRange).1] at scheduled
    have core := (inv.setCurrentState inRange (.blocked interruptable)).1.of_same
      (SameProcs.updFlags _ (kernel.current cpu) (·.insert .needSchedule)) fun _ => rfl
    have switched := sched_leaves_unrunnable core (by simp) scheduled
    exact switched
  obtain ⟨woke, kept, wokenEq, notified, notifiedEq, scheduled⟩ := ProcessManager.exit_eq_some.mp exited
  obtain ⟨core, unblocked⟩ := inv.exitState inRange exitCode
  obtain ⟨wokeCore, wakes⟩ := core.wakeupWaiters (fun waiter _ _ => not_sleepingOnCpu unblocked waiter) wokenEq
  have keptSame := SameProcs.updPcb woke (kernel.current cpu) (fun p => { p with waitQueue := kept })
    fun _ => ⟨rfl, rfl⟩
  obtain ⟨same, queues⟩ := exitNotify_same notifiedEq
  have notifiedWakes := wakes.trans (keptSame.trans same).wakes
  have current : notified.current cpu = kernel.current cpu := by
    rw [notifiedWakes.current]
    rfl
  -- the exiting process stays exited through the wakeups of its waiters
  have stays : notified.state (kernel.current cpu) = .exited exitCode := by
    rw [notifiedWakes.state_of_not_blocked (by simp [ProcessState.isBlocked])]
    simp
  rw [← current]
  exact sched_leaves_unrunnable ((wokeCore.of_same keptSame fun _ => rfl).of_same same fun _ => by rw [queues])
    (by rw [current, stays]; exact nofun) scheduled

/-- `wokenInit` after process 3, running on CPU 0, puts itself to sleep there. -/
def initSlept : Kernel := (Arch.sched (ProcessManager.markSleep wokenInit 0 false).1 0).getD wokenInit

/-- `wokenInit` after process 3, running on CPU 0, exits there with code 0. -/
def initExited : Kernel := (ProcessManager.exit wokenInit 0 0).getD wokenInit

theorem wokenInit_gives_up_cpu :
    initSlept.current 0 ≠ wokenInit.current 0 ∧
      initExited.current 0 ≠ wokenInit.current 0 ∧ initExited.state (wokenInit.current 0) = .exited 0 :=
  have inv : RunQueueInv wokenInit :=
    @RunQueueInv.step twoCpus wokenInit (.wakeup 5) twoCpus_inv (fun _ _ => Op.noConfusion) rfl
  ⟨(sleep_exit_give_up_cpu inv (by decide)).1 false initSlept rfl,
    (sleep_exit_give_up_cpu inv (by decide)).2 0 initExited rfl⟩

end DragonOS
