import DragonSched.System.RunQueue

namespace DragonOS

open Finset

/-- The CPU runs an idle process or a process that is not blocked. -/
def RunsUnblocked (kernel : Kernel) (cpu : Nat) : Prop :=
  (kernel.pcbs (kernel.current cpu)).pid ≠ 0 → (kernel.state (kernel.current cpu)).isBlocked = false

/-- The CPU runs a process that has not exited, and is not blocked unless idle. -/
def RunsAwake (kernel : Kernel) (cpu : Nat) : Prop :=
  (kernel.state (kernel.current cpu)).isExited = false ∧ RunsUnblocked kernel cpu

/-- Each process in one place at most, queued processes runnable, process entries only. -/
structure RunQueueCore (kernel : Kernel) : Prop where
  single : ∀ pcb, queuedCount kernel pcb + runningCount kernel pcb ≤ 1
  queuedRunnable : ∀ pcb, 0 < queuedCount kernel pcb → kernel.state pcb = .runnable
  processEntries : ∀ cpu < kernel.maxCpuNum, ∀ entry ∈ (kernel.queues ⟨.root, cpu⟩).entries,
    ∃ pcb, entry = .pcb pcb

/-- The run-queue invariant: the core, and every CPU runs awake. -/
structure RunQueueInv (kernel : Kernel) extends RunQueueCore kernel : Prop where
  runsAwake : ∀ cpu < kernel.maxCpuNum, RunsAwake kernel cpu


/-- The selection half of `sched` takes the candidate off its queue, perhaps one more entry. -/
theorem schedSelect_counts {kernel selected : Kernel} {cpu : Nat} {queue : QueueRef} {se : Entry}
    (core : RunQueueCore kernel)
    (selectedEq : SchedulerCFS.schedSelect kernel cpu = some (selected, queue, se)) :
    cpu < kernel.maxCpuNum ∧ queue = ⟨.root, cpu⟩ ∧ SameProcs kernel selected ∧
      ∃ proc, se = .pcb proc ∧ 0 < queuedCount kernel proc ∧
      (∀ other, queuedCount selected other + (if other = proc then 1 else 0) ≤
        queuedCount kernel other) ∧
      ∀ other < kernel.maxCpuNum, ∀ entry ∈ (selected.queues ⟨.root, other⟩).entries,
        entry ∈ (kernel.queues ⟨.root, other⟩).entries := by
  obtain ⟨inRange, rfl, rest, dequeued, rfl⟩ := SchedulerCFS.schedSelect_eq_some.mp selectedEq
  have shape := (CFSQueue.dequeueSe_eq_some dequeued).1
  obtain ⟨proc, rfl⟩ := core.processEntries cpu inRange se (by simp [shape])
  have flagged := SameProcs.updFlags kernel (kernel.current cpu) (·.remove .needSchedule)
  refine ⟨inRange, rfl, (flagged.trans (SameProcs.updQueue _ _ _)).trans (SameProcs.updQueue _ _ _),
    proc, rfl, ?_, fun other => ?_, fun other _ entry member => ?_⟩
  · have counted := count_le_queuedCount kernel inRange proc
    rw [shape, List.count_cons_self] at counted
    omega
  · have popped := queuedCount_dequeueSe (kernel.updFlags (kernel.current cpu) (·.remove .needSchedule))
      inRange dequeued other
    have loop := queuedCount_dequeue_le
      ((kernel.updFlags (kernel.current cpu) (·.remove .needSchedule)).updQueue ⟨.root, cpu⟩
        fun _ => rest) inRange other
    simp only [queuedCount_updFlags, Entry.pcb.injEq] at popped loop
    by_cases same : other = proc
    · subst same
      simp only [ite_true] at popped ⊢
      omega
    · simp only [same, Ne.symm same, ite_false] at popped ⊢
      omega
  · by_cases here : other = cpu
    · subst here
      simp only [Kernel.updQueue_queues, ite_true] at member
      have older := CFSQueue.mem_dequeue_entries member
      rw [shape]
      exact List.mem_cons_of_mem _ older
    · simpa [here] using member


theorem RunQueueCore.of_fewer {kernel after : Kernel} (core : RunQueueCore kernel)
    (same : SameProcs kernel after) (fewer : ∀ pcb, queuedCount after pcb ≤ queuedCount kernel pcb)
    (entries : ∀ cpu < kernel.maxCpuNum, ∀ entry ∈ (after.queues ⟨.root, cpu⟩).entries,
      ∃ pcb, entry = .pcb pcb) : RunQueueCore after where
  single pcb := by
    have := core.single pcb
    have := fewer pcb
    rw [same.runningCount]
    omega
  queuedRunnable pcb queued := by
    rw [same.state]
    exact core.queuedRunnable pcb (lt_of_lt_of_le queued (fewer pcb))
  processEntries cpu inRange := entries cpu (same.maxCpuNum ▸ inRange)

/-- The core after a switch to the queued `proc`, which came off the queues. -/
theorem RunQueueCore.switch {kernel after : Kernel} {cpu : Nat} {proc : PcbRef}
    (core : RunQueueCore kernel) (inRange : cpu < kernel.maxCpuNum) (same : SameProcs kernel after)
    (queuedProc : 0 < queuedCount kernel proc)
    (counts : ∀ pcb, queuedCount after pcb + (if pcb = proc then 1 else 0) ≤ queuedCount kernel pcb +
      if pcb = kernel.current cpu ∧ kernel.state pcb = .runnable then 1 else 0)
    (entries : ∀ other < kernel.maxCpuNum, ∀ entry ∈ (after.queues ⟨.root, other⟩).entries,
      ∃ pcb, entry = .pcb pcb) :
    RunQueueCore (after.setCurrent cpu proc) where
  single pcb := by
    have switched := runningCount_setCurrent after (same.maxCpuNum ▸ inRange) proc pcb
    have counted := counts pcb
    have before := core.single pcb
    have running := core.single (kernel.current cpu)
    have onCpu := runningCount_pos kernel inRange
    have queued := core.single proc
    rw [same.runningCount, same.current] at switched
    simp only [queuedCount_setCurrent]
    by_cases isCurrent : pcb = kernel.current cpu
    · subst isCurrent
      by_cases isProc : kernel.current cpu = proc
      · rw [isProc] at onCpu; omega
      · simp only [isProc, Ne.symm isProc, ite_false, ite_true, true_and] at switched counted
        split at counted <;> omega
    · simp only [isCurrent, Ne.symm isCurrent, false_and, ite_false] at switched counted
      by_cases isProc : pcb = proc
      · subst isProc; simp only [ite_true] at switched counted; omega
      · simp only [isProc, Ne.symm isProc, ite_false] at switched counted; omega
  queuedRunnable pcb queued := by
    simp only [queuedCount_setCurrent, Kernel.state_setCurrent] at queued ⊢
    rw [same.state]
    have counted := counts pcb
    by_cases wasQueued : 0 < queuedCount kernel pcb
    · exact core.queuedRunnable pcb wasQueued
    · by_cases requeued : pcb = kernel.current cpu ∧ kernel.state pcb = .runnable
      · exact requeued.2
      · simp only [requeued, ite_false] at counted
        omega
  processEntries other inRange := entries other (same.maxCpuNum ▸ inRange)


/-- Same CPUs, running processes and pids; each process keeps its state or wakes. -/
structure Wakes (kernel next : Kernel) : Prop where
  maxCpuNum : next.maxCpuNum = kernel.maxCpuNum
  current : next.current = kernel.current
  pid : ∀ pcb, (next.pcbs pcb).pid = (kernel.pcbs pcb).pid
  state : ∀ pcb, next.state pcb = kernel.state pcb ∨
    (kernel.state pcb).isBlocked = true ∧ next.state pcb = .runnable

theorem SameProcs.wakes {kernel next : Kernel} (same : SameProcs kernel next) : Wakes kernel next :=
  ⟨same.maxCpuNum, same.current, same.pid, fun pcb => .inl (same.state pcb)⟩

theorem Wakes.trans {first second third : Kernel} (one : Wakes first second)
    (two : Wakes second third) : Wakes first third where
  maxCpuNum := two.maxCpuNum.trans one.maxCpuNum
  current := two.current.trans one.current
  pid pcb := (two.pid pcb).trans (one.pid pcb)
  state pcb := by
    rcases two.state pcb with same | ⟨blocked, runnable⟩
    · rw [same]
      exact one.state pcb
    · rcases one.state pcb with kept | ⟨-, woken⟩
      · exact .inr ⟨kept ▸ blocked, runnable⟩
      · rw [woken] at blocked
        cases blocked

/-- A process that is not blocked keeps its state through wakeups. -/
theorem Wakes.state_of_not_blocked {kernel next : Kernel} (wakes : Wakes kernel next) {pcb : PcbRef}
    (awake : (kernel.state pcb).isBlocked = false) : next.state pcb = kernel.state pcb :=
  (wakes.state pcb).resolve_right fun ⟨blocked, _⟩ => by rw [awake] at blocked; cases blocked

/-- `wakeup` makes runnable only the process it wakes, and only from Blocked. -/
theorem Wakes.of_wakeup {kernel next : Kernel} {pcb : PcbRef} {result : Except SystemError Unit}
    (woken : ProcessManager.wakeup kernel pcb = some (next, result)) : Wakes kernel next := by
  rcases ProcessManager.wakeup_eq_some.mp woken with ⟨blocked, -, enqueued⟩ | ⟨-, rfl, -⟩
  · have same := (schedEnqueue_counts enqueued).1
    refine ⟨same.maxCpuNum, same.current, fun other => by rw [same.pid, Kernel.pid_setState],
      fun other => ?_⟩
    rw [same.state, Kernel.state_setState]
    split
    · rename_i here
      exact .inr ⟨here ▸ blocked, rfl⟩
    · exact .inl rfl
  · exact (SameProcs.refl _).wakes

theorem RunsUnblocked.of_wakes {kernel next : Kernel} {cpu : Nat} (wakes : Wakes kernel next)
    (unblocked : RunsUnblocked kernel cpu) : RunsUnblocked next cpu := by
  intro active
  rw [wakes.current, wakes.pid] at active
  rw [wakes.current]
  rcases wakes.state (kernel.current cpu) with same | ⟨-, runnable⟩
  · rw [same]
    exact unblocked active
  · rw [runnable]
    rfl

/-- A CPU whose process has not exited keeps one through wakeups. -/
theorem Wakes.live {kernel next : Kernel} {cpu : Nat} (wakes : Wakes kernel next)
    (live : (kernel.state (kernel.current cpu)).isExited = false) :
    (next.state (next.current cpu)).isExited = false := by
  rw [wakes.current]
  rcases wakes.state (kernel.current cpu) with same | ⟨-, runnable⟩
  · rwa [same]
  · rw [runnable]
    rfl

theorem RunsAwake.of_wakes {kernel next : Kernel} {cpu : Nat} (wakes : Wakes kernel next)
    (awake : RunsAwake kernel cpu) : RunsAwake next cpu :=
  ⟨wakes.live awake.1, awake.2.of_wakes wakes⟩

theorem RunsAwake.of_runnable {kernel : Kernel} {cpu : Nat}
    (runnable : kernel.state (kernel.current cpu) = .runnable) : RunsAwake kernel cpu :=
  ⟨by rw [runnable]; rfl, fun _ => by rw [runnable]; rfl⟩


/-- What `sched` leaves of the CPUs: a runnable process on `cpu`, others unchanged. -/
structure Rescheduled (kernel next : Kernel) (cpu : Nat) : Prop where
  maxCpuNum : next.maxCpuNum = kernel.maxCpuNum
  state : ∀ pcb, next.state pcb = kernel.state pcb
  pid : ∀ pcb, (next.pcbs pcb).pid = (kernel.pcbs pcb).pid
  elsewhere : ∀ other, other ≠ cpu → next.current other = kernel.current other
  runnable : next.state (next.current cpu) = .runnable

theorem SameProcs.rescheduled {kernel next : Kernel} {cpu : Nat} (same : SameProcs kernel next)
    (runnable : kernel.state (kernel.current cpu) = .runnable) : Rescheduled kernel next cpu :=
  ⟨same.maxCpuNum, same.state, same.pid, fun _ _ => by rw [same.current],
    by rw [same.current, same.state, runnable]⟩

theorem SameProcs.switched {kernel after : Kernel} {cpu : Nat} {proc : PcbRef} (same : SameProcs kernel after)
    (runnable : kernel.state proc = .runnable) : Rescheduled kernel (after.setCurrent cpu proc) cpu :=
  ⟨same.maxCpuNum, fun pcb => by rw [Kernel.state_setCurrent, same.state], same.pid,
    fun other different => by rw [Kernel.setCurrent_current, if_neg different, same.current],
    by rw [Kernel.setCurrent_current, if_pos rfl, Kernel.state_setCurrent, same.state, runnable]⟩

theorem Rescheduled.state_current {kernel next : Kernel} {cpu other : Nat}
    (rescheduled : Rescheduled kernel next cpu) (different : other ≠ cpu) :
    next.state (next.current other) = kernel.state (kernel.current other) := by
  rw [rescheduled.elsewhere other different, rescheduled.state]

theorem Rescheduled.runsAwake {kernel next : Kernel} {cpu : Nat} (rescheduled : Rescheduled kernel next cpu)
    (elsewhere : ∀ other < kernel.maxCpuNum, other ≠ cpu → RunsAwake kernel other) :
    ∀ other < next.maxCpuNum, RunsAwake next other := by
  intro other inRange
  by_cases here : other = cpu
  · subst here
    exact RunsAwake.of_runnable rescheduled.runnable
  · have awake := elsewhere other (rescheduled.maxCpuNum ▸ inRange) here
    unfold RunsAwake RunsUnblocked at awake ⊢
    rwa [rescheduled.elsewhere other here, rescheduled.state, rescheduled.pid]

theorem Rescheduled.live {kernel next : Kernel} {cpu : Nat} (rescheduled : Rescheduled kernel next cpu)
    (elsewhere : ∀ other < kernel.maxCpuNum, other ≠ cpu → (kernel.state (kernel.current other)).isExited = false) :
    ∀ other < next.maxCpuNum, (next.state (next.current other)).isExited = false := by
  intro other inRange
  by_cases here : other = cpu
  · subst here
    rw [rescheduled.runnable]
    rfl
  · rw [rescheduled.state_current here]
    exact elsewhere other (rescheduled.maxCpuNum ▸ inRange) here

/-- The switch branch of `sched`: the candidate came off, a runnable process went back. -/
theorem RunQueueCore.switchTo {kernel selected : Kernel} {cpu : Nat} {candidate : PcbRef}
    (core : RunQueueCore kernel) (inRange : cpu < kernel.maxCpuNum)
    (sameSelected : SameProcs kernel selected) (queuedCandidate : 0 < queuedCount kernel candidate)
    (selectedCount : ∀ other, queuedCount selected other + (if other = candidate then 1 else 0) ≤
      queuedCount kernel other)
    (selectedEntries : ∀ other < kernel.maxCpuNum, ∀ entry ∈ (selected.queues ⟨.root, other⟩).entries,
      entry ∈ (kernel.queues ⟨.root, other⟩).entries) (requeued : Kernel)
    (sameRequeued : SameProcs selected requeued)
    (requeuedCount : ∀ pcb, queuedCount requeued pcb ≤ queuedCount selected pcb +
      if pcb = kernel.current cpu ∧ kernel.state pcb = .runnable then 1 else 0)
    (requeuedEntries : ∀ other < kernel.maxCpuNum, ∀ entry ∈ (requeued.queues ⟨.root, other⟩).entries,
      entry ∈ (selected.queues ⟨.root, other⟩).entries ∨ entry = .pcb (kernel.current cpu))
    (tested refreshed : QueueRef) (priority : SchedPriority) :
    RunQueueCore ((SchedulerCFS.refreshBudget requeued tested refreshed priority).setCurrent cpu candidate) ∧
      Rescheduled kernel ((SchedulerCFS.refreshBudget requeued tested refreshed priority).setCurrent cpu candidate)
        cpu := by
  have same := (sameSelected.trans sameRequeued).trans (SameProcs.refreshBudget requeued tested refreshed priority)
  refine ⟨core.switch inRange same queuedCandidate (fun pcb => ?_) (fun other inRange entry member => ?_),
    same.switched (core.queuedRunnable _ queuedCandidate)⟩
  · rw [queuedCount_refreshBudget]
    have taken := selectedCount pcb
    have putBack := requeuedCount pcb
    omega
  · rw [entries_refreshBudget] at member
    rcases requeuedEntries other inRange entry member with old | rfl
    · exact core.processEntries other inRange entry (selectedEntries other inRange entry old)
    · exact ⟨_, rfl⟩

/-- `sched` keeps the core and leaves a runnable process on its CPU. -/
theorem RunQueueCore.schedule {kernel next : Kernel} {cpu : Nat} (core : RunQueueCore kernel)
    (scheduled : Arch.sched kernel cpu = some next) : RunQueueCore next ∧ Rescheduled kernel next cpu := by
  obtain ⟨after, picked, schedEq, switched⟩ := Arch.sched_eq_some.mp scheduled
  obtain ⟨selected, queue, se, selectedEq, proc, procEq, decided⟩ :=
    SchedulerCFS.sched_eq_some.mp schedEq
  obtain ⟨inRange, rfl, sameSelected, candidate, rfl, queuedCandidate, selectedCount,
    selectedEntries⟩ := schedSelect_counts core selectedEq
  obtain rfl : candidate = proc := Option.some.inj procEq
  rw [sameSelected.current] at decided
  have switchTo := core.switchTo inRange sameSelected queuedCandidate selectedCount selectedEntries
  rcases SchedulerCFS.schedDecide_cases decided with
    ⟨-, rfl, rfl⟩ | ⟨runnable, -, rfl, requeued, requeuedEq, rfl⟩ | ⟨runnable, -, rfl, pushedEq⟩
  · obtain ⟨_, _, ⟨⟩, ⟨⟩, rfl⟩ := switched.resolve_left (by simp)
    exact switchTo _ (SameProcs.refl _) (fun _ => Nat.le_add_right _ _) (fun _ _ _ member => .inl member) _ _ _
  · obtain ⟨_, _, ⟨⟩, ⟨⟩, rfl⟩ := switched.resolve_left (by simp)
    obtain ⟨sameRequeued, requeuedCount, requeuedEntries⟩ := schedEnqueue_counts requeuedEq
    refine switchTo _ sameRequeued (fun pcb => ?_) (fun other inRange => requeuedEntries other
      (sameSelected.maxCpuNum ▸ inRange)) _ _ _
    rw [requeuedCount, ← sameSelected.state]
    by_cases isCurrent : pcb = kernel.current cpu
    · subst isCurrent
      simp only [true_and, runnable, ite_true]
      split <;> omega
    · simp only [isCurrent, false_and, ite_false, le_refl]
  · obtain ⟨-, rfl⟩ := switched.resolve_right (by simp)
    obtain ⟨samePushed, pushedCount, pushedEntries⟩ := schedEnqueue_counts pushedEq
    have refreshed := sameSelected.trans (SameProcs.refreshBudget selected ⟨.root, cpu⟩ ⟨.root, cpu⟩
      (selected.pcbs (kernel.current cpu)).schedInfo.priority)
    have same := refreshed.trans samePushed
    refine ⟨core.of_fewer same (fun pcb => ?_) (fun other inRange entry member => ?_),
      same.rescheduled (by rwa [sameSelected.state] at runnable)⟩
    · rw [pushedCount, queuedCount_refreshBudget]
      have := selectedCount pcb
      by_cases isCandidate : pcb = candidate
      · subst isCandidate
        simp only [ite_true] at this
        split <;> omega
      · simp only [isCandidate, false_and, ite_false] at this ⊢
        omega
    · rcases pushedEntries other (refreshed.maxCpuNum ▸ inRange) entry member with old | rfl
      · rw [entries_refreshBudget] at old
        exact core.processEntries other inRange entry (selectedEntries other inRange entry old)
      · exact ⟨_, rfl⟩

/-- A state with the same processes and the same run-queue entries keeps the core. -/
theorem RunQueueCore.of_same {kernel next : Kernel} (core : RunQueueCore kernel)
    (same : SameProcs kernel next)
    (entries : ∀ cpu, (next.queues ⟨.root, cpu⟩).entries = (kernel.queues ⟨.root, cpu⟩).entries) :
    RunQueueCore next :=
  core.of_fewer same (fun pcb => by simp only [queuedCount, same.maxCpuNum, entries, le_refl])
    (fun cpu inRange => by rw [entries]; exact core.processEntries cpu inRange)

/-- Where every CPU runs unblocked, no process sleeps on a CPU. -/
theorem not_sleepingOnCpu {kernel : Kernel} (unblocked : ∀ cpu < kernel.maxCpuNum, RunsUnblocked kernel cpu)
    (pcb : PcbRef) : ¬ kernel.SleepingOnCpu pcb := by
  rintro ⟨active, blocked, cpu, inRange, rfl⟩
  rw [unblocked cpu inRange active] at blocked
  cases blocked

/-- A process sleeping on a CPU after wakeups slept there before, in the same state. -/
theorem Wakes.sleepingOnCpu {kernel next : Kernel} {pcb : PcbRef} (wakes : Wakes kernel next)
    (sleeping : next.SleepingOnCpu pcb) : kernel.SleepingOnCpu pcb ∧ kernel.state pcb = next.state pcb := by
  obtain ⟨active, blocked, cpu, inRange, running⟩ := sleeping
  have same : kernel.state pcb = next.state pcb := by
    rcases wakes.state pcb with same | ⟨-, runnable⟩
    · exact same.symm
    · rw [runnable] at blocked
      cases blocked
  refine ⟨⟨by rwa [← wakes.pid], by rwa [same], cpu, wakes.maxCpuNum ▸ inRange, by rwa [← wakes.current]⟩, same⟩

/-- `wakeup` of a process not sleeping on a CPU keeps the core, and only wakes. -/
theorem RunQueueCore.wakeup {kernel next : Kernel} {pcb : PcbRef} {result : Except SystemError Unit}
    (core : RunQueueCore kernel) (awake : ¬ kernel.SleepingOnCpu pcb)
    (woken : ProcessManager.wakeup kernel pcb = some (next, result)) :
    RunQueueCore next ∧ Wakes kernel next := by
  refine ⟨?_, Wakes.of_wakeup woken⟩
  rcases ProcessManager.wakeup_eq_some.mp woken with ⟨blocked, -, enqueued⟩ | ⟨-, rfl, -⟩
  · obtain ⟨same, counts, entries⟩ := schedEnqueue_counts enqueued
    have notQueued : queuedCount kernel pcb = 0 := by
      by_contra queued
      have runnable := core.queuedRunnable pcb (Nat.pos_of_ne_zero queued)
      rw [runnable] at blocked
      cases blocked
    have notRunning : (kernel.pcbs pcb).pid ≠ 0 → runningCount kernel pcb = 0 := by
      intro active
      by_contra running
      obtain ⟨cpu, inRange, rfl⟩ := exists_running (Nat.pos_of_ne_zero running)
      exact awake ⟨active, blocked, cpu, inRange, rfl⟩
    have state (other : PcbRef) :
        next.state other = if other = pcb then .runnable else kernel.state other := by
      rw [same.state, Kernel.state_setState]
    refine ⟨fun other => ?_, fun other queued => ?_, fun cpu inRange entry member => ?_⟩
    · rw [counts, same.runningCount, runningCount_setState, queuedCount_setState, Kernel.pid_setState]
      split
      next fresh => rw [fresh.1, notQueued, notRunning fresh.2]
      next => exact core.single other
    · rw [state]
      split
      · rfl
      · rename_i isPcb
        rw [counts, queuedCount_setState] at queued
        simp only [isPcb, false_and, ite_false, add_zero] at queued
        exact core.queuedRunnable other queued
    · rw [same.maxCpuNum] at inRange
      rcases entries cpu inRange entry member with old | rfl
      · exact core.processEntries cpu inRange entry old
      · exact ⟨pcb, rfl⟩
  · exact core

/-- Waking waiters none of which sleeps on a CPU keeps the core, and only wakes. -/
theorem RunQueueCore.wakeupWaiters {state : ProcessState} :
    ∀ {waiters : List PcbRef} {kernel next : Kernel} {kept : List PcbRef}, RunQueueCore kernel →
      (∀ waiter ∈ waiters, kernel.state waiter = state → ¬ kernel.SleepingOnCpu waiter) →
      ProcessManager.wakeupWaiters kernel state waiters = some (next, kept) →
      RunQueueCore next ∧ Wakes kernel next
  | [], _, _, _, core, _, woken => by
      simp only [ProcessManager.wakeupWaiters, Option.some.injEq, Prod.mk.injEq] at woken
      obtain ⟨rfl, -⟩ := woken
      exact ⟨core, (SameProcs.refl _).wakes⟩
  | waiter :: rest, kernel, next, kept, core, awake, woken => by
      unfold ProcessManager.wakeupWaiters at woken
      split at woken
      · rename_i matching
        simp only [bind, Option.bind_eq_some] at woken
        obtain ⟨⟨woke, result⟩, first, later⟩ := woken
        obtain ⟨coreWoke, wakes⟩ := core.wakeup (awake waiter (List.mem_cons_self _ _) matching) first
        obtain ⟨coreNext, wakesNext⟩ := RunQueueCore.wakeupWaiters coreWoke
          (fun other member matched sleeping =>
            let ⟨before, same⟩ := wakes.sleepingOnCpu sleeping
            awake other (List.mem_cons_of_mem _ member) (same.trans matched) before) later
        exact ⟨coreNext, wakes.trans wakesNext⟩
      · simp only [bind, Option.bind_eq_some, pure, Option.some.injEq, Prod.mk.injEq] at woken
        obtain ⟨⟨woke, rest⟩, later, rfl, -⟩ := woken
        exact RunQueueCore.wakeupWaiters core
          (fun other member => awake other (List.mem_cons_of_mem _ member)) later

/-- No two CPUs run the same process. -/
theorem RunQueueCore.current_injective {kernel : Kernel} (core : RunQueueCore kernel) {cpu other : Nat}
    (inRange : cpu < kernel.maxCpuNum) (otherInRange : other < kernel.maxCpuNum)
    (shared : kernel.current other = kernel.current cpu) : other = cpu := by
  by_contra different
  have twice := two_le_runningCount inRange otherInRange different shared
  have once := core.single (kernel.current cpu)
  omega

/-- A new state for `cpu`'s process keeps the core and other CPUs' processes. -/
theorem RunQueueCore.setCurrentState {kernel : Kernel} {cpu : Nat} (core : RunQueueCore kernel)
    (inRange : cpu < kernel.maxCpuNum) (state : ProcessState) :
    RunQueueCore (kernel.setState (kernel.current cpu) state) ∧
      ∀ other < kernel.maxCpuNum, other ≠ cpu →
        (kernel.setState (kernel.current cpu) state).state (kernel.current other) =
          kernel.state (kernel.current other) := by
  have notQueued : queuedCount kernel (kernel.current cpu) = 0 := by
    have once := core.single (kernel.current cpu)
    have running := runningCount_pos kernel inRange
    omega
  refine ⟨⟨fun pcb => by simpa using core.single pcb, fun pcb queued => ?_, core.processEntries⟩,
    fun other otherInRange different => ?_⟩
  · rw [queuedCount_setState] at queued
    rw [Kernel.state_setState, if_neg (by rintro rfl; omega)]
    exact core.queuedRunnable pcb queued
  · rw [Kernel.state_setState,
      if_neg fun shared => different (core.current_injective inRange otherInRange shared)]

theorem RunQueueInv.setCurrentState {kernel : Kernel} {cpu : Nat} (inv : RunQueueInv kernel)
    (inRange : cpu < kernel.maxCpuNum) (state : ProcessState) :
    RunQueueCore (kernel.setState (kernel.current cpu) state) ∧
      ∀ other < kernel.maxCpuNum, other ≠ cpu →
        RunsAwake (kernel.setState (kernel.current cpu) state) other := by
  obtain ⟨core, kept⟩ := inv.toRunQueueCore.setCurrentState inRange state
  refine ⟨core, fun other otherInRange different => ?_⟩
  have awake := inv.runsAwake other otherInRange
  unfold RunsAwake RunsUnblocked at awake ⊢
  simp only [Kernel.setState_current, kept other otherInRange different, Kernel.pid_setState]
  exact awake

theorem SameProcs.updPcb (kernel : Kernel) (pcb : PcbRef)
    (change : ProcessControlBlock → ProcessControlBlock)
    (keeps : ∀ p, (change p).schedInfo = p.schedInfo ∧ (change p).pid = p.pid) :
    SameProcs kernel (kernel.updPcb pcb change) := by
  refine ⟨rfl, rfl, fun other => ?_, fun other => ?_, rfl⟩ <;>
    by_cases same : other = pcb <;> simp [Kernel.state, same, keeps]

theorem SameProcs.adoptChilden (kernel : Kernel) (pcb : PcbRef) :
    SameProcs kernel (ProcessManager.adoptChilden kernel pcb).1 ∧
      (ProcessManager.adoptChilden kernel pcb).1.queues = kernel.queues := by
  unfold ProcessManager.adoptChilden
  split
  · dsimp only
    refine ⟨(SameProcs.updPcb _ _ _ ?_).trans (SameProcs.updPcb _ _ _ ?_), rfl⟩ <;>
      exact fun _ => ⟨rfl, rfl⟩
  · exact ⟨SameProcs.refl kernel, rfl⟩

theorem exitNotify_same {kernel next : Kernel} {cpu : Nat}
    (notified : ProcessManager.exitNotify kernel cpu = some next) :
    SameProcs kernel next ∧ next.queues = kernel.queues := by
  rcases ProcessManager.exitNotify_eq_some notified with rfl | rfl
  · exact ⟨SameProcs.refl _, rfl⟩
  · exact SameProcs.adoptChilden kernel _

theorem timerUpdateJiffies_same {kernel next : Kernel} {sched : SchedId} {cpu : Nat}
    (ticked : SchedulerCFS.timerUpdateJiffies kernel sched cpu = some next) :
    SameProcs kernel next ∧ ∀ queue, (next.queues queue).entries = (kernel.queues queue).entries := by
  simp only [SchedulerCFS.timerUpdateJiffies, bind, Option.bind_eq_some, pure, Option.some.injEq] at ticked
  obtain ⟨queue, -, rfl⟩ := ticked
  have budget := SameProcs.updQueue kernel queue fun q : CFSQueue =>
    { q with cpuExecProcJiffies := q.cpuExecProcJiffies - 1#64 }
  refine ⟨(budget.trans ?_).trans (SameProcs.setVirtualRuntime _ _ _),
    fun other => ?_⟩
  · split
    · exact SameProcs.updFlags _ _ _
    · exact SameProcs.refl _
  · split <;> by_cases same : other = queue <;> simp [same, CFSQueue.entries]

/-- `mark_sleep` by a live process blocks it and asks for a switch. -/
theorem markSleep_of_live {kernel : Kernel} {cpu : Nat}
    (live : (kernel.state (kernel.current cpu)).isExited = false) (interruptable : Bool) :
    (ProcessManager.markSleep kernel cpu interruptable).1 =
      (kernel.setState (kernel.current cpu) (.blocked interruptable)).updFlags (kernel.current cpu)
        (·.insert .needSchedule) := by
  have notExited : kernel.state (kernel.current cpu) ≠ .exited 0 := by
    intro exited
    rw [exited] at live
    cases live
  simp only [ProcessManager.markSleep, ne_eq, notExited, not_false_eq_true, ite_true]

theorem RunQueueInv.sleep {kernel next : Kernel} {cpu : Nat} {interruptable : Bool}
    (inv : RunQueueInv kernel) (inRange : cpu < kernel.maxCpuNum)
    (scheduled : Arch.sched (ProcessManager.markSleep kernel cpu interruptable).1 cpu = some next) :
    RunQueueInv next := by
  rw [markSleep_of_live (inv.runsAwake cpu inRange).1] at scheduled
  obtain ⟨core, elsewhere⟩ := inv.setCurrentState inRange (.blocked interruptable)
  have flagged := SameProcs.updFlags (kernel.setState (kernel.current cpu) (.blocked interruptable))
    (kernel.current cpu) (·.insert .needSchedule)
  obtain ⟨coreNext, rescheduled⟩ := (core.of_same flagged fun _ => rfl).schedule scheduled
  exact ⟨coreNext, rescheduled.runsAwake fun other inRange different =>
    (elsewhere other inRange different).of_wakes flagged.wakes⟩

/-- Marking the process running on `cpu` exited keeps the core; every CPU then runs unblocked. -/
theorem RunQueueInv.exitState {kernel : Kernel} {cpu : Nat} (inv : RunQueueInv kernel)
    (inRange : cpu < kernel.maxCpuNum) (exitCode : Nat) :
    RunQueueCore (kernel.setState (kernel.current cpu) (.exited exitCode)) ∧
      ∀ other < kernel.maxCpuNum,
        RunsUnblocked (kernel.setState (kernel.current cpu) (.exited exitCode)) other := by
  obtain ⟨core, elsewhere⟩ := inv.setCurrentState inRange (.exited exitCode)
  refine ⟨core, fun other otherInRange => ?_⟩
  by_cases here : other = cpu
  · subst here
    intro
    simp [ProcessState.isBlocked]
  · exact (elsewhere other otherInRange here).2

theorem RunQueueInv.exit {kernel next : Kernel} {cpu exitCode : Nat} (inv : RunQueueInv kernel)
    (inRange : cpu < kernel.maxCpuNum) (exited : ProcessManager.exit kernel cpu exitCode = some next) :
    RunQueueInv next := by
  obtain ⟨woke, kept, wokenEq, notified, notifiedEq, scheduled⟩ := ProcessManager.exit_eq_some.mp exited
  obtain ⟨core, unblocked⟩ := inv.exitState inRange exitCode
  have elsewhere := (inv.setCurrentState inRange (.exited exitCode)).2
  obtain ⟨coreWoke, wakes⟩ := core.wakeupWaiters (fun waiter _ _ => not_sleepingOnCpu unblocked waiter) wokenEq
  have kept := SameProcs.updPcb woke (kernel.current cpu) (fun p => { p with waitQueue := kept })
    fun _ => ⟨rfl, rfl⟩
  obtain ⟨sameNotified, queuesNotified⟩ := exitNotify_same notifiedEq
  have same := kept.trans sameNotified
  obtain ⟨coreNext, rescheduled⟩ := (coreWoke.of_same same fun _ => by rw [queuesNotified]; rfl).schedule scheduled
  exact ⟨coreNext, rescheduled.runsAwake fun other otherInRange different =>
    ((elsewhere other (by simpa [same.maxCpuNum, wakes.maxCpuNum] using otherInRange) different).of_wakes
      wakes).of_wakes same.wakes⟩

/-- Every step but a `mark_sleep` left without its `sched` keeps the run-queue invariant. -/
theorem RunQueueInv.step {kernel next : Kernel} {op : Op} (inv : RunQueueInv kernel)
    (allowed : op.SleepsThenScheds) (stepped : op.run kernel = some next) : RunQueueInv next := by
  cases op with
  | markSleep cpu interruptable => exact absurd rfl (allowed cpu interruptable)
  | sleep cpu interruptable =>
      obtain ⟨live, scheduled⟩ := Op.run_sleep_eq_some.mp stepped
      exact inv.sleep live.1 scheduled
  | wakeup pcb =>
      obtain ⟨result, woken⟩ := Op.run_wakeup_eq_some.mp stepped
      obtain ⟨core, wakes⟩ := inv.wakeup (not_sleepingOnCpu (fun cpu inRange => (inv.runsAwake cpu inRange).2) pcb)
        woken
      exact ⟨core, fun cpu inRange => (inv.runsAwake cpu (wakes.maxCpuNum ▸ inRange)).of_wakes wakes⟩
  | exit cpu exitCode =>
      obtain ⟨live, exited⟩ := Op.run_exit_eq_some.mp stepped
      exact inv.exit live.1 exited
  | timer cpu =>
      obtain ⟨same, entries⟩ := timerUpdateJiffies_same stepped
      exact ⟨inv.of_same same fun _ => entries _,
        fun cpu inRange => (inv.runsAwake cpu (same.maxCpuNum ▸ inRange)).of_wakes same.wakes⟩
  | sched cpu =>
      obtain ⟨core, rescheduled⟩ := inv.schedule stepped
      exact ⟨core, rescheduled.runsAwake fun other inRange _ => inv.runsAwake other inRange⟩

/-- The invariant of runs pausing between `mark_sleep` and `sched`: no CPU runs exited. -/
structure SleepWindowInv (kernel : Kernel) extends RunQueueCore kernel : Prop where
  runsLive : ∀ cpu < kernel.maxCpuNum, (kernel.state (kernel.current cpu)).isExited = false

theorem RunQueueInv.toSleepWindowInv {kernel : Kernel} (inv : RunQueueInv kernel) : SleepWindowInv kernel :=
  ⟨inv.toRunQueueCore, fun cpu inRange => (inv.runsAwake cpu inRange).1⟩

namespace SleepWindowInv

variable {kernel next : Kernel}

theorem schedule {cpu : Nat} (inv : SleepWindowInv kernel) (scheduled : Arch.sched kernel cpu = some next) :
    SleepWindowInv next :=
  let ⟨core, rescheduled⟩ := inv.toRunQueueCore.schedule scheduled
  ⟨core, rescheduled.live fun other inRange _ => inv.runsLive other inRange⟩

theorem markSleep {cpu : Nat} (inv : SleepWindowInv kernel) (live : kernel.RunsLive cpu) (interruptable : Bool) :
    SleepWindowInv (ProcessManager.markSleep kernel cpu interruptable).1 := by
  rw [markSleep_of_live live.2]
  obtain ⟨core, kept⟩ := inv.toRunQueueCore.setCurrentState live.1 (.blocked interruptable)
  have flagged := SameProcs.updFlags (kernel.setState (kernel.current cpu) (.blocked interruptable))
    (kernel.current cpu) (·.insert .needSchedule)
  refine ⟨core.of_same flagged fun _ => rfl, fun other inRange => ?_⟩
  rw [flagged.current, flagged.state, Kernel.setState_current]
  by_cases here : other = cpu
  · subst here
    simp [ProcessState.isExited]
  · rw [kept other inRange here]
    exact inv.runsLive other inRange

theorem wakeup {pcb : PcbRef} {result : Except SystemError Unit} (inv : SleepWindowInv kernel)
    (awake : ¬ kernel.SleepingOnCpu pcb) (woken : ProcessManager.wakeup kernel pcb = some (next, result)) :
    SleepWindowInv next :=
  let ⟨core, wakes⟩ := inv.toRunQueueCore.wakeup awake woken
  ⟨core, fun cpu inRange => wakes.live (inv.runsLive cpu (wakes.maxCpuNum ▸ inRange))⟩

theorem exit {cpu exitCode : Nat} (inv : SleepWindowInv kernel) (live : kernel.RunsLive cpu)
    (permitted : (Op.exit cpu exitCode).WakesNoSleeper kernel)
    (exited : ProcessManager.exit kernel cpu exitCode = some next) : SleepWindowInv next := by
  obtain ⟨woke, kept, wokenEq, notified, notifiedEq, scheduled⟩ := ProcessManager.exit_eq_some.mp exited
  obtain ⟨core, others⟩ := inv.toRunQueueCore.setCurrentState live.1 (.exited exitCode)
  -- the waiters it wakes are not sleeping on a CPU: the exiting process is not one of them
  have awake (waiter : PcbRef) (member : waiter ∈ (kernel.pcbs (kernel.current cpu)).waitQueue)
      (matching : (kernel.setState (kernel.current cpu) (.exited exitCode)).state waiter = .blocked true)
      (sleeping : (kernel.setState (kernel.current cpu) (.exited exitCode)).SleepingOnCpu waiter) : False := by
    have different : waiter ≠ kernel.current cpu := by
      rintro rfl
      simp at matching
    obtain ⟨active, blocked, running⟩ := sleeping
    rw [Kernel.state_setState, if_neg different] at matching blocked
    exact permitted waiter member different matching ⟨by simpa using active, blocked, running⟩
  obtain ⟨coreWoke, wakes⟩ := core.wakeupWaiters (fun waiter member => awake waiter (by simpa using member))
    wokenEq
  have keptSame := SameProcs.updPcb woke (kernel.current cpu) (fun p => { p with waitQueue := kept })
    fun _ => ⟨rfl, rfl⟩
  obtain ⟨sameNotified, queuesNotified⟩ := exitNotify_same notifiedEq
  have same := keptSame.trans sameNotified
  obtain ⟨coreNext, rescheduled⟩ :=
    (coreWoke.of_same same fun _ => by rw [queuesNotified]; rfl).schedule scheduled
  refine ⟨coreNext, rescheduled.live fun other inRange different => ?_⟩
  have otherInRange : other < kernel.maxCpuNum := by simpa [same.maxCpuNum, wakes.maxCpuNum] using inRange
  rw [same.current, same.state]
  refine wakes.live ?_
  rw [Kernel.setState_current, others other otherInRange different]
  exact inv.runsLive other otherInRange

/-- Every step that wakes no process sleeping on a CPU keeps the invariant. -/
theorem step {op : Op} (inv : SleepWindowInv kernel) (permitted : op.WakesNoSleeper kernel)
    (stepped : op.run kernel = some next) : SleepWindowInv next := by
  cases op with
  | markSleep cpu interruptable =>
      obtain ⟨live, rfl⟩ := Op.run_markSleep_eq_some.mp stepped
      exact inv.markSleep live interruptable
  | sleep cpu interruptable =>
      obtain ⟨live, scheduled⟩ := Op.run_sleep_eq_some.mp stepped
      exact (inv.markSleep live interruptable).schedule scheduled
  | wakeup pcb =>
      obtain ⟨result, woken⟩ := Op.run_wakeup_eq_some.mp stepped
      exact inv.wakeup permitted woken
  | exit cpu exitCode =>
      obtain ⟨live, exited⟩ := Op.run_exit_eq_some.mp stepped
      exact inv.exit live permitted exited
  | timer cpu =>
      obtain ⟨same, entries⟩ := timerUpdateJiffies_same stepped
      exact ⟨inv.of_same same fun _ => entries _,
        fun cpu inRange => same.wakes.live (inv.runsLive cpu (same.maxCpuNum ▸ inRange))⟩
  | sched cpu => exact inv.schedule stepped

/-- An exited process is neither queued nor running. -/
theorem exited_absent (inv : SleepWindowInv kernel) {pcb : PcbRef} (exited : (kernel.state pcb).isExited = true) :
    queuedCount kernel pcb = 0 ∧ runningCount kernel pcb = 0 := by
  constructor
  · by_contra queued
    rw [inv.queuedRunnable pcb (Nat.pos_of_ne_zero queued)] at exited
    cases exited
  · by_contra running
    obtain ⟨cpu, inRange, rfl⟩ := exists_running (Nat.pos_of_ne_zero running)
    rw [inv.runsLive cpu inRange] at exited
    cases exited

end SleepWindowInv

/-- Runs waking no sleeper keep each process in one place, an exited one in none. -/
theorem exclusive_of_no_sleeper_wakeup {start kernel : Kernel} (inv : SleepWindowInv start)
    (reached : ReachableWhen Op.WakesNoSleeper start kernel) (pcb : PcbRef) :
    queuedCount kernel pcb + runningCount kernel pcb ≤ 1 ∧
      ((kernel.state pcb).isExited = true → queuedCount kernel pcb = 0 ∧ runningCount kernel pcb = 0) := by
  have reachedInv : SleepWindowInv kernel :=
    reached.induction inv fun _ _ _ holds permitted stepped => holds.step permitted stepped
  exact ⟨reachedInv.single pcb, reachedInv.exited_absent⟩

/-- A process of pid `pid` recorded on `cpu`, with no children and no waiters. -/
def samplePcb (pid : Pid) (cpu : Nat) (state : ProcessState) : ProcessControlBlock where
  pid := pid
  basic := { pgid := 0, ppid := 0, name := "", cwd := "/", schedTg := none }
  preemptCount := 0#64
  flags := .empty
  kernelStack := { stack := some 0x4000, bottom := 0, canBeFreed := true }
  schedInfo := { onCpu := some cpu, state := state, priority := 100, virtualRuntime := 0, se := none }
  parentPcb := none
  children := .empty
  waitQueue := []

/-- Two CPUs running 3 and 4, idle processes 1 and 2, init 5 blocked. -/
def twoCpus : Kernel where
  maxCpuNum := 2
  pcbs := fun pcb => match pcb with
    | 1 => samplePcb 0 0 .runnable
    | 2 => samplePcb 0 1 .runnable
    | 3 => samplePcb 2 0 .runnable
    | 4 => samplePcb 3 1 .runnable
    | _ => samplePcb 1 0 (.blocked true)
  ses := fun _ => SchedEntity.new
  groups := fun _ => { se := [], parentTg := none, children := fun _ => none }
  queues := fun queue => CFSQueue.new queue.cpu.succ
  current := fun cpu => cpu + 3
  idlePcb := fun cpu => cpu + 1
  cfsSchedulerPtr := true
  allProcess := some fun pid =>
    if pid = 1 then some 5 else if pid = 2 then some 3 else if pid = 3 then some 4 else none
  allProcessGroup := none
  processGroupManager := fun _ => none
  nextPid := 4
  initFlag := true
  initDone := true
  nextPcb := 6
  nextSe := 0
  nextGroup := 0

theorem twoCpus_inv : RunQueueInv twoCpus where
  single pcb := by
    have empty : queuedCount twoCpus pcb = 0 := by simp [queuedCount, twoCpus, CFSQueue.new_entries]
    rw [empty]
    simp only [runningCount, twoCpus, sum_range_succ, sum_range_zero]
    split_ifs <;> simp_all
  queuedRunnable pcb queued := by simp [queuedCount, twoCpus, CFSQueue.new_entries] at queued
  processEntries cpu _ entry member := by simp [twoCpus, CFSQueue.new_entries] at member
  runsAwake cpu inRange := by
    unfold RunsAwake RunsUnblocked
    rcases cpu with _ | _ | cpu
    · decide
    · decide
    · change cpu + 2 < 2 at inRange
      omega

/-- `twoCpus` after init wakes, CPU 0 marks asleep, CPU 1 acts, CPU 0 schedules. -/
def sleepWindow : Kernel :=
  (Op.runs twoCpus [.wakeup 5, .markSleep 0 true, .timer 1, .wakeup 4, .sched 0]).getD twoCpus

theorem sleepWindow_exclusive :
    SleepWindowInv twoCpus ∧ queuedCount sleepWindow 3 + runningCount sleepWindow 3 ≤ 1 ∧
      ((sleepWindow.state 3).isExited = true → queuedCount sleepWindow 3 = 0 ∧ runningCount sleepWindow 3 = 0) :=
  ⟨twoCpus_inv.toSleepWindowInv, @exclusive_of_no_sleeper_wakeup twoCpus sleepWindow twoCpus_inv.toSleepWindowInv
    (.step (.sched 0) (.step (.wakeup 4) (.step (.timer 1) (.step (.markSleep 0 true)
      (.step (.wakeup 5) .refl (show ¬ Kernel.SleepingOnCpu _ 5 by decide) rfl) trivial rfl) trivial rfl)
      (show ¬ Kernel.SleepingOnCpu _ 4 by decide) rfl) trivial rfl) 3⟩

/-- A remote wakeup before `sched` queues a running process; CPU 0 later reruns it. -/
theorem remote_wakeup_before_sched : RunQueueInv twoCpus ∧
    (Op.runs twoCpus [.markSleep 0 true]).map (fun kernel => decide (kernel.SleepingOnCpu 3)) = some true ∧
    (Op.runs twoCpus [.markSleep 0 true, .wakeup 3]).map
      (fun kernel => queuedCount kernel 3 + runningCount kernel 3) = some 2 ∧
    (Op.runs twoCpus [.markSleep 0 true, .wakeup 3, .exit 0 5]).map
      (fun kernel => (kernel.state 3, kernel.current 0)) = some (.exited 5, 3) :=
  ⟨twoCpus_inv, by decide, by decide, by decide⟩

end DragonOS
