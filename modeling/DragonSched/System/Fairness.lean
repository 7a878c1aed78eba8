import DragonSched.System.Selection
import DragonSched.System.Creation
import DragonSched.System.WakeupRace

namespace DragonOS

/-- Every queue entry is keyed by the current virtual runtime of what it holds. -/
def KeysMatch (kernel : Kernel) : Prop :=
  ∀ cpu < kernel.maxCpuNum, ∀ entry ∈ (kernel.queues ⟨.root, cpu⟩).lockedQueue.entries,
    entry.1 = kernel.entryVruntime entry.2

/-- Each entry of the new state is keyed right, or old with an unmoved runtime. -/
theorem KeysMatch.transfer {kernel next : Kernel} (keyed : KeysMatch kernel)
    (cpus : next.maxCpuNum = kernel.maxCpuNum)
    (kept : ∀ cpu < kernel.maxCpuNum, ∀ entry ∈ (next.queues ⟨.root, cpu⟩).lockedQueue.entries,
      entry.1 = next.entryVruntime entry.2 ∨
        entry ∈ (kernel.queues ⟨.root, cpu⟩).lockedQueue.entries ∧
          next.entryVruntime entry.2 = kernel.entryVruntime entry.2) :
    KeysMatch next := by
  intro cpu inRange entry member
  rcases kept cpu (cpus ▸ inRange) entry member with fresh | ⟨old, same⟩
  · exact fresh
  · rw [same]
    exact keyed cpu (cpus ▸ inRange) entry old

/-- A step that moves no queue entry and no virtual runtime keeps the keys. -/
theorem KeysMatch.of_same {kernel next : Kernel} (keyed : KeysMatch kernel)
    (cpus : next.maxCpuNum = kernel.maxCpuNum)
    (queues : ∀ cpu, (next.queues ⟨.root, cpu⟩).lockedQueue = (kernel.queues ⟨.root, cpu⟩).lockedQueue)
    (runtimes : next.entryVruntime = kernel.entryVruntime) : KeysMatch next :=
  keyed.transfer cpus fun cpu _ _ member => .inr ⟨queues cpu ▸ member, congrFun runtimes _⟩

theorem KeysMatch.updPcb {kernel : Kernel} (keyed : KeysMatch kernel) (pcb : PcbRef)
    {change : ProcessControlBlock → ProcessControlBlock}
    (keeps : ∀ p, (change p).schedInfo.virtualRuntime = p.schedInfo.virtualRuntime) :
    KeysMatch (kernel.updPcb pcb change) :=
  keyed.of_same rfl (fun _ => rfl) (kernel.entryVruntime_updPcb pcb keeps)

theorem KeysMatch.setState {kernel : Kernel} (keyed : KeysMatch kernel) (pcb : PcbRef)
    (state : ProcessState) : KeysMatch (kernel.setState pcb state) :=
  keyed.updPcb pcb fun _ => rfl

/-- A process with no entry on a run queue, read off the count. -/
theorem not_queued_of_count {kernel : Kernel} {pcb : PcbRef} (absent : queuedCount kernel pcb = 0)
    {cpu : Nat} (inRange : cpu < kernel.maxCpuNum) {entry : Int × Entry}
    (member : entry ∈ (kernel.queues ⟨.root, cpu⟩).lockedQueue.entries) : entry.2 ≠ .pcb pcb := by
  intro same
  have present : Entry.pcb pcb ∈ (kernel.queues ⟨.root, cpu⟩).entries :=
    same ▸ List.mem_map_of_mem Prod.snd member
  have counted := count_le_queuedCount kernel inRange pcb
  have positive := List.count_pos_iff.mpr present
  omega

/-- Moving the virtual runtime of a process that no run queue holds keeps the keys. -/
theorem KeysMatch.setVirtualRuntime {kernel : Kernel} (keyed : KeysMatch kernel) {pcb : PcbRef}
    (absent : queuedCount kernel pcb = 0) (value : Int) :
    KeysMatch (kernel.setVirtualRuntime pcb value) :=
  keyed.transfer rfl fun _ inRange entry member =>
    .inr ⟨member, by rw [Kernel.entryVruntime_setVirtualRuntime, if_neg (not_queued_of_count absent inRange member)]⟩

theorem KeysMatch.resetVruntime {kernel : Kernel} (keyed : KeysMatch kernel) (queue : QueueRef)
    {pcb : PcbRef} (absent : queuedCount kernel pcb = 0) :
    KeysMatch (SchedulerCFS.resetVruntime kernel queue pcb) := by
  unfold SchedulerCFS.resetVruntime
  split
  · exact keyed.setVirtualRuntime absent _
  · exact keyed

/-- `enqueue` keys a process by its current virtual runtime. -/
theorem KeysMatch.enqueue {kernel : Kernel} {cpu : Nat} (keyed : KeysMatch kernel) (pcb : PcbRef) :
    KeysMatch (kernel.updQueue ⟨.root, cpu⟩ fun queue => queue.enqueue kernel.pcbs pcb) := by
  refine keyed.transfer rfl fun other _ entry member => ?_
  by_cases here : other = cpu
  · subst here
    simp only [Kernel.updQueue_queues, ite_true, CFSQueue.enqueue] at member
    split at member
    · exact .inr ⟨member, rfl⟩
    · rcases (mem_insertEntry _ _).mp member with rfl | old
      · exact .inl rfl
      · exact .inr ⟨old, rfl⟩
  · exact .inr ⟨by simpa [here] using member, rfl⟩

/-- `sched_enqueue` keeps the keys; with a reset, of a process not queued yet. -/
theorem KeysMatch.schedEnqueue {kernel next : Kernel} {pcb : PcbRef} {resetTime : Bool}
    (keyed : KeysMatch kernel) (absent : resetTime = true → queuedCount kernel pcb = 0)
    (enqueued : schedEnqueue kernel pcb resetTime = some next) : KeysMatch next := by
  unfold DragonOS.schedEnqueue at enqueued
  split at enqueued
  · obtain ⟨cpu, -, -, rfl⟩ := SchedulerCFS.enqueueResetVruntime_eq_some.mp enqueued
    exact (keyed.resetVruntime _ (absent ‹_›)).enqueue pcb
  · obtain ⟨cpu, -, -, rfl⟩ := SchedulerCFS.enqueuePcb_eq_some.mp enqueued
    exact keyed.enqueue pcb

theorem lockedQueue_refreshBudget (kernel : Kernel) (tested refreshed priority) (queue : QueueRef) :
    ((SchedulerCFS.refreshBudget kernel tested refreshed priority).queues queue).lockedQueue =
      (kernel.queues queue).lockedQueue := by
  unfold SchedulerCFS.refreshBudget
  split
  · by_cases same : queue = refreshed <;> simp [same, CFSQueue.updateCpuExecProcJiffies]
  · rfl

theorem entryVruntime_refreshBudget (kernel : Kernel) (tested refreshed priority) :
    (SchedulerCFS.refreshBudget kernel tested refreshed priority).entryVruntime = kernel.entryVruntime := by
  unfold SchedulerCFS.refreshBudget
  split <;> rfl

theorem KeysMatch.refreshBudget {kernel : Kernel} (keyed : KeysMatch kernel) (tested refreshed priority) :
    KeysMatch (SchedulerCFS.refreshBudget kernel tested refreshed priority) :=
  keyed.of_same (SameProcs.refreshBudget kernel tested refreshed priority).maxCpuNum
    (fun _ => lockedQueue_refreshBudget _ _ _ _ _) (entryVruntime_refreshBudget _ _ _ _)

/-- The selection only takes entries off the queue and moves no virtual runtime. -/
theorem KeysMatch.schedSelect {kernel selected : Kernel} {cpu : Nat} {queue : QueueRef} {se : Entry}
    (keyed : KeysMatch kernel)
    (selectedEq : SchedulerCFS.schedSelect kernel cpu = some (selected, queue, se)) :
    KeysMatch selected := by
  obtain ⟨-, rfl, rest, dequeued, rfl⟩ := SchedulerCFS.schedSelect_eq_some.mp selectedEq
  obtain ⟨key, popped⟩ := CFSQueue.dequeueSe_locked dequeued
  refine keyed.transfer rfl fun other _ entry member => .inr ⟨?_, by simp⟩
  by_cases here : other = cpu
  · subst here
    simp only [Kernel.updQueue_queues, ite_true, CFSQueue.dequeue_locked] at member
    rw [popped]
    exact List.mem_cons_of_mem _ (List.mem_of_mem_tail member)
  · simpa [here] using member

theorem entryVruntime_schedSelect {kernel selected : Kernel} {cpu : Nat} {queue : QueueRef}
    {se : Entry} (selectedEq : SchedulerCFS.schedSelect kernel cpu = some (selected, queue, se)) :
    selected.entryVruntime = kernel.entryVruntime := by
  obtain ⟨-, rfl, rest, -, rfl⟩ := SchedulerCFS.schedSelect_eq_some.mp selectedEq
  simp

/-- `sched`, with its switch, moves no virtual runtime. -/
theorem entryVruntime_sched {kernel next : Kernel} {cpu : Nat}
    (scheduled : Arch.sched kernel cpu = some next) : next.entryVruntime = kernel.entryVruntime :=
  @Arch.sched_induction (fun after => after.entryVruntime = kernel.entryVruntime)
    (fun same selectedEq => (entryVruntime_schedSelect selectedEq).trans same)
    (fun _ _ _ same => (entryVruntime_refreshBudget _ _ _ _).trans same)
    (fun same requeued => by
      obtain ⟨_, -, -, rfl⟩ := SchedulerCFS.enqueuePcb_eq_some.mp requeued
      exact same)
    (fun _ _ same => same) _ _ _ rfl scheduled

theorem KeysMatch.sched {kernel next : Kernel} {cpu : Nat} (keyed : KeysMatch kernel)
    (scheduled : Arch.sched kernel cpu = some next) : KeysMatch next :=
  @Arch.sched_induction KeysMatch (fun keyed selectedEq => keyed.schedSelect selectedEq)
    (fun _ _ _ keyed => keyed.refreshBudget _ _ _) (fun keyed requeued => keyed.schedEnqueue (by simp) requeued)
    (fun _ _ keyed => keyed.of_same rfl (fun _ => rfl) rfl) _ _ _ keyed scheduled

/-- `wakeup` resets only a blocked process's runtime, which keys no runnable queue entry. -/
theorem KeysMatch.wakeup {kernel next : Kernel} {pcb : PcbRef} {result : Except SystemError Unit}
    (keyed : KeysMatch kernel)
    (queuedRunnable : ∀ pcb, 0 < queuedCount kernel pcb → kernel.state pcb = .runnable)
    (woken : ProcessManager.wakeup kernel pcb = some (next, result)) : KeysMatch next := by
  rcases ProcessManager.wakeup_eq_some.mp woken with ⟨blocked, -, enqueued⟩ | ⟨-, rfl, -⟩
  · have absent : queuedCount kernel pcb = 0 := by
      by_contra queued
      rw [queuedRunnable pcb (Nat.pos_of_ne_zero queued)] at blocked
      cases blocked
    exact (keyed.setState pcb .runnable).schedEnqueue (fun _ => by simpa using absent) enqueued
  · exact keyed

theorem KeysMatch.wakeupWaiters {state : ProcessState} {waiters : List PcbRef} {kernel next : Kernel}
    {kept : List PcbRef} (keyed : KeysMatch kernel) (core : RunQueueCore kernel)
    (unblocked : ∀ cpu < kernel.maxCpuNum, RunsUnblocked kernel cpu)
    (woken : ProcessManager.wakeupWaiters kernel state waiters = some (next, kept)) : KeysMatch next :=
  (@ProcessManager.wakeupWaiters_induction state
    (fun kernel => KeysMatch kernel ∧ RunQueueCore kernel ∧ ∀ cpu < kernel.maxCpuNum, RunsUnblocked kernel cpu)
    (fun ⟨keyed, core, unblocked⟩ first =>
      let ⟨coreNext, wakes⟩ := core.wakeup (not_sleepingOnCpu unblocked _) first
      ⟨keyed.wakeup core.queuedRunnable first, coreNext, fun cpu inRange =>
        (unblocked cpu (wakes.maxCpuNum ▸ inRange)).of_wakes wakes⟩)
    waiters kernel next kept ⟨keyed, core, unblocked⟩ woken).1

theorem entryVruntime_exitNotify {kernel next : Kernel} {cpu : Nat}
    (notified : ProcessManager.exitNotify kernel cpu = some next) :
    next.entryVruntime = kernel.entryVruntime := by
  rcases ProcessManager.exitNotify_eq_some notified with rfl | rfl
  · rfl
  · unfold ProcessManager.adoptChilden
    split
    · dsimp only
      refine (Kernel.entryVruntime_updPcb _ _ ?_).trans (Kernel.entryVruntime_updPcb _ _ ?_) <;>
        exact fun _ => rfl
    · rfl

theorem KeysMatch.exit {kernel next : Kernel} {cpu exitCode : Nat} (keyed : KeysMatch kernel)
    (inv : RunQueueInv kernel) (inRange : cpu < kernel.maxCpuNum)
    (exited : ProcessManager.exit kernel cpu exitCode = some next) : KeysMatch next := by
  obtain ⟨woke, kept, wokenEq, notified, notifiedEq, scheduled⟩ := ProcessManager.exit_eq_some.mp exited
  obtain ⟨core, unblocked⟩ := inv.exitState inRange exitCode
  have keyedWoke := KeysMatch.wakeupWaiters (keyed.setState _ _) core unblocked wokenEq
  have keyedKept : KeysMatch (woke.updPcb (kernel.current cpu) fun p => { p with waitQueue := kept }) :=
    keyedWoke.updPcb _ fun _ => rfl
  obtain ⟨same, queues⟩ := exitNotify_same notifiedEq
  exact (keyedKept.of_same same.maxCpuNum (fun _ => by rw [queues])
    (entryVruntime_exitNotify notifiedEq)).sched scheduled

/-- The tick charges the running process, which no queue holds. -/
theorem KeysMatch.timer {kernel next : Kernel} {cpu : Nat} (keyed : KeysMatch kernel)
    (core : RunQueueCore kernel) (ticked : SchedulerCFS.timerUpdateJiffies kernel .root cpu = some next) :
    KeysMatch next := by
  simp only [SchedulerCFS.timerUpdateJiffies, bind, Option.bind_eq_some, Kernel.cpuQueue_eq_some, pure,
    Option.some.injEq] at ticked
  obtain ⟨_, ⟨inRange, rfl⟩, rfl⟩ := ticked
  have idle : queuedCount kernel (kernel.current cpu) = 0 := by
    have once := core.single (kernel.current cpu)
    have running := runningCount_pos kernel inRange
    omega
  have charged (flagged : Kernel) (cpus : flagged.maxCpuNum = kernel.maxCpuNum)
      (locked : ∀ queue, (flagged.queues queue).lockedQueue = (kernel.queues queue).lockedQueue)
      (runtimes : flagged.entryVruntime = kernel.entryVruntime) (current : flagged.current = kernel.current)
      {value : Int} : KeysMatch (flagged.setVirtualRuntime (flagged.current cpu) value) :=
    keyed.transfer (by simpa using cpus) fun other otherInRange entry member =>
      .inr ⟨by simpa [locked] using member, by
        rw [Kernel.entryVruntime_setVirtualRuntime, if_neg, runtimes]
        rw [current]
        exact not_queued_of_count idle otherInRange (by simpa [locked] using member)⟩
  have locked (queue : QueueRef) : ((kernel.updQueue ⟨.root, cpu⟩ fun q =>
      { q with cpuExecProcJiffies := q.cpuExecProcJiffies - 1#64 }).queues queue).lockedQueue =
        (kernel.queues queue).lockedQueue := by
    by_cases here : queue = ⟨.root, cpu⟩ <;> simp [here]
  split
  · refine charged _ ?_ (fun queue => by simpa using locked queue) (by simp) ?_ <;> rfl
  · refine charged _ ?_ locked ?_ ?_ <;> rfl

theorem KeysMatch.markSleep {kernel : Kernel} (keyed : KeysMatch kernel) (cpu : Nat)
    (interruptable : Bool) : KeysMatch (ProcessManager.markSleep kernel cpu interruptable).1 := by
  simp only [ProcessManager.markSleep]
  split
  · exact (keyed.setState _ _).updPcb _ fun _ => rfl
  · exact keyed

/-- Every step but a `mark_sleep` left without its `sched` keeps the keys. -/
theorem KeysMatch.step {kernel next : Kernel} {op : Op} (keyed : KeysMatch kernel)
    (inv : RunQueueInv kernel) (allowed : op.SleepsThenScheds) (stepped : op.run kernel = some next) :
    KeysMatch next := by
  cases op with
  | markSleep cpu interruptable => exact absurd rfl (allowed cpu interruptable)
  | sleep cpu interruptable => exact (keyed.markSleep cpu interruptable).sched (Op.run_sleep_eq_some.mp stepped).2
  | wakeup pcb =>
      obtain ⟨result, woken⟩ := Op.run_wakeup_eq_some.mp stepped
      exact keyed.wakeup inv.queuedRunnable woken
  | exit cpu exitCode =>
      obtain ⟨live, exited⟩ := Op.run_exit_eq_some.mp stepped
      exact keyed.exit inv live.1 exited
  | timer cpu => exact keyed.timer inv.toRunQueueCore stepped
  | sched cpu => exact keyed.sched stepped

/-- `entry.pcb()` reads only the entities. -/
theorem entryPcb_of_ses {kernel next : Kernel} (ses : next.ses = kernel.ses) :
    next.entryPcb = kernel.entryPcb := by
  funext entry
  cases entry <;> simp [Kernel.entryPcb, ses]

/-- `sched` pops the first entry, then switches to it or leaves the CPUs. -/
theorem Arch.sched_cases {kernel next : Kernel} {cpu : Nat} (scheduled : Arch.sched kernel cpu = some next) :
    cpu < kernel.maxCpuNum ∧ ∃ key first rest proc,
      (kernel.queues ⟨.root, cpu⟩).lockedQueue.entries = (key, first) :: rest ∧ kernel.entryPcb first = some proc ∧
      (next.current = Function.update kernel.current cpu proc ∨
        next.current = kernel.current ∧ kernel.state (kernel.current cpu) = .runnable ∧
          kernel.vruntime (kernel.current cpu) < kernel.vruntime proc) := by
  obtain ⟨after, picked, schedEq, switched⟩ := Arch.sched_eq_some.mp scheduled
  obtain ⟨selected, queue, se, selectedEq, proc, procEq, decided⟩ := SchedulerCFS.sched_eq_some.mp schedEq
  obtain ⟨inRange, rfl, same, -, -, -, -⟩ := schedSelect_entries selectedEq
  obtain ⟨-, -, rest, dequeued, -⟩ := SchedulerCFS.schedSelect_eq_some.mp selectedEq
  obtain ⟨key, popped⟩ := CFSQueue.dequeueSe_locked dequeued
  have afterSame := SameProcs.sched schedEq
  have runtimes : selected.vruntime = kernel.vruntime :=
    funext fun pcb => congrFun (entryVruntime_schedSelect selectedEq) (.pcb pcb)
  rw [entryPcb_of_ses same.ses] at procEq
  refine ⟨inRange, key, se, _, proc, popped, procEq, ?_⟩
  -- a switch is to the popped entry's process
  have toPopped (picks : picked = some se) : next.current = Function.update kernel.current cpu proc := by
    rcases switched with ⟨none, -⟩ | ⟨chosen, switchedTo, picked, found, rfl⟩
    · cases picks.symm.trans none
    · obtain rfl := Option.some.inj (picks.symm.trans picked)
      rw [entryPcb_of_ses afterSame.ses, procEq] at found
      obtain rfl := Option.some.inj found
      rw [Kernel.setCurrent, afterSame.current]
  rcases SchedulerCFS.schedDecide_cases decided with ⟨-, picks, -⟩ | ⟨-, -, picks, -⟩ | ⟨runnable, ahead, stays, -⟩
  · exact .inl (toPopped picks)
  · exact .inl (toPopped picks)
  · -- no switch: the running process is runnable and behind
    rcases switched with ⟨-, rfl⟩ | ⟨chosen, -, picked, -, -⟩
    · rw [same.current, same.state] at runnable
      rw [runtimes, same.current] at ahead
      exact .inr ⟨afterSame.current, runnable, ahead⟩
    · cases stays.symm.trans picked

/-- On a keyed queue the first entry has the least virtual runtime. -/
theorem KeysMatch.first_least {kernel : Kernel} {cpu : Nat} (keyed : KeysMatch kernel)
    (inRange : cpu < kernel.maxCpuNum) {key : Int} {first : Entry} {rest : List (Int × Entry)}
    (queued : (kernel.queues ⟨.root, cpu⟩).lockedQueue.entries = (key, first) :: rest) (other : PcbRef)
    (member : Entry.pcb other ∈ (kernel.queues ⟨.root, cpu⟩).entries) :
    kernel.entryVruntime first ≤ kernel.vruntime other := by
  obtain ⟨entry, listed, named⟩ := List.mem_map.mp member
  have sorted := (kernel.queues ⟨.root, cpu⟩).lockedQueue.sorted
  rw [queued, List.sorted_cons] at sorted
  have below : key ≤ entry.1 := by
    rw [queued] at listed
    rcases List.mem_cons.mp listed with rfl | later
    · exact le_refl _
    · exact sorted.1 entry later
  calc kernel.entryVruntime first = key := (keyed cpu inRange _ (queued ▸ List.mem_cons_self _ _)).symm
    _ ≤ entry.1 := below
    _ = kernel.vruntime other := by rw [keyed cpu inRange entry listed, named]; rfl

/-- After `sched` on a keyed queue the CPU runs a least-runtime process. -/
theorem KeysMatch.sched_least {kernel next : Kernel} {cpu : Nat} (keyed : KeysMatch kernel)
    (core : RunQueueCore kernel) (scheduled : Arch.sched kernel cpu = some next) (other : PcbRef)
    (member : Entry.pcb other ∈ (kernel.queues ⟨.root, cpu⟩).entries) :
    next.vruntime (next.current cpu) ≤ kernel.vruntime other := by
  have runtimes : next.vruntime = kernel.vruntime :=
    funext fun pcb => congrFun (entryVruntime_sched scheduled) (.pcb pcb)
  obtain ⟨inRange, key, first, rest, proc, popped, procEq, switched⟩ := Arch.sched_cases scheduled
  obtain ⟨candidate, rfl⟩ := core.processEntries cpu inRange first (by simp [CFSQueue.entries, popped])
  obtain rfl : candidate = proc := Option.some.inj procEq
  have least : kernel.vruntime candidate ≤ kernel.vruntime other := keyed.first_least inRange popped other member
  rw [runtimes]
  rcases switched with switchedTo | ⟨kept, -, ahead⟩
  · rwa [switchedTo, Function.update_same]
  · rw [kept]
    exact le_trans (le_of_lt ahead) least

/-- The run-queue invariant and the keys hold along every run of prompt sleeps. -/
theorem RunQueueInv.reachable_keys {start kernel : Kernel} (inv : RunQueueInv start)
    (keyed : KeysMatch start) (reached : Reachable Op.SleepsThenScheds start kernel) :
    RunQueueInv kernel ∧ KeysMatch kernel :=
  @Reachable.induction _ _ (fun kernel => RunQueueInv kernel ∧ KeysMatch kernel) ⟨inv, keyed⟩
    (fun _ _ _ holds allowed stepped => ⟨holds.1.step allowed stepped, holds.2.step holds.1 allowed stepped⟩)
    _ reached

/-- Along runs of prompt sleeps the keys stay, and `sched` picks a least runtime. -/
theorem sched_runs_least_vruntime {start kernel : Kernel} (inv : RunQueueInv start)
    (keyed : KeysMatch start) (reached : Reachable Op.SleepsThenScheds start kernel) :
    KeysMatch kernel ∧ ∀ cpu next, Arch.sched kernel cpu = some next →
      ∀ other, Entry.pcb other ∈ (kernel.queues ⟨.root, cpu⟩).entries →
        next.vruntime (next.current cpu) ≤ kernel.vruntime other := by
  obtain ⟨reachedInv, reachedKeys⟩ := inv.reachable_keys keyed reached
  exact ⟨reachedKeys, fun _ _ scheduled => reachedKeys.sched_least reachedInv.toRunQueueCore scheduled⟩

theorem twoCpus_keysMatch : KeysMatch twoCpus := fun _ _ _ member => by
  simp [twoCpus, CFSQueue.new] at member

/-- `twoCpus` after the init process 5, blocked, is woken: it is on CPU 0's queue. -/
def wokenInit : Kernel := (Op.runs twoCpus [.wakeup 5]).getD twoCpus

theorem wokenInit_runs_least :
    KeysMatch wokenInit ∧ ∀ cpu next, Arch.sched wokenInit cpu = some next →
      ∀ other, Entry.pcb other ∈ (wokenInit.queues ⟨.root, cpu⟩).entries →
        next.vruntime (next.current cpu) ≤ wokenInit.vruntime other :=
  sched_runs_least_vruntime twoCpus_inv twoCpus_keysMatch
    (.step (.wakeup 5) .refl (fun _ _ => Op.noConfusion) rfl)


/-- The steps that wake no process: all but `wakeup` and `exit`. -/
def Op.Quiet : Op → Prop
  | .wakeup _ | .exit _ _ => False
  | _ => True

/-- What one step charges `pcb`'s virtual runtime: a tick on a CPU running it. -/
def Op.charge (kernel : Kernel) (pcb : PcbRef) : Op → Nat
  | .timer cpu => if kernel.current cpu = pcb then 1 else 0
  | _ => 0

/-- The timer ticks of a run that found `pcb` running on their CPU. -/
def chargedTicks (pcb : PcbRef) : Kernel → List Op → Nat
  | _, [] => 0
  | kernel, op :: rest => op.charge kernel pcb + ((op.run kernel).map fun next => chargedTicks pcb next rest).getD 0

theorem Op.charge_le_one (kernel : Kernel) (pcb : PcbRef) (op : Op) : op.charge kernel pcb ≤ 1 := by
  unfold Op.charge
  split
  · split <;> omega
  · omega

/-- A value inside the `isize` range is its own wrapped value. -/
theorem bmod_isize_of_bounds {value : Int} (low : -9223372036854775808 ≤ value)
    (high : value < 9223372036854775808) : value.bmod 18446744073709551616 = value := by
  rw [Int.bmod_def]
  split <;> omega

/-- A step waking no process adds, wrapping as `isize`, a tick that found it running. -/
theorem vruntime_quiet_step {kernel next : Kernel} {op : Op} (quiet : op.Quiet)
    (stepped : op.run kernel = some next) (pcb : PcbRef) :
    next.vruntime pcb = if op.charge kernel pcb = 0 then kernel.vruntime pcb
      else (kernel.vruntime pcb + op.charge kernel pcb).bmod 18446744073709551616 := by
  have slept (cpu : Nat) (interruptable : Bool) :
      (ProcessManager.markSleep kernel cpu interruptable).1.vruntime pcb = kernel.vruntime pcb := by
    simp only [ProcessManager.markSleep]
    split <;> simp
  have scheduled {before after : Kernel} {cpu : Nat} (scheduledEq : Arch.sched before cpu = some after) :
      after.vruntime pcb = before.vruntime pcb :=
    congrFun (entryVruntime_sched scheduledEq) (.pcb pcb)
  cases op with
  | markSleep cpu interruptable =>
      obtain ⟨-, rfl⟩ := Op.run_markSleep_eq_some.mp stepped
      simp [slept, Op.charge]
  | sleep cpu interruptable => simp [scheduled (Op.run_sleep_eq_some.mp stepped).2, slept, Op.charge]
  | wakeup => exact quiet.elim
  | exit => exact quiet.elim
  | timer cpu =>
      simp only [Op.run, SchedulerCFS.timerUpdateJiffies, bind, Option.bind_eq_some, Kernel.cpuQueue_eq_some,
        pure, Option.some.injEq] at stepped
      obtain ⟨_, -, rfl⟩ := stepped
      by_cases running : kernel.current cpu = pcb
      · subst running
        split <;> simp [Op.charge]
      · split <;> simp [Op.charge, running, Ne.symm running]
  | sched cpu => simp [scheduled stepped, Op.charge]

/-- Along runs waking no process, each runtime gains its ticks modulo 2^64. -/
theorem vruntime_counts_ticks {kernel next : Kernel} {ops : List Op} (quiet : ∀ op ∈ ops, op.Quiet)
    (ran : Op.runs kernel ops = some next) (pcb : PcbRef) :
    next.vruntime pcb % 18446744073709551616 =
        (kernel.vruntime pcb + chargedTicks pcb kernel ops) % 18446744073709551616 ∧
      (-9223372036854775808 ≤ kernel.vruntime pcb →
        kernel.vruntime pcb + chargedTicks pcb kernel ops < 9223372036854775808 →
        next.vruntime pcb = kernel.vruntime pcb + chargedTicks pcb kernel ops) := by
  induction ops generalizing kernel with
  | nil =>
      cases ran
      simp [chargedTicks]
  | cons op rest inductionHypothesis =>
      simp only [Op.runs, Option.bind_eq_some] at ran
      obtain ⟨mid, stepped, ran⟩ := ran
      have first := vruntime_quiet_step (quiet op (List.mem_cons_self _ _)) stepped pcb
      obtain ⟨congruent, exact⟩ :=
        inductionHypothesis (fun op member => quiet op (List.mem_cons_of_mem _ member)) ran
      have charge := op.charge_le_one kernel pcb
      simp only [chargedTicks, stepped, Option.map_some', Option.getD_some, Nat.cast_add]
      -- the first step, modulo `2^64` and inside the range
      have firstMod : mid.vruntime pcb % 18446744073709551616 =
          (kernel.vruntime pcb + op.charge kernel pcb) % 18446744073709551616 := by
        rw [first]
        split
        · simp [*]
        · exact Int.bmod_emod
      refine ⟨by omega, fun low high => ?_⟩
      have firstExact : mid.vruntime pcb = kernel.vruntime pcb + op.charge kernel pcb := by
        rw [first]
        split
        · simp [*]
        · exact bmod_isize_of_bounds (by omega) (by omega)
      rw [exact (by omega) (by omega)]
      omega

/-- `twoCpus` after two ticks on CPU 0 and one on CPU 1. -/
def threeTicks : Kernel := (Op.runs twoCpus [.timer 0, .timer 1, .timer 0]).getD twoCpus

theorem threeTicks_charged :
    threeTicks.vruntime 3 % 18446744073709551616 =
        (twoCpus.vruntime 3 + chargedTicks 3 twoCpus [.timer 0, .timer 1, .timer 0]) % 18446744073709551616 ∧
      (-9223372036854775808 ≤ twoCpus.vruntime 3 →
        twoCpus.vruntime 3 + chargedTicks 3 twoCpus [.timer 0, .timer 1, .timer 0] < 9223372036854775808 →
        threeTicks.vruntime 3 = twoCpus.vruntime 3 + chargedTicks 3 twoCpus [.timer 0, .timer 1, .timer 0]) :=
  @vruntime_counts_ticks twoCpus threeTicks [.timer 0, .timer 1, .timer 0] (by simp [Op.Quiet]) rfl 3

end DragonOS
