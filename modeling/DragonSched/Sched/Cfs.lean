import DragonSched.Kernel

namespace DragonOS

namespace SchedulerCFS

/-- `SchedulerCFS::enqueue_pcb`: the run queue of the CPU the process records. -/
def enqueuePcb (kernel : Kernel) (sched : SchedId) (pcb : PcbRef) : Option Kernel := do
  let cpu ← (kernel.pcbs pcb).schedInfo.onCpu
  let queue ← kernel.cpuQueue sched cpu
  pure (kernel.updQueue queue fun q => q.enqueue kernel.pcbs pcb)

/-- `SchedulerCFS::enqueue_reset_vruntime`: on a non-empty queue, first the queue's `min_vruntime`. -/
def enqueueResetVruntime (kernel : Kernel) (sched : SchedId) (pcb : PcbRef) : Option Kernel := do
  let cpu ← (kernel.pcbs pcb).schedInfo.onCpu
  let queue ← kernel.cpuQueue sched cpu
  let tree := (kernel.queues queue).lockedQueue
  let kernel := if 0 < tree.len then
      kernel.setVirtualRuntime pcb ((CFSQueue.minVruntime kernel.entryVruntime tree).getD 0)
    else kernel
  pure (kernel.updQueue queue fun q => q.enqueue kernel.pcbs pcb)

/-- `SchedulerCFS::enqueue_se`: the process's entity, on the queue of its recorded CPU. -/
def enqueueSe (kernel : Kernel) (sched : SchedId) (pcb : PcbRef) : Option Kernel := do
  let cpu ← (kernel.pcbs pcb).schedInfo.onCpu
  let queue ← kernel.cpuQueue sched cpu
  let se ← (kernel.pcbs pcb).schedInfo.se
  pure (kernel.updQueue queue fun q => q.enqueueSe kernel.ses se)

/-- `SchedulerCFS::enqueue_group_se`. -/
def enqueueGroupSe (kernel : Kernel) (sched : SchedId) (tgSe : SeRef) (cpu : Nat) :
    Option Kernel := do
  let queue ← kernel.cpuQueue sched cpu
  pure (kernel.updQueue queue fun q => q.enqueueSe kernel.ses tgSe)

/-- `SchedulerCFS::timer_update_jiffies`: `increase_virtual_runtime(1)` is a wrapping `isize` add. -/
def timerUpdateJiffies (kernel : Kernel) (sched : SchedId) (cpu : Nat) : Option Kernel := do
  let queue ← kernel.cpuQueue sched cpu
  let kernel := kernel.updQueue queue fun q =>
    { q with cpuExecProcJiffies := q.cpuExecProcJiffies - 1#64 }
  let kernel := if (kernel.queues queue).cpuExecProcJiffies.sle 0#64 then
      kernel.updFlags (kernel.current cpu) (·.insert .needSchedule)
    else kernel
  pure (kernel.setVirtualRuntime (kernel.current cpu)
    ((kernel.vruntime (kernel.current cpu) + 1).bmod 18446744073709551616))

end SchedulerCFS

namespace SchedulerCFS

/-- `SchedulerCFS::new`: a fresh `CFSQueue` per CPU, with that CPU's idle process. -/
def new (kernel : Kernel) : Kernel :=
  { kernel with
    queues := fun queue =>
      if queue.sched = .root then CFSQueue.new (kernel.idlePcb queue.cpu) else kernel.queues queue }

end SchedulerCFS

/-- `sched_cfs_init`: panics once `CFS_SCHEDULER_PTR` is set. -/
def schedCfsInit (kernel : Kernel) : Option Kernel :=
  if kernel.cfsSchedulerPtr then none else some { SchedulerCFS.new kernel with cfsSchedulerPtr := true }

/-- `sched_enqueue`, not in the source: assumed `enqueue_reset_vruntime` on `reset_time`, else `enqueue_pcb`. -/
def schedEnqueue (kernel : Kernel) (pcb : PcbRef) (resetTime : Bool) : Option Kernel :=
  if resetTime then SchedulerCFS.enqueueResetVruntime kernel .root pcb
  else SchedulerCFS.enqueuePcb kernel .root pcb

namespace SchedulerCFS

/-- The budget refresh of `sched`: `refreshed` is refreshed when `tested` is used up. -/
def refreshBudget (kernel : Kernel) (tested refreshed : QueueRef) (priority : SchedPriority) :
    Kernel :=
  if (kernel.queues tested).cpuExecProcJiffies.sle 0#64 then
    kernel.updQueue refreshed (CFSQueue.updateCpuExecProcJiffies priority)
  else kernel

/-- The selection half of `SchedulerCFS::sched`; the descent loop's condition pops once more. -/
def schedSelect (kernel : Kernel) (cpu : Nat) : Option (Kernel × QueueRef × Entry) := do
  let kernel := kernel.updFlags (kernel.current cpu) (·.remove .needSchedule)
  let currentCpuQueue ← kernel.cpuQueue .root cpu
  let (se, rest) ← (kernel.queues currentCpuQueue).dequeueSe
  let kernel := kernel.updQueue currentCpuQueue fun _ => rest
  let kernel := kernel.updQueue currentCpuQueue fun q => q.dequeue.2
  pure (kernel, currentCpuQueue, se)

/-- The decision half of `sched`: switch to `proc`, or push the candidate back. -/
def schedDecide (kernel : Kernel) (current : PcbRef) (currentCpuQueue finalCpuQueue : QueueRef)
    (se : Entry) (proc : PcbRef) : Option (Kernel × Option Entry) :=
  if kernel.state current ≠ .runnable ∨ kernel.vruntime proc ≤ kernel.vruntime current then do
    let kernel ← if kernel.state current = .runnable then schedEnqueue kernel current false
      else pure kernel
    pure (refreshBudget kernel finalCpuQueue currentCpuQueue (kernel.pcbs proc).schedInfo.priority,
      some se)
  else do
    let kernel := refreshBudget kernel finalCpuQueue finalCpuQueue
      (kernel.pcbs current).schedInfo.priority
    let kernel ← schedEnqueue kernel proc false
    pure (kernel, none)

/-- `SchedulerCFS::sched`; with no descent, `final_cpu_queue` is `current_cpu_queue`. -/
def sched (kernel : Kernel) (cpu : Nat) : Option (Kernel × Option Entry) := do
  let (kernel, currentCpuQueue, se) ← schedSelect kernel cpu
  let finalCpuQueue := currentCpuQueue
  let proc ← kernel.entryPcb se
  schedDecide kernel (kernel.current cpu) currentCpuQueue finalCpuQueue se proc

end SchedulerCFS

namespace Arch

/-- The architecture's `sched()`, not in the source: `SchedulerCFS::sched`, then the switch. -/
def sched (kernel : Kernel) (cpu : Nat) : Option Kernel := do
  let (kernel, next) ← SchedulerCFS.sched kernel cpu
  match next with
  | none => pure kernel
  | some se => do
      let proc ← kernel.entryPcb se
      pure (kernel.setCurrent cpu proc)

end Arch

namespace SchedulerCFS

theorem enqueuePcb_eq_some {kernel next : Kernel} {sched : SchedId} {pcb : PcbRef} :
    enqueuePcb kernel sched pcb = some next ↔
      ∃ cpu, (kernel.pcbs pcb).schedInfo.onCpu = some cpu ∧ cpu < kernel.maxCpuNum ∧
        next = kernel.updQueue ⟨sched, cpu⟩ fun queue => queue.enqueue kernel.pcbs pcb := by
  simp only [enqueuePcb, bind, Option.bind_eq_some, Kernel.cpuQueue_eq_some, pure,
    Option.some.injEq]
  constructor
  · rintro ⟨cpu, onCpu, _, ⟨inRange, rfl⟩, rfl⟩
    exact ⟨cpu, onCpu, inRange, rfl⟩
  · rintro ⟨cpu, onCpu, inRange, rfl⟩
    exact ⟨cpu, onCpu, _, ⟨inRange, rfl⟩, rfl⟩

theorem enqueueSe_eq_some {kernel next : Kernel} {sched : SchedId} {pcb : PcbRef} :
    enqueueSe kernel sched pcb = some next ↔
      ∃ cpu, (kernel.pcbs pcb).schedInfo.onCpu = some cpu ∧ cpu < kernel.maxCpuNum ∧
        ∃ se, (kernel.pcbs pcb).schedInfo.se = some se ∧
          next = kernel.updQueue ⟨sched, cpu⟩ fun queue => queue.enqueueSe kernel.ses se := by
  simp only [enqueueSe, bind, Option.bind_eq_some, Kernel.cpuQueue_eq_some, pure,
    Option.some.injEq]
  constructor
  · rintro ⟨cpu, onCpu, _, ⟨inRange, rfl⟩, se, seEq, rfl⟩
    exact ⟨cpu, onCpu, inRange, se, seEq, rfl⟩
  · rintro ⟨cpu, onCpu, inRange, se, seEq, rfl⟩
    exact ⟨cpu, onCpu, _, ⟨inRange, rfl⟩, se, seEq, rfl⟩

theorem enqueueGroupSe_of_lt {kernel : Kernel} {sched : SchedId} {tgSe : SeRef} {cpu : Nat}
    (inRange : cpu < kernel.maxCpuNum) :
    enqueueGroupSe kernel sched tgSe cpu =
      some (kernel.updQueue ⟨sched, cpu⟩ fun queue => queue.enqueueSe kernel.ses tgSe) := by
  simp [enqueueGroupSe, Kernel.cpuQueue, inRange, pure]

/-- The state `enqueue_reset_vruntime` inserts the process from. -/
def resetVruntime (kernel : Kernel) (queue : QueueRef) (pcb : PcbRef) : Kernel :=
  if 0 < (kernel.queues queue).lockedQueue.len then
    kernel.setVirtualRuntime pcb
      ((CFSQueue.minVruntime kernel.entryVruntime (kernel.queues queue).lockedQueue).getD 0)
  else kernel

theorem enqueueResetVruntime_eq_some {kernel next : Kernel} {sched : SchedId} {pcb : PcbRef} :
    enqueueResetVruntime kernel sched pcb = some next ↔
      ∃ cpu, (kernel.pcbs pcb).schedInfo.onCpu = some cpu ∧ cpu < kernel.maxCpuNum ∧
        next = (resetVruntime kernel ⟨sched, cpu⟩ pcb).updQueue ⟨sched, cpu⟩ fun queue =>
          queue.enqueue (resetVruntime kernel ⟨sched, cpu⟩ pcb).pcbs pcb := by
  simp only [enqueueResetVruntime, resetVruntime, bind, Option.bind_eq_some,
    Kernel.cpuQueue_eq_some, pure, Option.some.injEq]
  constructor
  · rintro ⟨cpu, onCpu, _, ⟨inRange, rfl⟩, rfl⟩
    exact ⟨cpu, onCpu, inRange, rfl⟩
  · rintro ⟨cpu, onCpu, inRange, rfl⟩
    exact ⟨cpu, onCpu, _, ⟨inRange, rfl⟩, rfl⟩

theorem schedSelect_eq_some {kernel next : Kernel} {cpu : Nat} {queue : QueueRef} {se : Entry} :
    schedSelect kernel cpu = some (next, queue, se) ↔
      cpu < kernel.maxCpuNum ∧ queue = ⟨.root, cpu⟩ ∧ ∃ rest,
        (kernel.queues ⟨.root, cpu⟩).dequeueSe = some (se, rest) ∧
        next = (((kernel.updFlags (kernel.current cpu) (·.remove .needSchedule)).updQueue
          ⟨.root, cpu⟩ fun _ => rest).updQueue ⟨.root, cpu⟩ fun q => q.dequeue.2) := by
  simp only [schedSelect, bind, Option.bind_eq_some, Kernel.cpuQueue_eq_some, pure,
    Option.some.injEq, Kernel.updFlags_maxCpuNum, Kernel.updFlags_queues, Prod.mk.injEq]
  constructor
  · rintro ⟨_, ⟨inRange, rfl⟩, ⟨popped, rest⟩, dequeued, rfl, rfl, rfl⟩
    exact ⟨inRange, rfl, rest, dequeued, rfl⟩
  · rintro ⟨inRange, rfl, rest, dequeued, rfl⟩
    exact ⟨_, ⟨inRange, rfl⟩, (se, rest), dequeued, rfl, rfl, rfl⟩

theorem sched_eq_some {kernel next : Kernel} {cpu : Nat} {picked : Option Entry} :
    sched kernel cpu = some (next, picked) ↔
      ∃ selected queue se, schedSelect kernel cpu = some (selected, queue, se) ∧ ∃ proc,
        selected.entryPcb se = some proc ∧
        schedDecide selected (selected.current cpu) queue queue se proc = some (next, picked) := by
  simp only [sched, bind, Option.bind_eq_some, Prod.exists]

/-- The three branches of the decision half of `sched`. -/
theorem schedDecide_cases {kernel next : Kernel} {current : PcbRef} {queue final : QueueRef}
    {se : Entry} {proc : PcbRef} {picked : Option Entry}
    (decided : schedDecide kernel current queue final se proc = some (next, picked)) :
    (kernel.state current ≠ .runnable ∧ picked = some se ∧
        next = refreshBudget kernel final queue (kernel.pcbs proc).schedInfo.priority) ∨
      (kernel.state current = .runnable ∧ kernel.vruntime proc ≤ kernel.vruntime current ∧
        picked = some se ∧ ∃ requeued, schedEnqueue kernel current false = some requeued ∧
          next = refreshBudget requeued final queue (requeued.pcbs proc).schedInfo.priority) ∨
      (kernel.state current = .runnable ∧ kernel.vruntime current < kernel.vruntime proc ∧
        picked = none ∧
        schedEnqueue (refreshBudget kernel final final (kernel.pcbs current).schedInfo.priority)
          proc false = some next) := by
  by_cases runnable : kernel.state current = .runnable
  · by_cases behind : kernel.vruntime proc ≤ kernel.vruntime current
    · simp only [schedDecide, runnable, behind, ne_eq, not_true_eq_false, or_true, ite_true, bind,
        Option.bind_eq_some, pure, Option.some.injEq, Prod.mk.injEq] at decided
      obtain ⟨requeued, requeuedEq, rfl, rfl⟩ := decided
      exact .inr (.inl ⟨runnable, behind, rfl, requeued, requeuedEq, rfl⟩)
    · simp only [schedDecide, runnable, behind, ne_eq, not_true_eq_false, or_false, ite_false, bind,
        Option.bind_eq_some, pure, Option.some.injEq, Prod.mk.injEq] at decided
      obtain ⟨after, afterEq, rfl, rfl⟩ := decided
      exact .inr (.inr ⟨runnable, lt_of_not_le behind, rfl, afterEq⟩)
  · simp only [schedDecide, runnable, ne_eq, not_false_eq_true, true_or, ite_true, ite_false, bind,
      Option.bind_eq_some, pure, Option.some.injEq, Prod.mk.injEq] at decided
    obtain ⟨_, rfl, rfl, rfl⟩ := decided
    exact .inl ⟨runnable, rfl, rfl⟩

end SchedulerCFS

theorem Arch.sched_eq_some {kernel next : Kernel} {cpu : Nat} :
    Arch.sched kernel cpu = some next ↔
      ∃ after picked, SchedulerCFS.sched kernel cpu = some (after, picked) ∧
        (picked = none ∧ next = after ∨
          ∃ se proc, picked = some se ∧ after.entryPcb se = some proc ∧
            after.setCurrent cpu proc = next) := by
  simp only [Arch.sched, bind, Option.bind_eq_some, Prod.exists]
  refine exists_congr fun after => exists_congr fun picked => and_congr_right fun _ => ?_
  cases picked with
  | none => simp [pure, eq_comm]
  | some se => simp [pure, Option.bind_eq_some]


/-- What the selection, a refresh, a plain re-enqueue and a switch keep, `sched` keeps. -/
theorem Arch.sched_induction {holds : Kernel → Prop}
    (select : ∀ {kernel selected : Kernel} {cpu : Nat} {queue : QueueRef} {se : Entry}, holds kernel →
      SchedulerCFS.schedSelect kernel cpu = some (selected, queue, se) → holds selected)
    (refresh : ∀ {kernel : Kernel} (tested refreshed : QueueRef) (priority : SchedPriority), holds kernel →
      holds (SchedulerCFS.refreshBudget kernel tested refreshed priority))
    (requeue : ∀ {kernel next : Kernel} {pcb : PcbRef}, holds kernel → schedEnqueue kernel pcb false = some next →
      holds next)
    (switch : ∀ {kernel : Kernel} (cpu : Nat) (pcb : PcbRef), holds kernel → holds (kernel.setCurrent cpu pcb))
    {kernel next : Kernel} {cpu : Nat} (held : holds kernel) (scheduled : Arch.sched kernel cpu = some next) :
    holds next := by
  obtain ⟨after, picked, schedEq, switched⟩ := Arch.sched_eq_some.mp scheduled
  obtain ⟨selected, queue, se, selectedEq, proc, -, decided⟩ := SchedulerCFS.sched_eq_some.mp schedEq
  have heldAfter : holds after := by
    rcases SchedulerCFS.schedDecide_cases decided with
      ⟨-, -, rfl⟩ | ⟨-, -, -, requeued, requeuedEq, rfl⟩ | ⟨-, -, -, pushedEq⟩
    · exact refresh _ _ _ (select held selectedEq)
    · exact refresh _ _ _ (requeue (select held selectedEq) requeuedEq)
    · exact requeue (refresh _ _ _ (select held selectedEq)) pushedEq
  rcases switched with ⟨-, rfl⟩ | ⟨_, _, _, _, rfl⟩
  · exact heldAfter
  · exact switch _ _ heldAfter

end DragonOS
