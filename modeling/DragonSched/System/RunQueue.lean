import DragonSched.System.Step
import Mathlib.Algebra.Order.BigOperators.Group.Finset

namespace DragonOS

open Finset

/-- The entries of the process `pcb` over the run queues of all CPUs. -/
def queuedCount (kernel : Kernel) (pcb : PcbRef) : Nat :=
  ∑ cpu in range kernel.maxCpuNum, (kernel.queues ⟨.root, cpu⟩).entries.count (.pcb pcb)

/-- The CPUs on which `pcb` is running. -/
def runningCount (kernel : Kernel) (pcb : PcbRef) : Nat :=
  ∑ cpu in range kernel.maxCpuNum, if kernel.current cpu = pcb then 1 else 0

/-- Changing one term of a sum over the CPUs changes the sum by as much. -/
theorem sum_range_change {count cpu : Nat} (inRange : cpu < count) (before after : Nat → Nat)
    (elsewhere : ∀ other, other ≠ cpu → after other = before other) :
    (∑ other in range count, after other) + before cpu =
      (∑ other in range count, before other) + after cpu := by
  have member : cpu ∈ range count := mem_range.mpr inRange
  have rest : ∑ other in (range count).erase cpu, after other =
      ∑ other in (range count).erase cpu, before other :=
    sum_congr rfl fun other erased => elsewhere other (ne_of_mem_erase erased)
  rw [← add_sum_erase _ _ member, ← add_sum_erase _ _ member, rest]
  omega

section Counts

variable (kernel : Kernel)

theorem queuedCount_updQueue {cpu : Nat} (inRange : cpu < kernel.maxCpuNum) (change) (pcb : PcbRef) :
    queuedCount (kernel.updQueue ⟨.root, cpu⟩ change) pcb +
        (kernel.queues ⟨.root, cpu⟩).entries.count (.pcb pcb) =
      queuedCount kernel pcb + (change (kernel.queues ⟨.root, cpu⟩)).entries.count (.pcb pcb) := by
  have changed := sum_range_change inRange
    (fun other => (kernel.queues ⟨.root, other⟩).entries.count (.pcb pcb))
    (fun other =>
      ((kernel.updQueue ⟨.root, cpu⟩ change).queues ⟨.root, other⟩).entries.count (.pcb pcb))
    (fun other different => by simp [different])
  simpa [queuedCount] using changed

theorem runningCount_setCurrent {cpu : Nat} (inRange : cpu < kernel.maxCpuNum) (next pcb : PcbRef) :
    runningCount (kernel.setCurrent cpu next) pcb + (if kernel.current cpu = pcb then 1 else 0) =
      runningCount kernel pcb + (if next = pcb then 1 else 0) := by
  have changed := sum_range_change inRange
    (fun other => if kernel.current other = pcb then 1 else 0)
    (fun other => if (kernel.setCurrent cpu next).current other = pcb then 1 else 0)
    (fun other different => by simp [different])
  simpa [runningCount] using changed

/-- A running process keeps its CPU in the count. -/
theorem runningCount_pos {cpu : Nat} (inRange : cpu < kernel.maxCpuNum) :
    0 < runningCount kernel (kernel.current cpu) := by
  unfold runningCount
  exact lt_of_lt_of_le (by simp)
    (single_le_sum (f := fun other => if kernel.current other = kernel.current cpu then 1 else 0)
      (fun _ _ => Nat.zero_le _) (mem_range.mpr inRange))

/-- An entry on one CPU's queue counts. -/
theorem count_le_queuedCount {cpu : Nat} (inRange : cpu < kernel.maxCpuNum) (pcb : PcbRef) :
    (kernel.queues ⟨.root, cpu⟩).entries.count (.pcb pcb) ≤ queuedCount kernel pcb :=
  single_le_sum (f := fun cpu => (kernel.queues ⟨.root, cpu⟩).entries.count (.pcb pcb))
    (fun _ _ => Nat.zero_le _) (mem_range.mpr inRange)

@[simp] theorem queuedCount_setState (pcb state) :
    queuedCount (kernel.setState pcb state) = queuedCount kernel := rfl
@[simp] theorem queuedCount_updFlags (pcb change) :
    queuedCount (kernel.updFlags pcb change) = queuedCount kernel := rfl
@[simp] theorem queuedCount_setVirtualRuntime (pcb value) :
    queuedCount (kernel.setVirtualRuntime pcb value) = queuedCount kernel := rfl
@[simp] theorem queuedCount_updPcb (pcb change) :
    queuedCount (kernel.updPcb pcb change) = queuedCount kernel := rfl
@[simp] theorem queuedCount_setCurrent (cpu pcb) :
    queuedCount (kernel.setCurrent cpu pcb) = queuedCount kernel := rfl
@[simp] theorem runningCount_setState (pcb state) :
    runningCount (kernel.setState pcb state) = runningCount kernel := rfl
@[simp] theorem runningCount_updFlags (pcb change) :
    runningCount (kernel.updFlags pcb change) = runningCount kernel := rfl
@[simp] theorem runningCount_setVirtualRuntime (pcb value) :
    runningCount (kernel.setVirtualRuntime pcb value) = runningCount kernel := rfl
@[simp] theorem runningCount_updPcb (pcb change) :
    runningCount (kernel.updPcb pcb change) = runningCount kernel := rfl
@[simp] theorem runningCount_updQueue (queue change) :
    runningCount (kernel.updQueue queue change) = runningCount kernel := rfl

end Counts

/-- Two states with the same CPUs, running processes, process states, pids and entities. -/
structure SameProcs (kernel next : Kernel) : Prop where
  maxCpuNum : next.maxCpuNum = kernel.maxCpuNum
  current : next.current = kernel.current
  state : ∀ pcb, next.state pcb = kernel.state pcb
  pid : ∀ pcb, (next.pcbs pcb).pid = (kernel.pcbs pcb).pid
  ses : next.ses = kernel.ses

theorem SameProcs.refl (kernel : Kernel) : SameProcs kernel kernel := ⟨rfl, rfl, fun _ => rfl, fun _ => rfl, rfl⟩

theorem SameProcs.trans {first second third : Kernel} (one : SameProcs first second)
    (two : SameProcs second third) : SameProcs first third :=
  ⟨two.maxCpuNum.trans one.maxCpuNum, two.current.trans one.current,
    fun pcb => (two.state pcb).trans (one.state pcb), fun pcb => (two.pid pcb).trans (one.pid pcb),
    two.ses.trans one.ses⟩

theorem SameProcs.runningCount {kernel next : Kernel} (same : SameProcs kernel next) :
    runningCount next = runningCount kernel := by
  funext pcb
  simp only [DragonOS.runningCount, same.maxCpuNum, same.current]

theorem SameProcs.updQueue (kernel : Kernel) (queue change) : SameProcs kernel (kernel.updQueue queue change) :=
  ⟨rfl, rfl, fun _ => rfl, fun _ => rfl, rfl⟩

theorem SameProcs.setVirtualRuntime (kernel : Kernel) (pcb value) : SameProcs kernel (kernel.setVirtualRuntime pcb value) :=
  ⟨rfl, rfl, by simp, by simp, rfl⟩

theorem SameProcs.updFlags (kernel : Kernel) (pcb change) : SameProcs kernel (kernel.updFlags pcb change) :=
  ⟨rfl, rfl, by simp, by simp, rfl⟩

theorem SameProcs.refreshBudget (kernel : Kernel) (tested refreshed priority) :
    SameProcs kernel (SchedulerCFS.refreshBudget kernel tested refreshed priority) := by
  unfold SchedulerCFS.refreshBudget
  split
  · exact SameProcs.updQueue kernel _ _
  · exact SameProcs.refl kernel

@[simp] theorem CFSQueue.updateCpuExecProcJiffies_entries (priority) (queue : CFSQueue) :
    (queue.updateCpuExecProcJiffies priority).entries = queue.entries := rfl

theorem entries_refreshBudget (kernel : Kernel) (tested refreshed priority) (queue : QueueRef) :
    ((SchedulerCFS.refreshBudget kernel tested refreshed priority).queues queue).entries =
      (kernel.queues queue).entries := by
  unfold SchedulerCFS.refreshBudget
  split
  · by_cases same : queue = refreshed <;> simp [same]
  · rfl

theorem queuedCount_refreshBudget (kernel : Kernel) (tested refreshed priority) :
    queuedCount (SchedulerCFS.refreshBudget kernel tested refreshed priority) = queuedCount kernel := by
  funext pcb
  simp only [queuedCount, entries_refreshBudget, (SameProcs.refreshBudget kernel tested refreshed priority).maxCpuNum]

theorem queuedCount_enqueue (kernel : Kernel) {cpu : Nat} (inRange : cpu < kernel.maxCpuNum) (pcbs) (pcb other : PcbRef) :
    queuedCount (kernel.updQueue ⟨.root, cpu⟩ fun queue => queue.enqueue pcbs pcb) other =
      queuedCount kernel other + if other = pcb ∧ (pcbs pcb).pid ≠ 0 then 1 else 0 := by
  have changed := queuedCount_updQueue kernel inRange (fun queue => queue.enqueue pcbs pcb) other
  rw [(CFSQueue.enqueue_entries pcbs _ pcb).count_eq] at changed
  by_cases idle : (pcbs pcb).pid = 0
  · simp only [idle, ite_true, ne_eq, not_true_eq_false, and_false, ite_false] at changed ⊢
    omega
  · by_cases same : other = pcb
    · subst same
      simp only [idle, ite_false, List.count_cons_self, ne_eq, not_false_eq_true, and_self, ite_true] at changed ⊢
      omega
    · simp only [idle, ite_false, List.count_cons, Entry.pcb.injEq, beq_iff_eq, same, Ne.symm same,
        false_and, ite_false] at changed ⊢
      omega

theorem queuedCount_dequeueSe (kernel : Kernel) {cpu : Nat} (inRange : cpu < kernel.maxCpuNum)
    {se : Entry} {rest : CFSQueue} (popped : (kernel.queues ⟨.root, cpu⟩).dequeueSe = some (se, rest)) (other : PcbRef) :
    queuedCount (kernel.updQueue ⟨.root, cpu⟩ fun _ => rest) other + (if se = .pcb other then 1 else 0) =
      queuedCount kernel other := by
  have changed := queuedCount_updQueue kernel inRange (fun _ => rest) other
  rw [(CFSQueue.dequeueSe_eq_some popped).1, List.count_cons] at changed
  simp only [beq_iff_eq] at changed
  omega

theorem queuedCount_dequeue_le (kernel : Kernel) {cpu : Nat} (inRange : cpu < kernel.maxCpuNum) (other : PcbRef) :
    queuedCount (kernel.updQueue ⟨.root, cpu⟩ fun queue => queue.dequeue.2) other ≤ queuedCount kernel other := by
  have changed := queuedCount_updQueue kernel inRange (fun queue => queue.dequeue.2) other
  rcases CFSQueue.dequeue_entries (kernel.queues ⟨.root, cpu⟩) with ⟨_, same, _⟩ | shape
  · simp only [same] at changed
    omega
  · rw [shape, List.count_cons] at changed
    omega

theorem CFSQueue.mem_enqueue_entries {pcbs : PcbRef → ProcessControlBlock} {queue : CFSQueue}
    {pcb : PcbRef} {entry : Entry} (member : entry ∈ (queue.enqueue pcbs pcb).entries) :
    entry ∈ queue.entries ∨ entry = .pcb pcb := by
  have moved := (CFSQueue.enqueue_entries pcbs queue pcb).mem_iff.mp member
  split at moved
  · exact .inl moved
  · rcases List.mem_cons.mp moved with same | old
    · exact .inr same
    · exact .inl old

theorem SameProcs.resetVruntime (kernel : Kernel) (queue pcb) :
    SameProcs kernel (SchedulerCFS.resetVruntime kernel queue pcb) := by
  unfold SchedulerCFS.resetVruntime
  split
  · exact SameProcs.setVirtualRuntime kernel _ _
  · exact SameProcs.refl kernel

@[simp] theorem queues_resetVruntime (kernel : Kernel) (queue pcb) :
    (SchedulerCFS.resetVruntime kernel queue pcb).queues = kernel.queues := by
  unfold SchedulerCFS.resetVruntime
  split <;> rfl

/-- `sched_enqueue` adds one entry for a non-idle process on its CPU's queue. -/
theorem schedEnqueue_counts {kernel next : Kernel} {pcb : PcbRef} {resetTime : Bool}
    (enqueued : schedEnqueue kernel pcb resetTime = some next) :
    SameProcs kernel next ∧
      (∀ other, queuedCount next other =
        queuedCount kernel other + if other = pcb ∧ (kernel.pcbs pcb).pid ≠ 0 then 1 else 0) ∧
      ∀ cpu < kernel.maxCpuNum, ∀ entry ∈ (next.queues ⟨.root, cpu⟩).entries,
        entry ∈ (kernel.queues ⟨.root, cpu⟩).entries ∨ entry = .pcb pcb := by
  obtain ⟨reset, same, sameQueues, cpu, inRange, rfl⟩ : ∃ reset, SameProcs kernel reset ∧
      reset.queues = kernel.queues ∧ ∃ cpu, cpu < kernel.maxCpuNum ∧
        next = reset.updQueue ⟨.root, cpu⟩ fun queue => queue.enqueue reset.pcbs pcb := by
    unfold schedEnqueue at enqueued
    split at enqueued
    · obtain ⟨cpu, -, inRange, rfl⟩ := SchedulerCFS.enqueueResetVruntime_eq_some.mp enqueued
      exact ⟨_, SameProcs.resetVruntime kernel _ pcb, queues_resetVruntime _ _ _, cpu, inRange, rfl⟩
    · obtain ⟨cpu, -, inRange, rfl⟩ := SchedulerCFS.enqueuePcb_eq_some.mp enqueued
      exact ⟨kernel, SameProcs.refl kernel, rfl, cpu, inRange, rfl⟩
  have resetCount : queuedCount reset = queuedCount kernel := by
    funext other
    simp only [queuedCount, same.maxCpuNum, sameQueues]
  refine ⟨same.trans (SameProcs.updQueue _ _ _), fun other => ?_, fun other _ entry member => ?_⟩
  · rw [queuedCount_enqueue reset (same.maxCpuNum ▸ inRange), resetCount, same.pid]
  · by_cases here : other = cpu
    · subst here
      simp only [Kernel.updQueue_queues, ite_true] at member
      simpa [sameQueues] using CFSQueue.mem_enqueue_entries member
    · exact .inl (by simpa [here, sameQueues] using member)

theorem CFSQueue.mem_dequeue_entries {queue : CFSQueue} {entry : Entry}
    (member : entry ∈ queue.dequeue.2.entries) : entry ∈ queue.entries := by
  rcases CFSQueue.dequeue_entries queue with ⟨-, same, -⟩ | shape
  · rwa [same] at member
  · rw [shape]
    exact List.mem_cons_of_mem _ member

/-- A process that runs has a CPU. -/
theorem exists_running {kernel : Kernel} {pcb : PcbRef} (running : 0 < runningCount kernel pcb) :
    ∃ cpu < kernel.maxCpuNum, kernel.current cpu = pcb := by
  obtain ⟨cpu, member, positive⟩ := exists_lt_of_sum_lt (by simpa [runningCount] using running :
    ∑ cpu in range kernel.maxCpuNum, (0 : Nat) < runningCount kernel pcb)
  refine ⟨cpu, mem_range.mp member, ?_⟩
  by_contra different
  simp [different] at positive

/-- A process that two CPUs run counts twice. -/
theorem two_le_runningCount {kernel : Kernel} {cpu other : Nat} (inRange : cpu < kernel.maxCpuNum)
    (otherInRange : other < kernel.maxCpuNum) (different : other ≠ cpu)
    (shared : kernel.current other = kernel.current cpu) :
    2 ≤ runningCount kernel (kernel.current cpu) := by
  have pair : ({cpu, other} : Finset Nat) ⊆ range kernel.maxCpuNum := by
    intro member
    simp only [mem_insert, mem_singleton, mem_range]
    rintro (rfl | rfl) <;> assumption
  calc 2 = ∑ each in {cpu, other}, if kernel.current each = kernel.current cpu then 1 else 0 := by
        rw [sum_pair (Ne.symm different)]
        simp [shared]
    _ ≤ runningCount kernel (kernel.current cpu) := sum_le_sum_of_subset pair

end DragonOS
